import Canal.Lib.Reader
import Canal.Store

namespace Canal
set_option autoImplicit true

open KeyedLog

namespace LogPosition

theorem selects_positional {start : LogPosition} (h : start.timestamp = none) (e : CanalEvent) :
    start.selects e = decide (start.key < e.key) := by
  simp only [selects, h]

/-- Once the cursor selects an event of the list, it selects all behind it. -/
def Divides (start : LogPosition) (l : List CanalEvent) : Prop :=
  l.Pairwise fun a b => start.selects a = true → start.selects b = true

/-- What a read from the cursor can return, in order: the events from its start index on. -/
def readable (start : LogPosition) (l : List CanalEvent) : List CanalEvent :=
  l.drop (MemoryEventStore.startIndex start l)

@[simp] theorem readable_nil (start : LogPosition) : start.readable [] = [] := List.drop_nil

theorem readable_suffix (start : LogPosition) (l : List CanalEvent) : start.readable l <:+ l :=
  List.drop_suffix ..

/-- A timestamp cursor starts at the first event that it selects, in whatever order they are. -/
theorem readable_timestamp {start : LogPosition} (h : start.timestamp = some ts)
    (l : List CanalEvent) : start.readable l = suffixFrom start.selects l := by
  have hs : start.selects = fun e => decide (ts ≤ e.executeTime) := by
    funext e
    simp only [selects, h]
  rw [readable, suffixFrom, List.dropWhile_eq_drop_findIdx_not]
  simp only [MemoryEventStore.startIndex, h, hs, Bool.not_not]

theorem not_le_eq_selects {start : LogPosition} (h : start.timestamp = none) (e : CanalEvent) :
    decide (e.key ≤ start.key) = !start.selects e := by
  rw [selects_positional h, ← decide_not]
  simp only [not_lt]

/-- So does a positional cursor, where the binary search finds what it looks for. -/
theorem readable_append {start : LogPosition} (h : start.timestamp = none)
    (hp : ∀ e ∈ p, start.selects e = false) (hr : ∀ e ∈ r, start.selects e = true) :
    start.readable (p ++ r) = r := by
  have hindex : MemoryEventStore.startIndex start (p ++ r) = p.length := by
    simp only [MemoryEventStore.startIndex, h, partitionPoint]
    apply BinarySearch.bisect_append
    · intro e he
      rw [not_le_eq_selects h, hp e he, Bool.not_false]
    · intro e he
      rw [not_le_eq_selects h, hr e he, Bool.not_true]
  rw [readable, hindex, List.drop_left]

theorem readable_divided {start : LogPosition}
    (hd : start.timestamp = none → start.Divides l) :
    start.readable l = suffixFrom start.selects l := by
  cases hs : start.timestamp with
  | some ts => exact readable_timestamp hs l
  | none =>
    have h := hd hs
    have hfront : ∀ e ∈ l.takeWhile fun e => !start.selects e, start.selects e = false := by
      intro e he
      simpa using List.mem_takeWhile_imp he
    have hrest : ∀ e ∈ suffixFrom start.selects l, start.selects e = true := by
      intro e he
      unfold Divides at h
      rw [← List.takeWhile_append_dropWhile (p := fun e => !start.selects e) (l := l)] at h
      have hpair := (List.pairwise_append.1 h).2.1
      rw [suffixFrom] at he
      cases hd : l.dropWhile fun e => !start.selects e with
      | nil =>
        rw [hd] at he
        cases he
      | cons a as =>
        have ha : start.selects a = true := by
          have hhead := List.head?_dropWhile_not (fun e => !start.selects e) l
          rw [hd] at hhead
          simpa using hhead
        rw [hd] at he hpair
        rcases List.mem_cons.1 he with rfl | he
        · exact ha
        · exact List.rel_of_pairwise_cons hpair he ha
    conv => lhs; rw [← List.takeWhile_append_dropWhile (p := fun e => !start.selects e) (l := l)]
    exact readable_append hs hfront hrest

theorem divides_of_ascending {start : LogPosition} (h : start.timestamp = none)
    (hl : Ascending CanalEvent.key l) : start.Divides l := by
  apply hl.imp
  intro a b hab ha
  rw [selects_positional h, decide_eq_true_eq] at ha ⊢
  exact lt_of_lt_of_le ha hab

theorem readable_positional {start : LogPosition} (h : start.timestamp = none)
    (hl : Ascending CanalEvent.key l) :
    start.readable l = after CanalEvent.key start.key l := by
  rw [readable_divided fun _ => divides_of_ascending h hl, ← hl.dropWhile_eq_after, suffixFrom]
  congr 1
  funext e
  rw [not_le_eq_selects h]

theorem readable_ascending (start : LogPosition) (hl : Ascending CanalEvent.key l) :
    start.readable l = suffixFrom start.selects l :=
  readable_divided fun hs => divides_of_ascending hs hl

theorem readable_eq_nil {start : LogPosition} (h : ∀ e ∈ l, start.selects e = false) :
    start.readable l = [] := by
  have hd : start.Divides l :=
    List.pairwise_of_forall_mem_list fun a ha _ _ hs => by rw [h a ha] at hs; cases hs
  rw [readable_divided fun _ => hd, suffixFrom, List.dropWhile_eq_nil_iff]
  intro e he
  rw [h e he]
  rfl

end LogPosition

namespace MemoryEventStore

theorem drop_startIndex (start : LogPosition) (slice : List CanalEvent) :
    slice.drop (startIndex start slice) = start.readable slice := rfl

theorem sliceFrom_eq_page (h : i < slice.length) (n : Nat) :
    sliceFrom i n slice = page CanalEvent.key (max n 1) (slice.drop i) := by
  obtain ⟨p, r, rfl, rfl⟩ : ∃ p r, slice = p ++ r ∧ i = p.length :=
    ⟨slice.take i, slice.drop i, (List.take_append_drop ..).symm, by
      rw [List.length_take]
      omega⟩
  rw [List.length_append] at h
  rw [List.drop_left]
  have hm : 0 < max n 1 := by omega
  unfold sliceFrom page
  generalize max n 1 = m at hm ⊢
  have hlen : (r.take m).length = min m r.length := List.length_take ..
  have hlast : (p ++ r)[min (p.length + m) (p.length + r.length) - 1]? = (r.take m).getLast? := by
    rw [List.getLast?_eq_getElem?, List.getElem?_append_right (by omega), hlen,
      List.getElem?_take_of_lt (by omega)]
    congr 1
    omega
  have hbase : (p ++ r).drop (min (p.length + m) (p.length + r.length)) = r.drop m := by
    rw [List.drop_append, List.drop_eq_nil_of_le (by omega), List.nil_append]
    by_cases hr : m ≤ r.length
    · congr 1
      omega
    · rw [List.drop_eq_nil_of_le (by omega), List.drop_eq_nil_of_le (by omega)]
  simp only [List.length_append, hlast, hbase]
  cases ht : (r.take m).getLast? with
  | none => rfl
  | some t =>
    simp only
    generalize hw : ((r.drop m).takeWhile fun e => e.key = t.key) = w
    obtain ⟨d, hd⟩ : ∃ d, r = r.take m ++ w ++ d :=
      ⟨_, by rw [List.append_assoc, ← hw, List.takeWhile_append_dropWhile,
        List.take_append_drop]⟩
    have htake : (p ++ r).take (w.length + min (p.length + m) (p.length + r.length)) =
        p ++ (r.take m ++ w) := by
      calc (p ++ r).take (w.length + min (p.length + m) (p.length + r.length))
          = (p ++ (r.take m ++ w) ++ d).take
              (w.length + min (p.length + m) (p.length + r.length)) := by
            rw [List.append_assoc p, ← hd]
        _ = p ++ (r.take m ++ w) := by
            apply List.take_left'
            rw [List.length_append, List.length_append, hlen]
            omega
    rw [htake, List.drop_left]

/-- A locked read returns a page of what is readable, under a fresh id, or nothing. -/
theorem lockedRead_eq (s : MemoryEventStore) (start : LogPosition) (n : Nat) :
    s.lockedRead start n =
      if start.readable s.buffer = [] then (s, none)
      else ({ s with batchIdSeq := s.batchIdSeq + 1 },
        some (Events.withEvents (page CanalEvent.key (max n 1) (start.readable s.buffer))
          s.batchIdSeq)) := by
  have hd := drop_startIndex start s.buffer
  by_cases h : startIndex start s.buffer < s.buffer.length
  · have hne : start.readable s.buffer ≠ [] := by
      rw [← hd, Ne, List.drop_eq_nil_iff]
      omega
    have hp : page CanalEvent.key (max n 1) (start.readable s.buffer) ≠ [] :=
      page_ne_nil (by omega) hne
    simp only [lockedRead, h, ↓reduceIte, sliceFrom_eq_page h, hd, hne]
    rw [if_pos (by simpa [List.isEmpty_iff] using hp)]
  · have he : start.readable s.buffer = [] := by
      rw [← hd, List.drop_eq_nil_iff]
      omega
    simp only [lockedRead, h, ↓reduceIte, he]

theorem lockedRead_buffer (s : MemoryEventStore) (start : LogPosition) (n : Nat) :
    (s.lockedRead start n).1.buffer = s.buffer := by
  rw [lockedRead_eq]
  split <;> rfl

theorem lastDropped_eq (h : n ≤ l.length) :
    lastDropped n l = (l.take n).getLast?.map CanalEvent.logPosition := by
  rw [List.getLast?_eq_getElem?, List.length_take, Nat.min_eq_left h]
  unfold lastDropped
  by_cases hn : 0 < n
  · rw [if_pos hn, List.getElem?_take_of_lt (by omega)]
  · rw [if_neg hn, Nat.eq_zero_of_not_pos hn]
    simp only [List.take_zero, List.getElem?_nil, Option.map_none]

@[simp] theorem raise_none_left (p : Option LogPosition) : raise none p = p := by
  cases p <;> rfl

@[simp] theorem raise_none_right (c : Option LogPosition) : raise c none = c := by
  cases c <;> rfl

theorem mem_putBatch (s : MemoryEventStore)
    (h : e ∈ (s.putBatch d events).store.buffer) : e ∈ s.buffer ∨ e ∈ events := by
  unfold putBatch at h
  split at h
  · exact .inl h
  simp only at h
  split at h
  · split at h
    · exact .inl (List.mem_of_mem_drop h)
    · rcases List.mem_append.mp h with h | h
      · exact .inl (List.mem_of_mem_drop h)
      · exact .inr (List.mem_of_mem_drop h)
  · exact .inl (List.mem_of_mem_drop h)

/-- The maximum of two positions that stand for the last entries of consecutive parts of an
ascending log stands for the last entry of both. -/
theorem raise_last (hc : cur.map LogPosition.key = a.getLast?.map CanalEvent.key)
    (hp : pos.map LogPosition.key = b.getLast?.map CanalEvent.key)
    (h : Ascending CanalEvent.key (a ++ b)) :
    (raise cur pos).map LogPosition.key = (a ++ b).getLast?.map CanalEvent.key := by
  rw [List.getLast?_append]
  cases hb : b.getLast? with
  | none =>
    rw [hb, Option.map_none, Option.map_eq_none_iff] at hp
    rw [hp, raise_none_right, hc, Option.none_or]
  | some y =>
    rw [hb, Option.map_some, Option.map_eq_some_iff] at hp
    obtain ⟨p, rfl, hpy⟩ := hp
    rw [Option.some_or, Option.map_some, ← hpy]
    cases ha : a.getLast? with
    | none =>
      rw [ha, Option.map_none, Option.map_eq_none_iff] at hc
      rw [hc, raise_none_left, Option.map_some]
    | some x =>
      rw [ha, Option.map_some, Option.map_eq_some_iff] at hc
      obtain ⟨c, rfl, hcx⟩ := hc
      have hle : c.key ≤ p.key := by
        rw [hcx, hpy]
        exact h.le_of_append (List.mem_of_getLast? ha) (List.mem_of_getLast? hb)
      simp only [raise]
      split
      · rfl
      · rename_i hlt
        rw [LogPosition.lt_iff] at hlt
        rw [Option.map_some, le_antisymm hle (not_lt.1 hlt)]

theorem drainCount_eq (s : MemoryEventStore) (n : Nat) :
    s.drainCount n = min (s.buffer.length + n - s.capacity) s.buffer.length := by
  simp only [drainCount]
  split <;> omega

theorem skipCount_eq (s : MemoryEventStore) (n : Nat) : s.skipCount n = n - s.capacity := by
  simp only [skipCount]
  split <;> omega

theorem take_drain_skip (s : MemoryEventStore) (events : List CanalEvent) :
    s.buffer.take (s.drainCount events.length) ++ events.take (s.skipCount events.length) =
      dropped s.capacity (s.buffer ++ events) := by
  rw [dropped, List.take_append, drainCount_eq, skipCount_eq, List.length_append]
  congr 1
  · by_cases h : s.buffer.length ≤ s.buffer.length + events.length - s.capacity
    · rw [Nat.min_eq_right h, List.take_length, List.take_of_length_le h]
    · rw [Nat.min_eq_left (by omega)]
  · congr 1
    omega

theorem drop_drain_skip (s : MemoryEventStore) (events : List CanalEvent) :
    s.buffer.drop (s.drainCount events.length) ++ events.drop (s.skipCount events.length) =
      retain s.capacity (s.buffer ++ events) := by
  rw [retain, List.drop_append, drainCount_eq, skipCount_eq, List.length_append]
  congr 1
  · by_cases h : s.buffer.length ≤ s.buffer.length + events.length - s.capacity
    · rw [Nat.min_eq_right h, List.drop_length, List.drop_eq_nil_of_le h]
    · rw [Nat.min_eq_left (by omega)]
  · congr 1
    omega

end MemoryEventStore

/-- The store holds the last `cap` events of the history and its position fields describe what it
holds and what it lost. -/
structure Reflects (cap : Nat) (history : List CanalEvent) (s : MemoryEventStore) : Prop where
  capacity : s.capacity = cap
  buffer : s.buffer = retain cap history
  first : s.firstPosition = s.buffer.head?.map CanalEvent.logPosition
  latest : s.latestPosition = s.buffer.getLast?.map CanalEvent.logPosition
  watermark : s.evictedWatermark.map LogPosition.key =
    (dropped cap history).getLast?.map CanalEvent.key

theorem Reflects.init (cap : Nat) : Reflects cap [] (.new cap) :=
  ⟨rfl, (retain_eq_self (Nat.zero_le _)).symm, rfl, rfl,
    by rw [dropped_eq_nil (Nat.zero_le _)]; rfl⟩

namespace Reflects

theorem raise_evicted (h : Reflects cap history s)
    (hm : Ascending CanalEvent.key (history ++ events)) :
    (MemoryEventStore.raise s.evictedWatermark (MemoryEventStore.raise
        (MemoryEventStore.lastDropped (s.drainCount events.length) s.buffer)
        (MemoryEventStore.lastDropped (s.skipCount events.length) events))).map LogPosition.key =
      (dropped cap (history ++ events)).getLast?.map CanalEvent.key := by
  have hasc : Ascending CanalEvent.key (s.buffer ++ events) := by
    apply hm.sublist
    rw [h.buffer]
    exact (List.drop_sublist ..).append_right _
  have htake := s.take_drain_skip events
  rw [h.capacity] at htake
  have hlost : dropped cap (history ++ events) =
      dropped cap history ++ dropped cap (s.buffer ++ events) := by
    rw [dropped_append, h.buffer]
  rw [hlost]
  apply MemoryEventStore.raise_last h.watermark
  · rw [← htake]
    apply MemoryEventStore.raise_last
    · rw [MemoryEventStore.lastDropped_eq (by rw [MemoryEventStore.drainCount_eq]; omega),
        Option.map_map]
      rfl
    · rw [MemoryEventStore.lastDropped_eq (by rw [MemoryEventStore.skipCount_eq]; omega),
        Option.map_map]
      rfl
    · rw [htake]
      exact hasc.sublist (List.take_sublist ..)
  · rw [← hlost]
    exact hm.sublist (List.take_sublist ..)

theorem retained (h : Reflects cap history s) (events : List CanalEvent) :
    s.buffer.drop (s.drainCount events.length) ++ events.drop (s.skipCount events.length) =
      retain cap (history ++ events) := by
  rw [s.drop_drain_skip events, h.capacity, h.buffer, retain_append]

theorem putBatch_kept (h : Reflects cap history s) (hcap : 0 < cap) (he : events ≠ [])
    (hm : Ascending CanalEvent.key (history ++ events)) (d : Bool) :
    Reflects cap (history ++ events) (s.putBatch d events).store ∧
      (s.putBatch d events).result = .ok s.batchIdSeq ∧ (s.putBatch d events).notified = true := by
  have hevicted := h.raise_evicted hm
  have hkept : events.drop (s.skipCount events.length) ≠ [] := by
    have hl : 0 < events.length := List.length_pos_iff.2 he
    rw [Ne, List.drop_eq_nil_iff, MemoryEventStore.skipCount_eq, h.capacity]
    omega
  obtain ⟨first, hfirst⟩ := Option.ne_none_iff_exists'.1 (mt List.head?_eq_none_iff.1 hkept)
  obtain ⟨last, hlast⟩ := Option.ne_none_iff_exists'.1 (mt List.getLast?_eq_none_iff.1 hkept)
  have hord : ((s.buffer.drop (s.drainCount events.length)).getLast?.all
      fun tail => decide (tail.key ≤ first.key)) = true := by
    rw [Option.all_eq_true]
    intro tail ht
    rw [decide_eq_true_eq]
    have hmem := List.mem_of_mem_drop (List.mem_of_getLast? ht)
    rw [h.buffer] at hmem
    exact hm.le_of_append (List.mem_of_mem_drop hmem)
      (List.mem_of_mem_drop (List.mem_of_mem_head? hfirst))
  have hev : events.isEmpty = false := by simpa using he
  simp only [MemoryEventStore.putBatch, hev, Bool.false_eq_true, ↓reduceIte, hfirst, hlast, hord,
    Bool.not_true, Bool.and_false, and_self, and_true]
  refine ⟨h.capacity, h.retained events, ?_, ?_, hevicted⟩
  · rw [List.head?_append, hfirst]
    cases (s.buffer.drop (s.drainCount events.length)).head? <;> rfl
  · rw [List.getLast?_append, hlast, Option.some_or, Option.map_some]

theorem putBatch_no_room (h : Reflects 0 history s) (he : events ≠ [])
    (hm : Ascending CanalEvent.key (history ++ events)) (d : Bool) :
    Reflects 0 (history ++ events) (s.putBatch d events).store := by
  have hevicted := h.raise_evicted hm
  have hlost : ∀ l : List CanalEvent, retain 0 l = [] := fun l =>
    List.eq_nil_of_length_eq_zero (Nat.le_zero.1 (length_retain_le 0 l))
  have hbuf := h.buffer.trans (hlost history)
  have hkept : events.drop (s.skipCount events.length) = [] := by
    rw [List.drop_eq_nil_iff, MemoryEventStore.skipCount_eq, h.capacity, Nat.sub_zero]
  have hev : events.isEmpty = false := by simpa using he
  simp only [MemoryEventStore.putBatch, hev, Bool.false_eq_true, ↓reduceIte, hkept, List.head?_nil,
    List.getLast?_nil]
  refine ⟨h.capacity, ?_, ?_, ?_, hevicted⟩
  · rw [hlost, hbuf, List.drop_nil]
  · rw [hbuf, List.drop_nil, h.first, hbuf]
  · rw [hbuf, List.drop_nil, h.latest, hbuf]

theorem putBatch (h : Reflects cap history s)
    (hm : Ascending CanalEvent.key (history ++ events)) (d : Bool) :
    Reflects cap (history ++ events) (s.putBatch d events).store := by
  by_cases he : events = []
  · subst he
    rw [List.append_nil]
    exact h
  · cases cap with
    | zero => exact h.putBatch_no_room he hm d
    | succ cap => exact (h.putBatch_kept (Nat.succ_pos cap) he hm d).1

end Reflects

end Canal
