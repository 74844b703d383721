import Canal.GetBatch
import Canal.Lib.Run

namespace Canal
set_option autoImplicit true

open KeyedLog

namespace MemoryEventStore

/-- The events of a batch that a put keeps. -/
def kept (s : MemoryEventStore) (events : List CanalEvent) : List CanalEvent :=
  events.drop (s.skipCount events.length)

/-- What a put has done when it comes to its ordering check. -/
def evict (s : MemoryEventStore) (events : List CanalEvent) : MemoryEventStore :=
  { s with
    buffer := s.buffer.drop (s.drainCount events.length)
    batchIdSeq := s.batchIdSeq + 1
    evictedWatermark := raise s.evictedWatermark
      (raise (lastDropped (s.drainCount events.length) s.buffer)
        (lastDropped (s.skipCount events.length) events)) }

/-- The ways a put ends in a build with debug assertions. -/
inductive Put (s : MemoryEventStore) (events : List CanalEvent) : PutOutcome → Prop
  | empty (he : events = []) : Put s events { store := s, result := .ok 0, notified := false }
  | noRoom (he : events ≠ []) (hk : s.kept events = []) :
      Put s events
        { store := s.evict events, result := .error "index out of bounds", notified := false }
  | rejected (hf : (s.kept events).head? = some first)
      (ht : (s.evict events).buffer.getLast? = some tail) (hlt : first.key < tail.key) :
      Put s events
        { store := s.evict events, result := .error monotonicMessage, notified := false }
  | accepted (hf : (s.kept events).head? = some first) (hl : (s.kept events).getLast? = some last)
      (ht : ∀ tail, (s.evict events).buffer.getLast? = some tail → tail.key ≤ first.key) :
      Put s events
        { store := { s.evict events with
            firstPosition := some ((s.evict events).buffer.head?.getD first).logPosition
            latestPosition := some last.logPosition
            buffer := (s.evict events).buffer ++ s.kept events }
          result := .ok s.batchIdSeq
          notified := true }

variable {s : MemoryEventStore} {events : List CanalEvent}

theorem put_cases (s : MemoryEventStore) (events : List CanalEvent) :
    Put s events (s.putBatch true events) := by
  by_cases he : events = []
  · subst he
    exact .empty rfl
  · have hev : events.isEmpty = false := by simpa using he
    simp only [putBatch, hev, Bool.false_eq_true, ↓reduceIte, Bool.true_and]
    cases hf : (events.drop (s.skipCount events.length)).head? with
    | none => exact .noRoom he (List.head?_eq_none_iff.1 hf)
    | some first =>
      cases hl : (events.drop (s.skipCount events.length)).getLast? with
      | none =>
        rw [List.getLast?_eq_none_iff.1 hl] at hf
        cases hf
      | some last =>
        simp only
        split
        · rename_i ho
          rw [Bool.not_eq_true', Option.all_eq_false] at ho
          obtain ⟨tail, ht, hlt⟩ := ho
          exact .rejected hf ht (not_le.1 (of_decide_eq_false hlt))
        · rename_i ho
          rw [Bool.not_eq_true', Bool.not_eq_false, Option.all_eq_true] at ho
          exact .accepted hf hl fun tail ht => of_decide_eq_true (ho tail ht)

theorem put_ok (h : (s.putBatch true events).result = .ok batchId) :
    (events = [] ∧ (s.putBatch true events).store = s) ∨
      ∃ first, (s.kept events).head? = some first ∧
        (∀ tail, (s.evict events).buffer.getLast? = some tail → tail.key ≤ first.key) ∧
        (s.putBatch true events).store.capacity = s.capacity ∧
        (s.putBatch true events).store.buffer = (s.evict events).buffer ++ s.kept events ∧
        (s.putBatch true events).store.evictedWatermark = (s.evict events).evictedWatermark := by
  generalize ho : s.putBatch true events = o at h
  have hp : Put s events o := ho ▸ s.put_cases events
  cases hp with
  | empty he => exact .inl ⟨he, rfl⟩
  | noRoom => cases h
  | rejected => cases h
  | accepted hf hl ht => exact .inr ⟨_, hf, ht, rfl, rfl, rfl⟩

theorem monotonicMessage_ne : monotonicMessage ≠ "index out of bounds" := by decide

theorem rejected_cases (h : (s.putBatch true events).result = .error monotonicMessage) :
    (s.putBatch true events).store = s.evict events ∧ (s.evict events).buffer ≠ [] := by
  generalize ho : s.putBatch true events = o at h
  have hp : Put s events o := ho ▸ s.put_cases events
  cases hp with
  | empty => cases h
  | noRoom =>
    injection h with h
    exact absurd h.symm monotonicMessage_ne
  | accepted => cases h
  | rejected hf ht hlt =>
    refine ⟨rfl, ?_⟩
    intro hn
    rw [hn] at ht
    cases ht

/-- A rejected put loses as many buffered events as the batch would have displaced. -/
theorem rejected_leaves (h : (s.putBatch true events).result = .error monotonicMessage) :
    (s.putBatch true events).store =
      { s with
        buffer := s.buffer.drop (s.buffer.length + events.length - s.capacity)
        batchIdSeq := s.batchIdSeq + 1
        evictedWatermark := raise s.evictedWatermark
          ((s.buffer.take (s.buffer.length + events.length - s.capacity)).getLast?.map
            CanalEvent.logPosition) } := by
  obtain ⟨hs, hne⟩ := rejected_cases h
  have hlt : s.drainCount events.length < s.buffer.length := by
    by_contra hge
    exact hne (List.drop_eq_nil_of_le (not_lt.1 hge))
  rw [drainCount_eq] at hlt
  have hd : s.drainCount events.length = s.buffer.length + events.length - s.capacity := by
    rw [drainCount_eq]
    omega
  have hk : s.skipCount events.length = 0 := by
    rw [skipCount_eq]
    omega
  rw [hs, evict, hd, hk, lastDropped_eq (by omega), lastDropped_eq (Nat.zero_le _)]
  simp

/-- A rejected put leaves the store as it was if and only if the batch had room beside the
buffer. -/
theorem rejected_unchanged_iff (s : MemoryEventStore) (events : List CanalEvent)
    (h : (s.putBatch true events).result = .error monotonicMessage) :
    ((s.putBatch true events).store.buffer = s.buffer ∧
      (s.putBatch true events).store.firstPosition = s.firstPosition ∧
      (s.putBatch true events).store.latestPosition = s.latestPosition ∧
      (s.putBatch true events).store.evictedWatermark = s.evictedWatermark) ↔
      s.buffer.length + events.length ≤ s.capacity := by
  obtain ⟨hs, hne⟩ := rejected_cases h
  have hpos : 0 < s.buffer.length := by
    rw [List.length_pos_iff]
    intro hn
    apply hne
    rw [evict, hn, List.drop_nil]
  rw [rejected_leaves h]
  constructor
  · rintro ⟨hb, -⟩
    have hl := congrArg List.length hb
    simp only [List.length_drop] at hl
    omega
  · intro hroom
    have hz : s.buffer.length + events.length - s.capacity = 0 := by omega
    simp [hz]

/-- A full store of two events that rejects one between them. -/
theorem rejected_put_evicts :
    let s := ((MemoryEventStore.new 2).putBatch true [storedEvent 100, storedEvent 200]).store
    let o := s.putBatch true [storedEvent 150]
    o.result = .error monotonicMessage ∧
      s.buffer = [storedEvent 100, storedEvent 200] ∧ o.store.buffer = [storedEvent 200] ∧
      s.evictedWatermark = none ∧
      o.store.evictedWatermark = some (storedEvent 100).logPosition ∧
      o.store.firstPosition = some (storedEvent 100).logPosition := by
  decide

theorem rejected_unchanged_with_room :
    let s := ((MemoryEventStore.new 3).putBatch true [storedEvent 100, storedEvent 200]).store
    let t := (s.putBatch true [storedEvent 150]).store
    t.buffer = s.buffer ∧ t.firstPosition = s.firstPosition ∧
      t.latestPosition = s.latestPosition ∧ t.evictedWatermark = s.evictedWatermark :=
  (rejected_unchanged_iff
    ((MemoryEventStore.new 3).putBatch true [storedEvent 100, storedEvent 200]).store
    [storedEvent 150] (by decide)).2 (by decide)

/-- What `get_batch` and the gap check rely on. -/
structure Searchable (s : MemoryEventStore) : Prop where
  sorted : Ascending CanalEvent.key s.buffer
  above : ∀ e ∈ s.buffer, ∀ w, s.evictedWatermark = some w → w.key ≤ e.key
  selected : ∀ (m : Machine) (cursor : LogPosition), cursor.timestamp = none →
    s.buffer.drop (m.startIndex cursor s.buffer) = after CanalEvent.key cursor.key s.buffer

theorem Searchable.of_sorted {s : MemoryEventStore} (hs : Ascending CanalEvent.key s.buffer)
    (ha : ∀ e ∈ s.buffer, ∀ w, s.evictedWatermark = some w → w.key ≤ e.key) : s.Searchable :=
  ⟨hs, ha, fun m _ hc => m.drop_startIndex hc hs⟩

/-- The events a put keeps are in order, and neither an event it displaces nor an earlier loss
lies above the first of them. -/
structure Fits (s : MemoryEventStore) (events : List CanalEvent) : Prop where
  ascending : Ascending CanalEvent.key (events.drop (events.length - s.capacity))
  lost : ∀ first, (events.drop (events.length - s.capacity)).head? = some first →
    ∀ w, s.evictedWatermark = some w → w.key ≤ first.key
  displaced : ∀ first, (events.drop (events.length - s.capacity)).head? = some first →
    ∀ e ∈ s.buffer.take (s.buffer.length + events.length - s.capacity), e.key ≤ first.key
  cut : ∀ first, (events.drop (events.length - s.capacity)).head? = some first →
    ∀ e, (events.take (events.length - s.capacity)).getLast? = some e → e.key ≤ first.key

theorem raise_le {cur pos : Option LogPosition} {k : Key} :
    (∀ w, raise cur pos = some w → w.key ≤ k) ↔
      (∀ w, cur = some w → w.key ≤ k) ∧ ∀ w, pos = some w → w.key ≤ k := by
  cases cur with
  | none => simp
  | some c =>
    cases pos with
    | none => simp
    | some p =>
      simp only [raise, Option.some.injEq, forall_eq']
      by_cases hlt : c.lt p = true
      · rw [if_pos hlt]
        rw [LogPosition.lt_iff] at hlt
        simp only [Option.some.injEq, forall_eq']
        exact ⟨fun h => ⟨hlt.le.trans h, h⟩, fun h => h.2⟩
      · rw [if_neg hlt]
        rw [LogPosition.lt_iff, not_lt] at hlt
        simp only [Option.some.injEq, forall_eq']
        exact ⟨fun h => ⟨h, hlt.trans h⟩, fun h => h.1⟩

theorem lastDropped_le (h : n ≤ l.length) {k : Key} :
    (∀ w, lastDropped n l = some w → w.key ≤ k) ↔
      ∀ e, (l.take n).getLast? = some e → e.key ≤ k := by
  rw [lastDropped_eq h]
  cases (l.take n).getLast? with
  | none => simp
  | some e => simp

theorem evict_le (s : MemoryEventStore) (events : List CanalEvent) {k : Key} :
    (∀ w, (s.evict events).evictedWatermark = some w → w.key ≤ k) ↔
      (∀ w, s.evictedWatermark = some w → w.key ≤ k) ∧
      (∀ e, (s.buffer.take (s.drainCount events.length)).getLast? = some e → e.key ≤ k) ∧
      ∀ e, (events.take (events.length - s.capacity)).getLast? = some e → e.key ≤ k := by
  rw [← skipCount_eq]
  simp only [evict, raise_le]
  rw [lastDropped_le (by rw [drainCount_eq]; omega), lastDropped_le (by rw [skipCount_eq]; omega)]

theorem take_drainCount (s : MemoryEventStore) (n : Nat) :
    s.buffer.take (s.drainCount n) = s.buffer.take (s.buffer.length + n - s.capacity) := by
  rw [drainCount_eq]
  by_cases h : s.buffer.length ≤ s.buffer.length + n - s.capacity
  · rw [Nat.min_eq_right h, List.take_length, List.take_of_length_le h]
  · rw [Nat.min_eq_left (by omega)]

theorem last_le_iff (h : Ascending CanalEvent.key l) {k : Key} :
    (∀ e, l.getLast? = some e → e.key ≤ k) ↔ ∀ e ∈ l, e.key ≤ k := by
  constructor
  · intro hl e he
    obtain ⟨last, hlast⟩ :=
      Option.ne_none_iff_exists'.1 (mt List.getLast?_eq_none_iff.1 (List.ne_nil_of_mem he))
    exact (h.le_last hlast he).trans (hl last hlast)
  · intro hl e he
    exact hl e (List.mem_of_getLast? he)

/-- A put that keeps something fits if and only if what it keeps is in order and starts at the new
watermark or later. -/
theorem fits_iff (hs : s.Searchable) (hf : (s.kept events).head? = some first) :
    s.Fits events ↔ Ascending CanalEvent.key (s.kept events) ∧
      ∀ w, (s.evict events).evictedWatermark = some w → w.key ≤ first.key := by
  have hk : s.kept events = events.drop (events.length - s.capacity) := by
    rw [kept, skipCount_eq]
  rw [hk] at hf ⊢
  rw [evict_le, take_drainCount, last_le_iff (hs.sorted.sublist (List.take_sublist ..))]
  constructor
  · intro h
    exact ⟨h.ascending, h.lost first hf, h.displaced first hf, h.cut first hf⟩
  · rintro ⟨ha, hl, hd, hc⟩
    constructor
    · exact ha
    all_goals
      intro first' hf'
      rw [hf, Option.some.injEq] at hf'
      subst hf'
      assumption

theorem Searchable.evict_above (hs : s.Searchable) (he : e ∈ (s.evict events).buffer) :
    ∀ w, (s.evict events).evictedWatermark = some w → w.key ≤ e.key := by
  have hb : s.buffer = s.buffer.take (s.drainCount events.length) ++ (s.evict events).buffer :=
    (List.take_append_drop ..).symm
  have hsort := hs.sorted
  rw [hb] at hsort
  rw [evict_le]
  refine ⟨hs.above e (List.mem_of_mem_drop he), ?_, ?_⟩
  · intro d hd
    exact hsort.le_of_append (List.mem_of_getLast? hd) he
  · have hpos : 0 < (s.evict events).buffer.length := List.length_pos_of_mem he
    have hroom : events.length - s.capacity = 0 := by
      simp only [evict, List.length_drop, drainCount_eq] at hpos
      omega
    rw [hroom]
    intro d hd
    cases hd

theorem Searchable.put_iff (hs : s.Searchable)
    (hok : (s.putBatch true events).result = .ok batchId) :
    (s.putBatch true events).store.Searchable ↔ s.Fits events := by
  obtain ⟨rfl, hst⟩ | ⟨first, hf, ht, -, hb, hw⟩ := put_ok hok
  · rw [hst]
    apply iff_of_true hs
    have hnil : ([] : List CanalEvent).drop (([] : List CanalEvent).length - s.capacity) = [] :=
      List.drop_nil
    constructor
    · rw [hnil]
      exact List.Pairwise.nil
    all_goals
      intro first hf
      rw [hnil] at hf
      cases hf
  · rw [fits_iff hs hf]
    have hmem : first ∈ s.kept events := List.mem_of_mem_head? hf
    constructor
    · intro h
      have hsort := h.sorted
      have habove := h.above
      rw [hb] at hsort habove
      rw [hw] at habove
      exact ⟨hsort.right, habove first (List.mem_append_right _ hmem)⟩
    · rintro ⟨ha, hfirst⟩
      have hstay : Ascending CanalEvent.key (s.evict events).buffer :=
        hs.sorted.sublist (List.drop_sublist ..)
      apply Searchable.of_sorted
      · rw [hb]
        refine ascending_append.2 ⟨hstay, ha, ?_⟩
        intro a hmem b hb
        exact ((last_le_iff hstay).1 ht a hmem).trans (ha.first_le hf hb)
      · rw [hb, hw]
        intro e he w hw
        rcases List.mem_append.1 he with he | he
        · exact hs.evict_above he w hw
        · exact (hfirst w hw).trans (ha.first_le hf he)

theorem Searchable.new (cap : Nat) : (MemoryEventStore.new cap).Searchable :=
  .of_sorted List.Pairwise.nil fun _ he => absurd he List.not_mem_nil

end MemoryEventStore

/-- A put in a build with debug assertions. -/
def putStep (s : MemoryEventStore) (events : List CanalEvent) :
    MemoryEventStore × List (Except String Int64) :=
  let o := s.putBatch true events
  (o.store, [o.result])

/-- No put of the run panics. -/
def NoPanic (cap : Nat) (batches : List (List CanalEvent)) : Prop :=
  Run.Along putStep (fun _ s events => ∃ id, (s.putBatch true events).result = .ok id)
    (.new cap) batches

/-- The ordering check keeps the store searchable over a run if and only if every put of the run
fits. -/
theorem put_run_searchable_iff (cap : Nat) (batches : List (List CanalEvent))
    (hok : NoPanic cap batches) :
    (∀ pre, pre <+: batches → (Run.final putStep (.new cap) pre).Searchable) ↔
      Run.Along putStep (fun _ s events => s.Fits events) (.new cap) batches := by
  apply Run.Along.prefixes_iff (P := fun pre => (Run.final putStep (.new cap) pre).Searchable)
  · exact .new cap
  · intro pre events hp hs
    obtain ⟨id, hid⟩ := (Run.Along.of_prefix hok hp).last
    rw [Run.final_concat]
    exact hs.put_iff hid

/-- A batch that descends, and a batch that empties the buffer and ends below what was in it. -/
theorem order_check_misses :
    let descending := [[storedEvent 200, storedEvent 100]]
    let emptying := [[storedEvent 500], [storedEvent 50, storedEvent 60]]
    (NoPanic 2 descending ∧ ¬ (Run.final putStep (.new 2) descending).Searchable) ∧
      NoPanic 1 emptying ∧ ¬ (Run.final putStep (.new 1) emptying).Searchable := by
  intro descending emptying
  refine ⟨⟨?_, ?_⟩, ?_, ?_⟩
  · exact (Run.Along.concat .nil ⟨0, by decide⟩ : NoPanic 2 ([] ++ descending))
  · intro h
    have hs := h.sorted
    revert hs
    unfold Ascending
    decide
  · exact ((Run.Along.concat .nil ⟨0, by decide⟩).concat ⟨1, by decide⟩ :
      NoPanic 1 ([] ++ [[storedEvent 500]] ++ [[storedEvent 50, storedEvent 60]]))
  · intro h
    have ha := h.above (storedEvent 60) (by decide) (storedEvent 500).logPosition (by decide)
    revert ha
    decide

/-- The second put takes the place of the first, and ends up above all that is gone. -/
theorem put_run_searchable_evicting :
    let batches := [[storedEvent 100, storedEvent 200], [storedEvent 200, storedEvent 300]]
    let s := Run.final putStep (.new 2) batches
    s.evictedWatermark = some (.new "mysql-bin.000001" 200) ∧ s.Searchable := by
  intro batches s
  have hok : NoPanic 2 ([] ++ [[storedEvent 100, storedEvent 200]] ++
      [[storedEvent 200, storedEvent 300]]) :=
    (Run.Along.concat .nil ⟨0, by decide⟩).concat ⟨1, by decide⟩
  have hfirst : (MemoryEventStore.new 2).Fits [storedEvent 100, storedEvent 200] := by
    refine ⟨by unfold Ascending; decide, ?_, ?_, ?_⟩
    · rintro first ⟨⟩ w ⟨⟩
    · rintro first ⟨⟩ e ⟨⟩
    · rintro first ⟨⟩ e ⟨⟩
  have hsecond : (Run.final putStep (.new 2) [[storedEvent 100, storedEvent 200]]).Fits
      [storedEvent 200, storedEvent 300] := by
    refine ⟨by unfold Ascending; decide, ?_, ?_, ?_⟩
    · rintro first ⟨⟩ w ⟨⟩
    · rintro first ⟨⟩
      decide
    · rintro first ⟨⟩ e ⟨⟩
  have hfits : Run.Along putStep (fun _ s events => s.Fits events) (.new 2) batches :=
    (Run.Along.concat .nil hfirst).concat hsecond
  exact ⟨by decide, (put_run_searchable_iff 2 batches hok).2 hfits batches (List.prefix_refl _)⟩

end Canal
