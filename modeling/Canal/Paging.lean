import Canal.GetBatch
import Canal.Handlers
import Canal.Lib.Run

namespace Canal
set_option autoImplicit true

open KeyedLog

/-- `get_batch` on a buffer nobody writes to: what is not there at once is not there when the call
times out. -/
def MemoryEventStore.getBatch (s : MemoryEventStore) (start : LogPosition) (batchSize : Nat) :
    MemoryEventStore × Events :=
  match s.lockedRead start batchSize with
  | (s', some events) => (s', events)
  | (s', none) => (s', .new 0)

/-- For the sizes a client can ask for, every build reads as over unbounded indexes. -/
theorem Machine.lockedRead_fetch (m : Machine) (s : MemoryEventStore) (start : LogPosition)
    (hs : Ascending CanalEvent.key s.buffer) (hn : n ≤ maxFetchSize)
    (hlen : s.buffer.length + maxFetchSize ≤ 2 ^ m.width) :
    m.lockedRead s start n = ((s.lockedRead start n).1, .ok (s.lockedRead start n).2) := by
  unfold maxFetchSize at hn hlen
  rw [← m.intendedRead_eq s start n hs]
  apply m.lockedRead_fits s start n
  · omega
  · omega

/-- A reader and the store it reads. -/
structure PageReader where
  store : MemoryEventStore
  cursor : LogPosition

/-- One call, and the cursor of the next: the end of the batch unless it is empty. -/
def PageReader.read (r : PageReader) (batchSize : Nat) : PageReader × List Events :=
  let (store, batch) := r.store.getBatch r.cursor batchSize
  ({ store, cursor := if batch.isEmpty then r.cursor else batch.positionRange.stop }, [batch])

/-- What a call answers when `rest` is left to read. -/
inductive NextBatch (rest : List CanalEvent) (batchSize : Nat) : List Events → Prop
  | nothing (hr : rest = []) : NextBatch rest batchSize [.new 0]
  | page (hp : IsPage CanalEvent.key (max batchSize 1) rest b.events)
      (hf : b.events.head? = some first) (hl : b.events.getLast? = some last)
      (hrange : b.positionRange = { start := first.logPosition, stop := last.logPosition }) :
      NextBatch rest batchSize [b]

theorem Events.withEvents_range (hf : es.head? = some first) (hl : es.getLast? = some last)
    (id : Int64) :
    (Events.withEvents es id).positionRange =
      { start := first.logPosition, stop := last.logPosition } := by
  simp only [Events.withEvents, hf, hl]

theorem LogPosition.readable_page (start : LogPosition) (h : Ascending CanalEvent.key l)
    (he : (page CanalEvent.key n (start.readable l)).getLast? = some last) :
    last.logPosition.readable l =
      (start.readable l).drop (page CanalEvent.key n (start.readable l)).length := by
  rw [start.readable_ascending h] at he ⊢
  have hmem : last ∈ suffixFrom start.selects l :=
    (page_isPrefix n _).subset (List.mem_of_getLast? he)
  rw [LogPosition.readable_positional rfl h, CanalEvent.key_logPosition,
    ← h.after_suffixFrom hmem le_rfl]
  exact (h.suffixFrom_sel _).after_page he

/-- What one call does to a reader. -/
inductive PageReader.Read (r : PageReader) (n : Nat) : PageReader × List Events → Prop
  | nothing (hr : r.cursor.readable r.store.buffer = []) : Read r n (r, [.new 0])
  | page (hp : page CanalEvent.key (max n 1) (r.cursor.readable r.store.buffer) = p)
      (hf : p.head? = some first) (hl : p.getLast? = some last) :
      Read r n
        ({ store := { r.store with batchIdSeq := r.store.batchIdSeq + 1 },
           cursor := last.logPosition }, [Events.withEvents p r.store.batchIdSeq])

theorem PageReader.read_cases (r : PageReader) (n : Nat) : r.Read n (r.read n) := by
  unfold PageReader.read MemoryEventStore.getBatch
  rw [MemoryEventStore.lockedRead_eq]
  by_cases hr : r.cursor.readable r.store.buffer = []
  · rw [if_pos hr]
    exact .nothing hr
  · rw [if_neg hr]
    have hne : page CanalEvent.key (max n 1) (r.cursor.readable r.store.buffer) ≠ [] :=
      page_ne_nil (by omega) hr
    obtain ⟨first, hf⟩ := Option.ne_none_iff_exists'.1 (mt List.head?_eq_none_iff.1 hne)
    obtain ⟨last, hl⟩ := Option.ne_none_iff_exists'.1 (mt List.getLast?_eq_none_iff.1 hne)
    have hempty : (Events.withEvents (page CanalEvent.key (max n 1)
        (r.cursor.readable r.store.buffer)) r.store.batchIdSeq).isEmpty = false :=
      List.isEmpty_eq_false_iff.2 hne
    simp only [hempty, Events.withEvents_stop hl]
    exact .page rfl hf hl

/-- The reader stands where its batches end. -/
structure PageReader.At (slice rest : List CanalEvent) (calls : List Nat) (batches : List Events)
    (r : PageReader) : Prop where
  buffer : r.store.buffer = slice
  readable : r.cursor.readable slice = rest.drop (batches.flatMap Events.events).length
  isPrefix : batches.flatMap Events.events <+: rest
  progress : batches.flatMap Events.events = rest ∨
    calls.length ≤ (batches.flatMap Events.events).length

theorem PageReader.At.step (h : At slice rest calls batches r)
    (hb : Ascending CanalEvent.key slice) (hrest : Ascending CanalEvent.key rest) (n : Nat) :
    At slice rest (calls ++ [n]) (batches ++ (r.read n).2) (r.read n).1 ∧
      NextBatch (rest.drop (batches.flatMap Events.events).length) n (r.read n).2 := by
  have hr := h.readable
  have hc := r.read_cases n
  generalize r.read n = o at hc
  obtain ⟨left, hleft⟩ := h.isPrefix
  have hdrop : rest.drop (batches.flatMap Events.events).length = left := by
    rw [← hleft, List.drop_left]
  rw [hdrop] at hr ⊢
  cases hc with
  | nothing hnil =>
    rw [h.buffer, hr] at hnil
    subst hnil
    rw [List.append_nil] at hleft
    have hsame : (batches ++ [Events.new 0]).flatMap Events.events =
        batches.flatMap Events.events := by
      rw [List.flatMap_append]
      exact List.append_nil _
    refine ⟨⟨h.buffer, ?_, ?_, ?_⟩, .nothing rfl⟩
    · rw [hsame, hdrop, hr]
    · rw [hsame]
      exact h.isPrefix
    · rw [hsame]
      exact .inl hleft
  | page hp hf hl =>
    rename_i p first last
    rw [h.buffer, hr] at hp
    have hasc : Ascending CanalEvent.key left := by
      rw [← hleft] at hrest
      exact hrest.right
    have hpage : IsPage CanalEvent.key (max n 1) left p := hp ▸ hasc.page_isPage (max n 1)
    obtain ⟨left', hleft'⟩ := hpage.isPrefix
    have hread : (batches ++ [Events.withEvents p r.store.batchIdSeq]).flatMap Events.events =
        batches.flatMap Events.events ++ p := by
      rw [List.flatMap_append]
      exact congrArg _ (List.append_nil p)
    have hpos : 0 < p.length := List.length_pos_of_mem (List.mem_of_getLast? hl)
    refine ⟨⟨h.buffer, ?_, ?_, ?_⟩, ?_⟩
    · rw [← hp, ← hr] at hl
      have hnext := r.cursor.readable_page hb hl
      rw [hr, hp] at hnext
      rw [hnext, hread, List.length_append, ← List.drop_drop, hdrop]
    · rw [hread, ← hleft, ← hleft', ← List.append_assoc]
      exact List.prefix_append ..
    · rcases h.progress with hall | hlen
      · rw [hall] at hleft
        have hnil := List.append_right_eq_self.1 hleft
        rw [hnil] at hpage
        have hz := hpage.isPrefix.length_le
        rw [List.length_nil] at hz
        omega
      · right
        rw [hread, List.length_append, List.length_append, List.length_singleton]
        omega
    · exact .page hpage hf hl (Events.withEvents_range hf hl _)

theorem LogPosition.readable_eq (start : LogPosition) (h : Ascending CanalEvent.key l) :
    start.readable l = match start.timestamp with
      | some ts => l.dropWhile fun e => e.executeTime < ts
      | none => l.filter fun e => start.key < e.key := by
  cases hts : start.timestamp with
  | some ts =>
    rw [readable_timestamp hts, suffixFrom]
    simp only [selects, hts]
    congr 1
    funext e
    rw [← decide_not]
    simp only [Int64.not_le]
  | none => exact readable_positional hts h

/-- Paging through a fixed ordered buffer reads what the first cursor selects from, whole groups
at a time and nothing twice, and comes to its end. -/
theorem paging_reads_suffix (s : MemoryEventStore) (hs : Ascending CanalEvent.key s.buffer)
    (start : LogPosition) (sizes : List Nat) :
    let rest := match start.timestamp with
      | some ts => s.buffer.dropWhile fun e => e.executeTime < ts
      | none => s.buffer.filter fun e => start.key < e.key
    let r : PageReader := { store := s, cursor := start }
    let got := (Run.outputs PageReader.read r sizes).flatMap Events.events
    got <+: rest ∧ (rest.length ≤ sizes.length → got = rest) ∧
      Run.Along PageReader.read (fun batches r n =>
        NextBatch (rest.drop (batches.flatMap Events.events).length) n (r.read n).2) r sizes := by
  intro rest r got
  have hrest : start.readable s.buffer = rest := start.readable_eq hs
  have hasc : Ascending CanalEvent.key rest := by
    rw [← hrest]
    exact hs.sublist (start.readable_suffix _).sublist
  have hat : ∀ calls, PageReader.At s.buffer rest calls (Run.outputs PageReader.read r calls)
      (Run.final PageReader.read r calls) := by
    intro calls
    apply Run.history_invariant PageReader.read r
      (I := fun calls batches r => PageReader.At s.buffer rest calls batches r)
    · exact ⟨rfl, hrest, List.nil_prefix, .inr (Nat.zero_le _)⟩
    · intro calls batches r n h
      exact (h.step hs hasc n).1
  refine ⟨(hat sizes).isPrefix, ?_, ?_⟩
  · intro hlen
    rcases (hat sizes).progress with hall | hge
    · exact hall
    · exact (hat sizes).isPrefix.eq_of_length_le (hlen.trans hge)
  · intro pre n post _
    exact ((hat pre).step hs hasc n).2

theorem paging_reads_suffix_pair :
    (Run.outputs PageReader.read
      { store := ((MemoryEventStore.new 4).putBatch true
          [storedEvent 100, storedEvent 200, storedEvent 200, storedEvent 300]).store
        cursor := .new "mysql-bin.000001" 100 } [0, 1, 10000]).flatMap Events.events =
      [storedEvent 200, storedEvent 200, storedEvent 300] :=
  ((paging_reads_suffix
    ((MemoryEventStore.new 4).putBatch true
      [storedEvent 100, storedEvent 200, storedEvent 200, storedEvent 300]).store
    (by unfold Ascending; decide) (.new "mysql-bin.000001" 100) [0, 1, 10000]).2.1
      (by decide)).trans (by decide)

end Canal
