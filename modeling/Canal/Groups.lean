import Canal.Handlers
import Canal.StoreRuns

namespace Canal
set_option autoImplicit true

open KeyedLog

/-- The batch holds everything that was ever put at the positions it holds. -/
def Whole (history batch : List CanalEvent) : Prop :=
  ∀ e ∈ batch, batch.filter (fun x => x.key = e.key) = history.filter fun x => x.key = e.key

/-- Every position group comes in one put and fits into the store. -/
def GroupsFit (cap : Nat) (ops : List StoreOp) : Prop :=
  ∀ e ∈ fed ops, ∃ events, .put events ∈ ops ∧
    events.filter (fun x => x.key = e.key) = (fed ops).filter (fun x => x.key = e.key) ∧
    (events.filter fun x => x.key = e.key).length ≤ cap

/-- The events of the puts that came to their end: one that panics has put nothing. -/
def putEvents (debugAssertions : Bool) (s : MemoryEventStore) : List StoreOp → List CanalEvent
  | [] => []
  | .put events :: ops =>
    let o := s.putBatch debugAssertions events
    (if o.result.isOk then events else []) ++ putEvents debugAssertions o.store ops
  | .get start batchSize :: ops => putEvents debugAssertions (s.lockedRead start batchSize).1 ops

theorem MemoryEventStore.putBatch_suffix (d : Bool) (s : MemoryEventStore)
    (events : List CanalEvent) :
    (s.putBatch d events).store.buffer <:+
      s.buffer ++ if (s.putBatch d events).result.isOk then events else [] := by
  unfold putBatch
  split
  · rename_i he
    rw [List.isEmpty_iff.1 he]
    simp
  simp only
  split
  · split
    · rw [show (Except.error monotonicMessage : Except String Int64).isOk = false from rfl,
        if_neg Bool.false_ne_true, List.append_nil]
      exact List.drop_suffix ..
    · rw [show (Except.ok s.batchIdSeq : Except String Int64).isOk = true from rfl, if_pos rfl,
        s.drop_drain_skip events]
      exact List.drop_suffix ..
  · rw [show (Except.error "index out of bounds" : Except String Int64).isOk = false from rfl,
      if_neg Bool.false_ne_true, List.append_nil]
    exact List.drop_suffix ..

theorem buffer_suffix_putEvents (d : Bool) {s : MemoryEventStore} (h : s.buffer <:+ history)
    (ops : List StoreOp) :
    (Run.final (storeStep d) s ops).buffer <:+ history ++ putEvents d s ops := by
  induction ops generalizing s history with
  | nil =>
    rw [putEvents, List.append_nil]
    exact h
  | cons op ops ih =>
    cases op with
    | put events =>
      rw [putEvents, ← List.append_assoc]
      apply ih
      obtain ⟨lost, rfl⟩ := h
      rw [List.append_assoc]
      exact (s.putBatch_suffix d events).trans (List.suffix_append ..)
    | get start n =>
      apply ih (s := (s.lockedRead start n).1)
      rwa [s.lockedRead_buffer start n]

theorem putEvents_of_ascending (h : Reflects cap history s) (hcap : 0 < cap)
    (hm : Ascending CanalEvent.key (history ++ fed ops)) (d : Bool) :
    putEvents d s ops = fed ops := by
  induction ops generalizing s history with
  | nil => rfl
  | cons op ops ih =>
    cases op with
    | put events =>
      have he : fed (.put events :: ops) = events ++ fed ops := rfl
      rw [he, ← List.append_assoc] at hm
      rw [he, putEvents, ih (h.putBatch hm.left d) hm]
      by_cases hnil : events = []
      · rw [hnil, ite_self]
      · rw [(h.putBatch_kept hcap hnil hm.left d).2.1]
        rfl
    | get start n => exact ih (h.lockedRead start n) hm

theorem putEvents_split (cap : Nat) (d : Bool) (ops : List StoreOp) (start : LogPosition) :
    let history := putEvents d (.new cap) ops
    let rest := start.readable (Run.final (storeStep d) (.new cap) ops).buffer
    history = history.take (history.length - rest.length) ++ rest := by
  intro history rest
  have hbuffer := buffer_suffix_putEvents d (s := .new cap) (List.suffix_refl []) ops
  have hsuffix : rest <:+ history := (start.readable_suffix _).trans hbuffer
  exact (List.suffix_iff_eq_append.1 hsuffix).symm

theorem Reflects.page_whole_iff {start : LogPosition} (h : Reflects cap history s)
    (hm : Ascending CanalEvent.key history) (hne : start.readable s.buffer ≠ []) (hn : 0 < n) :
    Whole history (page CanalEvent.key n (start.readable s.buffer)) ↔
      ∀ first, s.buffer.find? start.selects = some first →
        s.evictedWatermark.map LogPosition.key ≠ some first.key ∧
          ∀ e ∈ s.buffer.takeWhile (fun e => !start.selects e), e.key ≠ first.key := by
  have hbuffer : Ascending CanalEvent.key s.buffer := by
    rw [h.buffer]
    exact hm.sublist (List.drop_sublist ..)
  rw [start.readable_ascending hbuffer] at hne ⊢
  obtain ⟨first, hfirst⟩ := Option.ne_none_iff_exists'.1 (mt List.head?_eq_none_iff.1 hne)
  have hfind : s.buffer.find? start.selects = some first :=
    (List.find?_eq_head?_dropWhile_not ..).trans hfirst
  have hsplit : history = (dropped cap history ++ s.buffer.takeWhile fun e =>
      !start.selects e) ++ suffixFrom start.selects s.buffer := by
    rw [List.append_assoc, suffixFrom, List.takeWhile_append_dropWhile, h.buffer,
      dropped_append_retain]
  have hasc := hm
  rw [hsplit] at hasc
  have hpage := hasc.page_whole_iff hfirst hn
  rw [← hsplit] at hpage
  have hlost : (∀ x ∈ dropped cap history, x.key ≠ first.key) ↔
      s.evictedWatermark.map LogPosition.key ≠ some first.key := by
    rw [h.watermark]
    constructor
    · intro hx hk
      rw [Option.map_eq_some_iff] at hk
      obtain ⟨last, hlast, hk⟩ := hk
      exact hx last (List.mem_of_getLast? hlast) hk
    · intro hk x hx hxk
      obtain ⟨last, hlast⟩ :=
        Option.isSome_iff_exists.1 (List.getLast?_isSome.2 (List.ne_nil_of_mem hx))
      have hup : x.key ≤ last.key := hasc.left.left.le_last hlast hx
      have hdown : last.key ≤ first.key :=
        hasc.le_of_append (List.mem_append_left _ (List.mem_of_getLast? hlast))
          (List.mem_of_mem_head? hfirst)
      rw [hlast, Option.map_some, Ne, Option.some.injEq] at hk
      exact hk (le_antisymm hdown (hxk ▸ hup))
  rw [Whole, hpage, List.forall_mem_append, hlost, hfind]
  simp only [Option.some.injEq, forall_eq']

/-- From one cursor all position groups are served whole, whatever the size of the batch, if and
only if those that the search leaves stand together and nothing of them was put before. Of an
ordered feed only the first group can be cut: the store has dropped a part of it, or the cursor
skips one. -/
theorem served_whole_iff (cap : Nat) (d : Bool) (ops : List StoreOp) (start : LogPosition) :
    let s := Run.final (storeStep d) (.new cap) ops
    let history := putEvents d (.new cap) ops
    let rest := start.readable s.buffer
    ((∀ n batch, (s.lockedRead start n).2 = some batch → Whole history batch.events) ↔
      Grouped CanalEvent.key rest ∧
        ∀ e ∈ rest, ∀ x ∈ history.take (history.length - rest.length), x.key ≠ e.key) ∧
    (Ascending CanalEvent.key (fed ops) → ∀ n batch, (s.lockedRead start n).2 = some batch →
      (Whole history batch.events ↔ ∀ first, s.buffer.find? start.selects = some first →
        s.evictedWatermark.map LogPosition.key ≠ some first.key ∧
          ∀ e ∈ s.buffer.takeWhile (fun e => !start.selects e), e.key ≠ first.key)) := by
  intro s history rest
  have hsplit : history = history.take (history.length - rest.length) ++ rest :=
    putEvents_split cap d ops start
  have hread : ∀ n batch, (s.lockedRead start n).2 = some batch →
      rest ≠ [] ∧ batch.events = page CanalEvent.key (max n 1) rest := by
    intro n batch hb
    rw [MemoryEventStore.lockedRead_eq] at hb
    by_cases hne : start.readable s.buffer = []
    · rw [if_pos hne] at hb
      cases hb
    · rw [if_neg hne, Option.some.injEq] at hb
      rw [← hb]
      exact ⟨hne, rfl⟩
  constructor
  · have hpages := @pages_whole_iff _ _ _ CanalEvent.key rest
      (history.take (history.length - rest.length))
    rw [← hsplit] at hpages
    rw [← hpages]
    constructor
    · intro h n hn e he
      have hne : rest ≠ [] := List.ne_nil_of_mem ((page_isPrefix n rest).subset he)
      have hmax : max n 1 = n := by omega
      have hb : (s.lockedRead start n).2 =
          some (.withEvents (page CanalEvent.key n rest) s.batchIdSeq) := by
        rw [MemoryEventStore.lockedRead_eq, if_neg hne, hmax]
      exact h n _ hb e he
    · intro h n batch hb
      rw [(hread n batch hb).2]
      exact h (max n 1) (by omega)
  · intro hm n batch hb
    obtain ⟨hne, hbatch⟩ := hread n batch hb
    have hr := store_run_reflects cap d ops hm
    have hcap : 0 < cap := by
      by_contra hz
      obtain rfl : cap = 0 := by omega
      have hlen : s.buffer.length ≤ 0 := hr.buffer.symm ▸ length_retain_le 0 (fed ops)
      have hle : rest.length ≤ s.buffer.length := (start.readable_suffix s.buffer).length_le
      exact hne (List.eq_nil_of_length_eq_zero (by omega))
    have hall : history = fed ops := putEvents_of_ascending (.init cap) hcap hm d
    rw [hall, hbatch]
    exact hr.page_whole_iff hm hne (by omega)

/-- A row of the table `table` at a position. -/
def rowOf (table : String) (position : UInt64) : CanalEvent :=
  { storedEvent position with tableName := table }

theorem served_whole_iff_two_rows :
    Whole [rowOf "a" 100, rowOf "b" 100, rowOf "a" 200] [rowOf "a" 100, rowOf "b" 100] :=
  ((served_whole_iff 3 true [.put [rowOf "a" 100, rowOf "b" 100], .put [rowOf "a" 200]]
    defaultStart).2 (by unfold Ascending; decide) 1
    (.withEvents [rowOf "a" 100, rowOf "b" 100] 2) (by decide)).2 (by
      rintro first hf
      cases (by decide : some (rowOf "a" 100) = _).trans hf
      decide)

/-- The put of two more rows takes the first of two away, and a fresh client is served the
second. -/
theorem half_group_served :
    let ops : List StoreOp :=
      [.put [rowOf "a" 100, rowOf "b" 100], .put [rowOf "a" 200, rowOf "b" 200]]
    GroupsFit 3 ops ∧ ∃ batch,
      ((Run.final (storeStep true) (.new 3) ops).lockedRead defaultStart 10).2 = some batch ∧
        batch.events ≠ [] ∧ ¬ Whole (putEvents true (.new 3) ops) batch.events := by
  refine ⟨?_, .withEvents [rowOf "b" 100, rowOf "a" 200, rowOf "b" 200] 2, by decide, by decide, ?_⟩
  · intro e he
    have hk : e.key = (storedEvent 100).key ∨ e.key = (storedEvent 200).key := by
      revert e
      decide
    rcases hk with hk | hk
    · exact ⟨_, List.mem_cons_self .., by rw [hk]; decide, by rw [hk]; decide⟩
    · exact ⟨_, List.mem_cons_of_mem _ (List.mem_singleton_self _), by rw [hk]; decide,
        by rw [hk]; decide⟩
  · intro hw
    have h := hw (rowOf "b" 100) (by decide)
    revert h
    decide

end Canal
