import Canal.StoreHistory

namespace Canal
set_option autoImplicit true

namespace LogPosition

theorem cmp_eq_lt_iff (p q : LogPosition) : p.cmp q = .lt ↔ p.key < q.key := by
  rw [← lt_iff, lt, beq_iff_eq]

theorem cmp_eq_eq_iff (p q : LogPosition) : p.cmp q = .eq ↔ p.key = q.key := by
  simp only [cmp, key, Key.of, Ordering.then_eq_eq, Std.compare_eq_iff_eq, toLex_inj,
    Prod.mk.injEq, UInt64.toNat_inj]

theorem cmp_swap (p q : LogPosition) : p.cmp q = (q.cmp p).swap := by
  rw [cmp, cmp, Ordering.swap_then, ← Std.OrientedOrd.eq_swap, ← Std.OrientedOrd.eq_swap]

theorem cmp_isLE_iff (p q : LogPosition) : (p.cmp q).isLE = true ↔ p.key ≤ q.key := by
  rw [Ordering.isLE_iff_eq_lt_or_eq_eq, cmp_eq_lt_iff, cmp_eq_eq_iff, le_iff_lt_or_eq]

/-- Reflexive, oriented and transitive: what sorting and searching by `cmp` need. -/
instance : Std.TransCmp cmp where
  eq_swap := cmp_swap _ _
  isLE_trans := by
    intro p q r hpq hqr
    rw [cmp_isLE_iff] at *
    exact hpq.trans hqr

theorem cmp_eq_eq_iff_suffix (p q : LogPosition) : p.cmp q = .eq ↔
    binlogSuffix p.journalName = binlogSuffix q.journalName ∧ p.position = q.position := by
  simp only [cmp, Ordering.then_eq_eq, Std.compare_eq_iff_eq]

/-- The exclusive cursor of `get_batch`, and the ordering check of `put_batch`, ask `cmp`. -/
theorem selects_eq_cmp {start : LogPosition} (h : start.timestamp = none) (e : CanalEvent) :
    start.selects e = start.lt e.logPosition := by
  rw [selects_positional h, Bool.eq_iff_iff, decide_eq_true_iff, lt_iff, CanalEvent.key_logPosition]

/-- `cmp` is a total order up to ties, it is the comparison of the keys that the store orders its
events by, and equal positions tie. Positions tie exactly when the file number and the offset are
the same, whatever the rest of the name and the optional fields say. -/
theorem cmp_total_preorder :
    Std.TransCmp cmp ∧
    (∀ p q : LogPosition, (p.cmp q).isLE = true ∨ (q.cmp p).isLE = true) ∧
    (∀ p q : LogPosition, (p.cmp q).isLE = true → (q.cmp p).isLE = true → p.cmp q = .eq) ∧
    (∀ p q : LogPosition, (p.cmp q = .lt ↔ p.key < q.key) ∧ (p.cmp q = .eq ↔ p.key = q.key) ∧
      (p.cmp q = .gt ↔ q.key < p.key)) ∧
    (∀ e f : CanalEvent, (e.logPosition.cmp f.logPosition).isLE = true ↔ e.key ≤ f.key) ∧
    (∀ (p : LogPosition) (e : CanalEvent), p.timestamp = none →
      p.selects e = (p.cmp e.logPosition == .lt)) ∧
    (∀ p q : LogPosition, p = q → p.cmp q = .eq) ∧
    (∀ p q : LogPosition, p.cmp q = .eq ↔
      binlogSuffix p.journalName = binlogSuffix q.journalName ∧ p.position = q.position) := by
  refine ⟨inferInstance, ?_, ?_, ?_, ?_, ?_, ?_, cmp_eq_eq_iff_suffix⟩
  · intro p q
    rw [cmp_isLE_iff, cmp_isLE_iff]
    exact le_total _ _
  · intro p q hpq hqp
    rw [cmp_isLE_iff] at hpq hqp
    exact (cmp_eq_eq_iff p q).mpr (le_antisymm hpq hqp)
  · intro p q
    refine ⟨cmp_eq_lt_iff p q, cmp_eq_eq_iff p q, ?_⟩
    rw [← cmp_eq_lt_iff, cmp_swap q p, Ordering.swap_eq_lt]
  · intro e f
    exact cmp_isLE_iff _ _
  · intro p e hp
    exact selects_eq_cmp hp e
  · intro p q h
    rw [h]
    exact Std.ReflCmp.compare_self

/-- A file of another series with the same number ties with this one. -/
theorem cmp_ties_distinct_positions :
    (new "mysql-bin.000001" 4).cmp (new "other-bin.000001" 4) = .eq ∧
      new "mysql-bin.000001" 4 ≠ new "other-bin.000001" 4 := by
  decide

end LogPosition

end Canal
