import Canal.Lib.KeyedLog

namespace KeyedLog
set_option autoImplicit true

/-- The entries a bounded store still holds after the history `l`. -/
def retain (cap : Nat) (l : List E) : List E := l.drop (l.length - cap)

/-- The entries a bounded store has lost after the history `l`. -/
def dropped (cap : Nat) (l : List E) : List E := l.take (l.length - cap)

theorem dropped_append_retain (cap : Nat) (l : List E) :
    dropped cap l ++ retain cap l = l := List.take_append_drop ..

theorem length_retain (cap : Nat) (l : List E) : (retain cap l).length = min cap l.length := by
  rw [retain, List.length_drop]
  omega

theorem length_retain_le (cap : Nat) (l : List E) : (retain cap l).length ≤ cap := by
  rw [length_retain]
  exact Nat.min_le_left ..

theorem retain_eq_self (h : l.length ≤ cap) : retain cap l = l := by
  rw [retain, Nat.sub_eq_zero_of_le h, List.drop_zero]

theorem dropped_eq_nil (h : l.length ≤ cap) : dropped cap l = [] := by
  rw [dropped, Nat.sub_eq_zero_of_le h, List.take_zero]

theorem retain_append_left (h : cap ≤ m.length) (l : List E) :
    retain cap (l ++ m) = retain cap m := by
  rw [retain, retain, List.drop_append, List.length_append,
    List.drop_eq_nil_of_le (by omega), List.nil_append]
  congr 1
  omega

theorem retain_append (cap : Nat) (l m : List E) :
    retain cap (retain cap l ++ m) = retain cap (l ++ m) := by
  by_cases h : l.length ≤ cap
  · rw [retain_eq_self h]
  · have hr := length_retain cap l
    have hm : cap ≤ (retain cap l ++ m).length := by
      rw [List.length_append]
      omega
    rw [← retain_append_left hm (dropped cap l), ← List.append_assoc, dropped_append_retain]

theorem dropped_append (cap : Nat) (l m : List E) :
    dropped cap (l ++ m) = dropped cap l ++ dropped cap (retain cap l ++ m) := by
  apply (List.append_left_inj (retain cap (l ++ m))).1
  rw [dropped_append_retain, List.append_assoc, ← retain_append, dropped_append_retain,
    ← List.append_assoc, dropped_append_retain]

variable {E : Type u} {K : Type v} [LinearOrder K] {key : E → K}

/-- A lost entry past the cursor, if there is one, shows at the last lost entry. -/
theorem Ascending.exists_dropped_iff (h : Ascending key l) :
    (∃ e ∈ dropped cap l, c < key e) ↔ ∃ w, (dropped cap l).getLast? = some w ∧ c < key w := by
  constructor
  · rintro ⟨e, he, hc⟩
    cases hw : (dropped cap l).getLast? with
    | none =>
      rw [List.getLast?_eq_none_iff.1 hw] at he
      cases he
    | some w =>
      have hd : Ascending key (dropped cap l) := h.sublist (List.take_sublist ..)
      exact ⟨w, rfl, lt_of_lt_of_le hc (hd.le_last hw he)⟩
  · rintro ⟨w, hw, hc⟩
    exact ⟨w, List.mem_of_getLast? hw, hc⟩

/-- A kept entry has no lost one between the cursor and itself if and only if the cursor is not
below any lost entry. -/
theorem Ascending.dropped_between_iff (h : Ascending key l) (hk : k ∈ retain cap l) :
    (∀ e ∈ dropped cap l, ¬ (c < key e ∧ key e ≤ key k)) ↔ ∀ e ∈ dropped cap l, key e ≤ c := by
  constructor
  · intro hgap e he
    by_contra hlt
    rw [← dropped_append_retain cap l] at h
    exact hgap e he ⟨not_le.1 hlt, h.le_of_append he hk⟩
  · intro hle e he hgap
    exact absurd hgap.1 (not_lt.2 (hle e he))

/-- A reader whose cursor is not below any lost entry reads what is left as if it were all. -/
theorem after_retain (h : ∀ e ∈ dropped cap l, key e ≤ c) :
    after key c (retain cap l) = after key c l := by
  conv => rhs; rw [← dropped_append_retain cap l, after_append, after_eq_nil h, List.nil_append]

end KeyedLog
