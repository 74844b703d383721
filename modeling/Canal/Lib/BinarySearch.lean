import Mathlib.Data.List.TakeWhile

namespace BinarySearch
set_option autoImplicit true

/-- A search that is right on every list the predicate cuts in two, and stays inside every other
one. -/
structure PartitionPoint (α : Type u) where
  find : (α → Bool) → List α → Nat
  find_le : ∀ p l, find p l ≤ l.length
  find_append : ∀ p l r, (∀ x ∈ l, p x = true) → (∀ x ∈ r, p x = false) →
    find p (l ++ r) = l.length

/-- The halving of `[base, base + size)`, which takes less than `size` turns. -/
def narrow (p : α → Bool) (l : List α) : Nat → Nat → Nat → Nat
  | 0, base, _ => base
  | fuel + 1, base, size =>
    if 1 < size then
      let half := size / 2
      let mid := base + half
      narrow p l fuel (if l[mid]?.any p then mid else base) (size - half)
    else base

/-- The binary search: what is left after the halving is compared once more. -/
def bisect (p : α → Bool) (l : List α) : Nat :=
  let base := narrow p l l.length 0 l.length
  if l[base]?.any p then base + 1 else base

theorem narrow_lt (p : α → Bool) (l : List α) (hs : 0 < size) (h : base + size ≤ l.length) :
    narrow p l fuel base size < l.length := by
  induction fuel generalizing base size with
  | zero =>
    rw [narrow]
    omega
  | succ fuel ih =>
    rw [narrow]
    by_cases hlt : 1 < size
    · rw [if_pos hlt]
      apply ih
      · omega
      · split <;> omega
    · rw [if_neg hlt]
      omega

theorem narrow_spec (p : α → Bool) (l : List α) (hp : ∀ i, l[i]?.any p = true ↔ i < n)
    (hf : size ≤ fuel) (hb : base ≤ n) (hn : n ≤ base + size) :
    narrow p l fuel base size ≤ n ∧ n ≤ narrow p l fuel base size + 1 := by
  induction fuel generalizing base size with
  | zero =>
    rw [narrow]
    omega
  | succ fuel ih =>
    rw [narrow]
    by_cases hlt : 1 < size
    · rw [if_pos hlt]
      apply ih
      · omega
      · split
        · rename_i ha
          exact Nat.le_of_lt ((hp _).1 ha)
        · exact hb
      · split
        · omega
        · rename_i ha
          have hm : ¬ base + size / 2 < n := fun h => ha ((hp _).2 h)
          omega
    · rw [if_neg hlt]
      omega

theorem bisect_le (p : α → Bool) (l : List α) : bisect p l ≤ l.length := by
  unfold bisect
  cases l with
  | nil => simp [narrow]
  | cons a l =>
    have h : narrow p (a :: l) (a :: l).length 0 (a :: l).length < (a :: l).length :=
      narrow_lt p (a :: l) (Nat.succ_pos _) (by omega)
    simp only
    split <;> omega

theorem any_getElem_append {l r : List α} (p : α → Bool) (hl : ∀ x ∈ l, p x = true)
    (hr : ∀ x ∈ r, p x = false) (i : Nat) : (l ++ r)[i]?.any p = true ↔ i < l.length := by
  by_cases h : i < l.length
  · rw [List.getElem?_append_left h, List.getElem?_eq_getElem h]
    simp [hl _ (List.getElem_mem h), h]
  · rw [List.getElem?_append_right (by omega)]
    cases he : r[i - l.length]? with
    | none => simp [h]
    | some x => simp [hr x (List.mem_of_getElem? he), h]

theorem bisect_append (p : α → Bool) (l r : List α) (hl : ∀ x ∈ l, p x = true)
    (hr : ∀ x ∈ r, p x = false) : bisect p (l ++ r) = l.length := by
  have hp := any_getElem_append p hl hr
  have hlen : l.length ≤ 0 + (l ++ r).length := by
    rw [List.length_append]
    omega
  have h := narrow_spec p (l ++ r) hp le_rfl (Nat.zero_le l.length) hlen
  simp only [bisect]
  split
  · rename_i ha
    have hlt := (hp _).1 ha
    omega
  · rename_i ha
    have hge : ¬ narrow p (l ++ r) (l ++ r).length 0 (l ++ r).length < l.length :=
      fun hlt => ha ((hp _).2 hlt)
    omega

/-- The search of the standard library. -/
def PartitionPoint.binary : PartitionPoint α := ⟨bisect, bisect_le, bisect_append⟩

theorem PartitionPoint.find_eq (search : PartitionPoint α) (p : α → Bool)
    (hl : ∀ x ∈ l, p x = true) (hr : ∀ x ∈ r, p x = false) :
    search.find p (l ++ r) = bisect p (l ++ r) := by
  rw [search.find_append p l r hl hr, bisect_append p l r hl hr]

end BinarySearch
