import Mathlib.Logic.Function.Basic

namespace Rendering
set_option autoImplicit true

/-- A separator that occurs in neither of the parts before it marks where they end. -/
theorem append_separator_inj (hx : sep ∉ x) (hx' : sep ∉ x') :
    x ++ sep :: y = x' ++ sep :: y' ↔ x = x' ∧ y = y' := by
  constructor
  · intro h
    induction x generalizing x' with
    | nil =>
      cases x' with
      | nil => exact ⟨rfl, (List.cons.inj h).2⟩
      | cons c x' => exact absurd (List.cons.inj h).1 (List.ne_of_not_mem_cons hx')
    | cons c x ih =>
      cases x' with
      | nil => exact absurd (List.cons.inj h).1.symm (List.ne_of_not_mem_cons hx)
      | cons c' x' =>
        obtain ⟨hc, ht⟩ := List.cons.inj h
        obtain ⟨hxx, hyy⟩ := ih (List.not_mem_of_not_mem_cons hx)
          (List.not_mem_of_not_mem_cons hx') ht
        exact ⟨by rw [hc, hxx], hyy⟩
  · intro ⟨hx, hy⟩
    rw [hx, hy]

theorem append_mark_inj (hmark : String.toList mark = [sep]) (ha : sep ∉ a.toList)
    (ha' : sep ∉ a'.toList) : a ++ (mark ++ b) = a' ++ (mark ++ b') ↔ a = a' ∧ b = b' := by
  simp only [← String.toList_inj, String.toList_append, hmark]
  exact append_separator_inj ha ha'

theorem flatMap_injective {f : α → List β} (hf : Function.Injective f)
    (hlen : ∀ a b, (f a).length = (f b).length) (hne : ∀ a, f a ≠ []) :
    Function.Injective (List.flatMap f) := by
  intro as
  induction as with
  | nil =>
    intro bs h
    cases bs with
    | nil => rfl
    | cons b bs =>
      have hb := (List.append_eq_nil_iff.mp h.symm).1
      exact absurd hb (hne b)
  | cons a as ih =>
    intro bs h
    cases bs with
    | nil => exact absurd (List.append_eq_nil_iff.mp h).1 (hne a)
    | cons b bs =>
      obtain ⟨hhead, htail⟩ := List.append_inj h (hlen a b)
      rw [hf hhead, ih htail]

/-- A part whose characters all meet `p` ends where the first character that does not stands. -/
theorem append_stop_inj {p : α → Prop} {x x' y y' : List α} (hx : ∀ c ∈ x, p c)
    (hx' : ∀ c ∈ x', p c)
    (hy : ∀ c ∈ y.head?, ¬ p c) (hy' : ∀ c ∈ y'.head?, ¬ p c) (h : x ++ y = x' ++ y') :
    x = x' ∧ y = y' := by
  induction x generalizing x' with
  | nil =>
    cases x' with
    | nil => exact ⟨rfl, h⟩
    | cons c x' =>
      rw [List.nil_append] at h
      exact absurd (hx' c List.mem_cons_self) (hy c (by rw [h]; rfl))
  | cons c x ih =>
    cases x' with
    | nil =>
      rw [List.nil_append] at h
      exact absurd (hx c List.mem_cons_self) (hy' c (by rw [← h]; rfl))
    | cons c' x' =>
      obtain ⟨hc, ht⟩ := List.cons.inj h
      obtain ⟨hxx, hyy⟩ := ih (fun d hd => hx d (List.mem_cons_of_mem c hd))
        (fun d hd => hx' d (List.mem_cons_of_mem c' hd)) ht
      exact ⟨by rw [hc, hxx], hyy⟩

/-- A number with zeros before it. -/
def padded (zeros n : Nat) : List Char := List.replicate zeros '0' ++ Nat.toDigits 10 n

theorem ofDigitChars_padded (zeros n : Nat) : Nat.ofDigitChars 10 (padded zeros n) 0 = n := by
  rw [padded, Nat.ofDigitChars_append, Nat.ofDigitChars_replicate_zero, Nat.mul_zero,
    Nat.ofDigitChars_ten_toDigits]

theorem padded_inj (h : padded zeros n = padded zeros' m) : n = m := by
  rw [← ofDigitChars_padded zeros n, h, ofDigitChars_padded]

theorem isDigit_of_mem_padded (h : c ∈ padded zeros n) : c.isDigit = true := by
  rcases List.mem_append.mp h with hz | hd
  · rw [List.eq_of_mem_replicate hz]
    rfl
  · exact Nat.isDigit_of_mem_toDigits (by decide) (by decide) hd

theorem toString_nat_inj {n m : Nat} (h : toString n = toString m) : n = m := by
  have hl := congrArg String.toList h
  rw [Nat.toString_eq_repr, Nat.toString_eq_repr, Nat.toList_repr, Nat.toList_repr] at hl
  rw [← Nat.ofDigitChars_ten_toDigits (n := n), hl, Nat.ofDigitChars_ten_toDigits]

/-- An integer with zeros between sign and digits. -/
def signed (zeros : Nat) (n : Int) : List Char :=
  (if n < 0 then ['-'] else []) ++ padded zeros n.natAbs

theorem signed_of_neg (h : n < 0) : signed zeros n = '-' :: padded zeros n.natAbs := by
  rw [signed, if_pos h, List.singleton_append]

theorem signed_of_nonneg (h : 0 ≤ n) : signed zeros n = padded zeros n.natAbs := by
  rw [signed, if_neg (Int.not_lt.mpr h), List.nil_append]

theorem mem_signed (h : c ∈ signed zeros n) : c.isDigit = true ∨ c = '-' ∧ n < 0 := by
  by_cases hn : n < 0
  · rw [signed_of_neg hn] at h
    cases h with
    | head => exact .inr ⟨rfl, hn⟩
    | tail _ hd => exact .inl (isDigit_of_mem_padded hd)
  · rw [signed_of_nonneg (Int.not_lt.mp hn)] at h
    exact .inl (isDigit_of_mem_padded h)

theorem neg_of_signed_eq (h : signed zeros n = signed zeros' m) (hn : n < 0) : m < 0 := by
  have hsign : '-' ∈ signed zeros' m := by
    rw [← h, signed_of_neg hn]
    exact List.mem_cons_self
  rcases mem_signed hsign with hd | ⟨_, hm⟩
  · exact absurd hd (by decide)
  · exact hm

theorem signed_inj (h : signed zeros n = signed zeros' m) : n = m := by
  by_cases hn : n < 0
  · have hm := neg_of_signed_eq h hn
    rw [signed_of_neg hn, signed_of_neg hm] at h
    have habs := padded_inj (List.cons.inj h).2
    omega
  · have hm : 0 ≤ m := by
      by_contra hm
      exact hn (neg_of_signed_eq h.symm (Int.not_le.mp hm))
    rw [signed_of_nonneg (Int.not_lt.mp hn), signed_of_nonneg hm] at h
    have habs := padded_inj h
    omega

/-- The two digits of a number below 256. -/
def hexPair (n : Nat) : List Char := [Nat.digitChar (n / 16), Nat.digitChar (n % 16)]

theorem digitChar_inj (hn : n < 16) (hm : m < 16) (h : Nat.digitChar n = Nat.digitChar m) :
    n = m := by
  have hall : ∀ n < 16, ∀ m < 16, Nat.digitChar n = Nat.digitChar m → n = m := by decide
  exact hall n hn m hm h

theorem hexPair_inj (hn : n < 256) (hm : m < 256) (h : hexPair n = hexPair m) : n = m := by
  obtain ⟨hhigh, hrest⟩ := List.cons.inj h
  obtain ⟨hlow, _⟩ := List.cons.inj hrest
  have hdiv := digitChar_inj (by omega) (by omega) hhigh
  have hmod := digitChar_inj (by omega) (by omega) hlow
  omega

end Rendering
