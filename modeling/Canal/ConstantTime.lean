import Canal.Handlers

namespace Canal
set_option autoImplicit true

/-- `constant_time_eq` of `canal-admin`. The accumulator starts with the lengths' difference, cut
to its lowest 16 bits; a missing byte counts as zero. -/
def constantTimeEq (a b : List UInt8) : Bool :=
  let maxLen := max a.length b.length
  let acc := UInt16.ofNat (a.length ^^^ b.length)
  (List.range maxLen).foldl
    (fun acc i => acc ||| (a[i]?.getD 0 ^^^ b[i]?.getD 0).toUInt16) acc == 0

/-- The length test and the fold of `check_metrics_auth`. -/
def xorFoldEq (a b : List UInt8) : Bool :=
  a.length == b.length && (a.zip b).foldl (fun acc (x, y) => acc ||| (x ^^^ y)) 0 == 0

/-- `as_bytes`. -/
def asBytes (text : String) : List UInt8 := text.toUTF8.data.toList

abbrev StatusCode := Nat

def StatusCode.unauthorized : StatusCode := 401

/-- `check_auth` of `canal-admin`, on the value of the `Authorization` header where that is text. -/
def checkAuth (authorization expected : Option String) : Except StatusCode Unit :=
  match expected with
  | none => .ok ()
  | some token =>
    if token.isEmpty then .error .unauthorized
    else
      let auth := authorization.getD ""
      let expectedBearer := "Bearer " ++ token
      if constantTimeEq (asBytes auth) (asBytes expectedBearer) ||
          constantTimeEq (asBytes auth) (asBytes token) then .ok ()
      else .error .unauthorized

/-- `check_metrics_auth` of `canal-prometheus`. -/
def checkMetricsAuth (authorization expected : Option String) : Bool :=
  match expected with
  | none => true
  | some token =>
    if token.isEmpty then false
    else
      let auth := authorization.getD ""
      let expectedBearer := "Bearer " ++ token
      xorFoldEq (asBytes auth) (asBytes expectedBearer) || xorFoldEq (asBytes auth) (asBytes token)

theorem passwordMatches_eq_xorFoldEq (token : String) (password : List UInt8) :
    passwordMatches token password = xorFoldEq password (asBytes token) := by
  rw [passwordMatches, xorFoldEq, Bool.not_or, bne, Bool.not_not, bne, Bool.not_not, asBytes]

theorem xorFoldEq_iff (a b : List UInt8) : xorFoldEq a b = true ↔ a = b := by
  rw [xorFoldEq, Bool.and_eq_true, beq_iff_eq, beq_iff_eq, foldl_or_xor_eq_zero]
  constructor
  · intro ⟨hl, _, hz⟩
    apply List.ext_getElem hl
    intro i ha hb
    have hi : i < (a.zip b).length := by
      rw [List.length_zip]
      omega
    have := hz (a.zip b)[i] (List.getElem_mem hi)
    rwa [List.getElem_zip] at this
  · intro h
    subst h
    refine ⟨rfl, rfl, ?_⟩
    intro p hp
    obtain ⟨i, hi, hpi⟩ := List.mem_iff_getElem.mp hp
    rw [← hpi, List.getElem_zip]

theorem asBytes_inj {s t : String} : asBytes s = asBytes t ↔ s = t := by
  rw [asBytes, asBytes, Array.toList_inj, String.toUTF8_eq_toByteArray,
    String.toUTF8_eq_toByteArray, ← ByteArray.ext_iff, String.toByteArray_inj]

theorem foldl_or_eq_zero (f : α → UInt16) (l : List α) (acc : UInt16) :
    l.foldl (fun acc i => acc ||| f i) acc = 0 ↔ acc = 0 ∧ ∀ i ∈ l, f i = 0 := by
  induction l generalizing acc with
  | nil => simp
  | cons i l ih => rw [List.foldl_cons, ih, UInt16.or_eq_zero_iff, List.forall_mem_cons, and_assoc]

theorem ofNat_xor_eq_zero (m n : Nat) :
    UInt16.ofNat (m ^^^ n) = 0 ↔ m % 65536 = n % 65536 := by
  rw [UInt16.ofNat_xor, UInt16.xor_eq_zero_iff, ← UInt16.toNat_inj, UInt16.toNat_ofNat',
    UInt16.toNat_ofNat', show 2 ^ 16 = 65536 from rfl]

theorem toUInt16_xor_eq_zero (x y : UInt8) : (x ^^^ y).toUInt16 = 0 ↔ x = y := by
  rw [← UInt16.toNat_inj, UInt8.toNat_toUInt16, UInt16.toNat_zero,
    show (0 : Nat) = (0 : UInt8).toNat from rfl, UInt8.toNat_inj, UInt8.xor_eq_zero_iff]

/-- What the comparison looks at: the lengths up to a multiple of `2^16`, and the bytes with zeros
behind their end. -/
theorem constantTimeEq_iff (a b : List UInt8) : constantTimeEq a b = true ↔
    a.length % 65536 = b.length % 65536 ∧ ∀ i : Nat, a[i]?.getD 0 = b[i]?.getD 0 := by
  rw [constantTimeEq, beq_iff_eq, foldl_or_eq_zero, ofNat_xor_eq_zero]
  apply and_congr_right
  intro _
  constructor
  · intro h i
    by_cases hi : i < max a.length b.length
    · exact (toUInt16_xor_eq_zero _ _).mp (h i (List.mem_range.mpr hi))
    · rw [List.getElem?_eq_none (by omega), List.getElem?_eq_none (by omega)]
  · intro h i _
    exact (toUInt16_xor_eq_zero _ _).mpr (h i)

theorem constantTimeEq_comm (a b : List UInt8) : constantTimeEq a b = constantTimeEq b a := by
  rw [Bool.eq_iff_iff, constantTimeEq_iff, constantTimeEq_iff]
  exact and_congr eq_comm (forall_congr' fun i => eq_comm)

theorem padded_eq_iff {a b : List UInt8} (hl : a.length ≤ b.length) :
    (∀ i : Nat, a[i]?.getD 0 = b[i]?.getD 0) ↔ b = a ++ List.replicate (b.length - a.length) 0 := by
  constructor
  · intro h
    apply List.ext_getElem
    · rw [List.length_append, List.length_replicate]
      omega
    · intro i hb _
      have hi := h i
      rw [List.getElem?_eq_getElem hb, Option.getD_some] at hi
      rw [List.getElem_append]
      split
      case isTrue ha => rw [← hi, List.getElem?_eq_getElem ha, Option.getD_some]
      case isFalse ha => rw [← hi, List.getElem?_eq_none (by omega), List.getElem_replicate,
        Option.getD_none]
  · intro h i
    rw [h, List.getElem?_append]
    split
    case isTrue => rfl
    case isFalse ha =>
      rw [List.getElem?_eq_none (by omega), List.getElem?_replicate]
      split <;> rfl

/-- `b` is `a` and, behind it, zeros in a positive multiple of `2^16`. -/
def ZeroTail (a b : List UInt8) : Prop :=
  ∃ m, 0 < m ∧ b = a ++ List.replicate (65536 * m) 0

theorem ZeroTail.length_lt (h : ZeroTail a b) : a.length < b.length := by
  obtain ⟨m, hm, hb⟩ := h
  rw [hb, List.length_append, List.length_replicate]
  omega

theorem constantTimeEq_iff_zeroTail {a b : List UInt8} (hl : a.length ≤ b.length) :
    constantTimeEq a b = true ↔ a = b ∨ ZeroTail a b := by
  rw [constantTimeEq_iff, padded_eq_iff hl]
  constructor
  · intro ⟨hm, hb⟩
    -- lengths that agree in their lowest 16 bits differ by a multiple of 2^16
    obtain ⟨m, hd⟩ : ∃ m, b.length - a.length = 65536 * m :=
      ⟨(b.length - a.length) / 65536, by omega⟩
    rw [hd] at hb
    rcases Nat.eq_zero_or_pos m with h0 | hpos
    · left
      rw [hb, h0, Nat.mul_zero, List.replicate_zero, List.append_nil]
    · exact .inr ⟨m, hpos, hb⟩
  · intro h
    rcases h with h | ⟨m, _, hb⟩
    · rw [h, Nat.sub_self, List.replicate_zero, List.append_nil]
      exact ⟨rfl, rfl⟩
    · have hd : b.length = a.length + 65536 * m := by
        rw [hb, List.length_append, List.length_replicate]
      refine ⟨by omega, ?_⟩
      rw [hd, Nat.add_sub_cancel_left]
      exact hb

theorem constantTimeEq_eq_true (a b : List UInt8) :
    constantTimeEq a b = true ↔ a = b ∨ ZeroTail a b ∨ ZeroTail b a := by
  rcases Nat.le_total a.length b.length with hl | hl
  · rw [constantTimeEq_iff_zeroTail hl]
    have : ¬ ZeroTail b a := fun h => absurd h.length_lt (by omega)
    simp only [this, or_false]
  · rw [constantTimeEq_comm, constantTimeEq_iff_zeroTail hl]
    have : ¬ ZeroTail a b := fun h => absurd h.length_lt (by omega)
    simp only [this, false_or, eq_comm]

/-- `constant_time_eq` decides equality, and with it agrees with the comparisons of the metrics
endpoint and of the login, on exactly the pairs of which neither slice is the other followed by a
positive multiple of 65536 zero bytes. -/
theorem constantTimeEq_exact_iff (a b : List UInt8) :
    ((constantTimeEq a b = true ↔ a = b) ∧ constantTimeEq a b = xorFoldEq a b ∧
      ∀ token, asBytes token = b → constantTimeEq a b = passwordMatches token a) ↔
    ¬ ZeroTail a b ∧ ¬ ZeroTail b a := by
  have hexact : (constantTimeEq a b = true ↔ a = b) ↔ ¬ ZeroTail a b ∧ ¬ ZeroTail b a := by
    rw [constantTimeEq_eq_true, ← not_or]
    constructor
    · intro h hz
      have hab := h.mp (.inr hz)
      subst hab
      rcases hz with hz | hz <;> exact absurd hz.length_lt (Nat.lt_irrefl _)
    · intro h
      exact ⟨fun ho => ho.resolve_right h, .inl⟩
  rw [← hexact]
  constructor
  · intro h
    exact h.1
  · intro h
    have hfold : constantTimeEq a b = xorFoldEq a b := by
      rw [Bool.eq_iff_iff, h, xorFoldEq_iff]
    refine ⟨h, hfold, ?_⟩
    intro token ht
    rw [passwordMatches_eq_xorFoldEq, ht, hfold]

/-- 65536 zero bytes pass for the empty slice. -/
theorem constantTimeEq_zeros_nil :
    constantTimeEq (List.replicate 65536 0) [] = true ∧ List.replicate 65536 (0 : UInt8) ≠ [] ∧
      xorFoldEq (List.replicate 65536 0) [] = false := by
  have hne : List.replicate 65536 (0 : UInt8) ≠ [] := by
    rw [ne_eq, List.replicate_eq_nil_iff]
    omega
  refine ⟨?_, hne, ?_⟩
  · rw [constantTimeEq_eq_true]
    exact .inr (.inr ⟨1, Nat.one_pos, rfl⟩)
  · rw [Bool.eq_false_iff, ne_eq, xorFoldEq_iff]
    exact hne

theorem asBytes_append (s t : String) : asBytes (s ++ t) = asBytes s ++ asBytes t := by
  simp [asBytes]

theorem ZeroTail.getLast? (h : ZeroTail a b) : b.getLast? = some 0 := by
  obtain ⟨m, hm, hb⟩ := h
  rw [hb, List.getLast?_append, List.getLast?_replicate, if_neg (by omega), Option.some_or]

/-- The text of a header holds no NUL, so the admin endpoint lets in what the metrics endpoint
does unless the configured token itself ends in one. -/
theorem checkAuth_ok_iff {authorization : Option String} {token : String}
    (ha : (asBytes (authorization.getD "")).getLast? ≠ some 0)
    (ht : (asBytes token).getLast? ≠ some 0) :
    checkAuth authorization (some token) = .ok () ↔
      checkMetricsAuth authorization (some token) = true := by
  rw [checkAuth, checkMetricsAuth]
  by_cases he : token.isEmpty = true
  · simp [he]
  · have hne : asBytes token ≠ [] := by
      intro h
      have : token = "" := asBytes_inj.mp (h.trans (by decide))
      rw [this] at he
      exact he (by decide)
    have hb : (asBytes ("Bearer " ++ token)).getLast? ≠ some 0 := by
      rwa [asBytes_append, List.getLast?_append, Option.or_of_isSome]
      rwa [List.getLast?_isSome]
    have hexact : ∀ b : List UInt8, b.getLast? ≠ some 0 →
        constantTimeEq (asBytes (authorization.getD "")) b =
          xorFoldEq (asBytes (authorization.getD "")) b := by
      intro b h
      exact ((constantTimeEq_exact_iff _ b).mpr
        ⟨fun hz => h hz.getLast?, fun hz => ha hz.getLast?⟩).2.1
    simp only [he, hexact _ hb, hexact _ ht, Bool.false_eq_true, if_false]
    split
    case isTrue h => simp [h]
    case isFalse h => simp [h]

end Canal
