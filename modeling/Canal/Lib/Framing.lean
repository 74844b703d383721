import Mathlib.Data.List.Induction

namespace Framing
set_option autoImplicit true

/-- A call of a decoder: what it found in the buffer and what it leaves there. -/
abbrev Decoder (α : Type u) (ι : Type v) (ε : Type w) := List α → Except ε (Option ι) × List α

variable {α : Type u} {ι : Type v} {ε : Type w} {decode : Decoder α ι ε}

/-- An item takes something off the buffer, a call that finds none leaves it, and more input does
not change what has been decided. -/
structure Incremental (decode : Decoder α ι ε) : Prop where
  consumes : ∀ {b x r}, decode b = (.ok (some x), r) → r.length < b.length
  keeps : ∀ {b r}, decode b = (.ok none, r) → r = b
  item_append : ∀ {b x r}, decode b = (.ok (some x), r) →
    ∀ m, decode (b ++ m) = (.ok (some x), r ++ m)
  fail_append : ∀ {b e r}, decode b = (.error e, r) → ∀ m, ∃ r', decode (b ++ m) = (.error e, r')

structure Reader (α : Type u) (ι : Type v) (ε : Type w) where
  buffer : List α := []
  items : List ι := []
  failure : Option ε := none

/-- At most `n` calls of the decoder, up to the first that finds nothing or fails. -/
def drain (decode : Decoder α ι ε) (r : Reader α ι ε) : Nat → Reader α ι ε
  | 0 => r
  | n + 1 =>
    match decode r.buffer with
    | (.error e, b) => { r with buffer := b, failure := some e }
    | (.ok none, b) => { r with buffer := b }
    | (.ok (some x), b) => drain decode { r with buffer := b, items := r.items ++ [x] } n

/-- A chunk arrives; a reader that has failed reads no more. -/
def feed (decode : Decoder α ι ε) (r : Reader α ι ε) (chunk : List α) : Reader α ι ε :=
  match r.failure with
  | some _ => r
  | none =>
    let buffer := r.buffer ++ chunk
    drain decode { r with buffer } (buffer.length + 1)

/-- The items of a whole stream, and the rest of it or the failure they end with. -/
inductive Parses (decode : Decoder α ι ε) : List α → List ι → Except ε (List α) → Prop
  | wait (h : decode s = (.ok none, r)) : Parses decode s [] (.ok r)
  | fail (h : decode s = (.error e, r)) : Parses decode s [] (.error e)
  | item (h : decode s = (.ok (some x), r)) (ht : Parses decode r xs o) :
      Parses decode s (x :: xs) o

namespace Parses

theorem unique (h : Parses decode s xs o) (h' : Parses decode s ys o') : xs = ys ∧ o = o' := by
  induction h generalizing ys with
  | wait hd => cases h' <;> simp_all
  | fail hd => cases h' <;> simp_all
  | item hd ht ih =>
    cases h' with
    | wait hd' => simp_all
    | fail hd' => simp_all
    | item hd' ht' =>
      rw [hd, Prod.mk.injEq, Except.ok.injEq, Option.some.injEq] at hd'
      obtain ⟨rfl, rfl⟩ := hd'
      obtain ⟨rfl, rfl⟩ := ih ht'
      exact ⟨rfl, rfl⟩

theorem rest (h : Parses decode s xs (.ok r)) (hd : Incremental decode) :
    decode r = (.ok none, r) := by
  generalize ho : Except.ok r = o at h
  induction h with
  | wait h =>
    cases ho
    rwa [← hd.keeps h] at h
  | fail => cases ho
  | item h ht ih => exact ih ho

theorem append (h : Parses decode s xs (.ok r)) (hd : Incremental decode)
    (hm : Parses decode (r ++ m) ys o) : Parses decode (s ++ m) (xs ++ ys) o := by
  generalize ho : Except.ok r = o' at h
  induction h with
  | wait h =>
    cases ho
    rw [← hd.keeps h]
    exact hm
  | fail => cases ho
  | item h ht ih => exact .item (hd.item_append h m) (ih ho)

theorem append_fail (h : Parses decode s xs (.error e)) (hd : Incremental decode) (m : List α) :
    Parses decode (s ++ m) xs (.error e) := by
  generalize ho : Except.error e = o at h
  induction h with
  | wait => cases ho
  | fail h =>
    cases ho
    obtain ⟨r', hr⟩ := hd.fail_append h m
    exact .fail hr
  | item h ht ih => exact .item (hd.item_append h m) (ih ho)

end Parses

/-- What the reader has come to: the bytes it waits with, or its failure. -/
def Reader.outcome (r : Reader α ι ε) : Except ε (List α) :=
  match r.failure with
  | none => .ok r.buffer
  | some e => .error e

theorem Reader.outcome_ok {r : Reader α ι ε} (hf : r.failure = none) :
    r.outcome = .ok r.buffer := by
  rw [outcome, hf]

theorem Reader.outcome_error {r : Reader α ι ε} (hf : r.failure = some e) :
    r.outcome = .error e := by
  rw [outcome, hf]

theorem Reader.outcome_eq_ok {r : Reader α ι ε} (h : r.outcome = .ok b) :
    r.failure = none ∧ r.buffer = b := by
  cases hf : r.failure with
  | none =>
    rw [r.outcome_ok hf] at h
    exact ⟨rfl, Except.ok.inj h⟩
  | some e =>
    rw [r.outcome_error hf] at h
    cases h

theorem Reader.outcome_eq_error {r : Reader α ι ε} (h : r.outcome = .error e) :
    r.failure = some e := by
  cases hf : r.failure with
  | none =>
    rw [r.outcome_ok hf] at h
    cases h
  | some e' =>
    rw [r.outcome_error hf] at h
    rw [Except.error.inj h]

theorem Reader.failure_of_outcome {r r' : Reader α ι ε} (h : r.outcome = r'.outcome) :
    r.failure = r'.failure := by
  cases hf : r.failure with
  | none =>
    rw [r.outcome_ok hf] at h
    exact (r'.outcome_eq_ok h.symm).1.symm
  | some e =>
    rw [r.outcome_error hf] at h
    exact (r'.outcome_eq_error h.symm).symm

theorem drain_parses (hd : Incremental decode) (r : Reader α ι ε) (hf : r.failure = none)
    (hn : r.buffer.length < n) :
    ∃ xs, (drain decode r n).items = r.items ++ xs ∧
      Parses decode r.buffer xs (drain decode r n).outcome := by
  induction n generalizing r with
  | zero => omega
  | succ n ih =>
    cases h : decode r.buffer with
    | mk found b =>
      cases found with
      | error e =>
        have hr : drain decode r (n + 1) = { r with buffer := b, failure := some e } := by
          simp only [drain, h]
        rw [hr, Reader.outcome_error rfl]
        exact ⟨[], (List.append_nil _).symm, .fail h⟩
      | ok found =>
        cases found with
        | none =>
          have hr : drain decode r (n + 1) = { r with buffer := b } := by simp only [drain, h]
          rw [hr, Reader.outcome_ok (r := { r with buffer := b }) hf]
          exact ⟨[], (List.append_nil _).symm, .wait h⟩
        | some x =>
          have hlen := hd.consumes h
          have hr : drain decode r (n + 1) =
              drain decode { r with buffer := b, items := r.items ++ [x] } n := by
            simp only [drain, h]
          obtain ⟨xs, hi, hp⟩ := ih { r with buffer := b, items := r.items ++ [x] } hf
            (by simp only; omega)
          rw [hr]
          refine ⟨x :: xs, ?_, .item h hp⟩
          rw [hi, List.append_assoc, List.singleton_append]

theorem Incremental.exists_parses (hd : Incremental decode) (s : List α) :
    ∃ xs o, Parses decode s xs o := by
  obtain ⟨xs, -, hp⟩ := drain_parses hd { buffer := s } rfl (Nat.lt_succ_self _)
  exact ⟨xs, _, hp⟩

theorem Parses.beginning (h : Parses decode s xs o) (hd : Incremental decode)
    (hall : Parses decode (s ++ m) zs (.ok r)) : xs <+: zs := by
  cases o with
  | error e =>
    have hno := ((h.append_fail hd m).unique hall).2
    cases hno
  | ok rest =>
    obtain ⟨ys, o, hrest⟩ := hd.exists_parses (rest ++ m)
    exact ⟨ys, ((h.append hd hrest).unique hall).1⟩

theorem feed_of_reading {r : Reader α ι ε} (hf : r.failure = none) (chunk : List α) :
    feed decode r chunk =
      drain decode { r with buffer := r.buffer ++ chunk } ((r.buffer ++ chunk).length + 1) := by
  unfold feed
  split
  · rename_i h
    rw [hf] at h
    cases h
  · rfl

theorem Parses.feed {r : Reader α ι ε} (h : Parses decode s r.items r.outcome)
    (hd : Incremental decode) (chunk : List α) :
    Parses decode (s ++ chunk) (feed decode r chunk).items (feed decode r chunk).outcome := by
  cases hf : r.failure with
  | some e =>
    have hr : Framing.feed decode r chunk = r := by simp only [Framing.feed, hf]
    rw [hr]
    rw [r.outcome_error hf] at h ⊢
    exact h.append_fail hd chunk
  | none =>
    rw [r.outcome_ok hf] at h
    rw [feed_of_reading hf]
    obtain ⟨xs, hi, hp⟩ := drain_parses hd { r with buffer := r.buffer ++ chunk } hf
      (Nat.lt_succ_self _)
    rw [hi]
    exact h.append hd hp

theorem parses_chunks (hd : Incremental decode) (h0 : ∃ r, decode [] = (.ok none, r))
    (chunks : List (List α)) :
    Parses decode chunks.flatten (chunks.foldl (feed decode) {}).items
      (chunks.foldl (feed decode) {}).outcome := by
  induction chunks using List.reverseRecOn with
  | nil =>
    obtain ⟨r, h0⟩ := h0
    have hr := hd.keeps h0
    subst hr
    exact .wait h0
  | append_singleton chunks chunk ih =>
    rw [List.foldl_append, List.flatten_concat]
    exact ih.feed hd chunk

/-- The items `xs` have been taken off the stream `s`, and `b` is left of it: whatever comes, it is
parsed as if nothing had been taken before it came. -/
def Taken (decode : Decoder α ι ε) (s : List α) (xs : List ι) (b : List α) : Prop :=
  ∀ m ys o, Parses decode (b ++ m) ys o → Parses decode (s ++ m) (xs ++ ys) o

namespace Taken

theorem nil (s : List α) : Taken decode s [] s := fun _ _ _ h => h

theorem more (h : Taken decode s xs b) (chunk : List α) :
    Taken decode (s ++ chunk) xs (b ++ chunk) := by
  intro m ys o hp
  rw [List.append_assoc] at hp ⊢
  exact h _ ys o hp

theorem concat (h : Taken decode s xs b) (hd : Incremental decode)
    (hx : decode b = (.ok (some x), r)) : Taken decode s (xs ++ [x]) r := by
  intro m ys o hp
  have hm := h m (x :: ys) o (.item (hd.item_append hx m) hp)
  rw [List.append_assoc]
  exact hm

theorem parses (h : Taken decode s xs b) (hp : Parses decode b ys o) :
    Parses decode s (xs ++ ys) o := by
  rw [← List.append_nil b] at hp
  have hs := h [] ys o hp
  rw [List.append_nil] at hs
  exact hs

end Taken

end Framing
