import Canal.Lib.KeyedLog

namespace KeyedLog
set_option autoImplicit true

/-- The log from its first selected entry on. -/
def suffixFrom (sel : E → Bool) (l : List E) : List E := l.dropWhile fun e => !sel e

theorem suffixFrom_suffix (sel : E → Bool) (l : List E) : suffixFrom sel l <:+ l :=
  List.dropWhile_suffix _

theorem suffixFrom_append {l : List E} (h : suffixFrom sel l ≠ []) (m : List E) :
    suffixFrom sel (l ++ m) = suffixFrom sel l ++ m := by
  have hd : ¬ (l.dropWhile fun e => !sel e).isEmpty = true := by simpa [suffixFrom] using h
  rw [suffixFrom, List.dropWhile_append, if_neg hd]
  rfl

variable {E : Type u} {K : Type v} [LinearOrder K] {key : E → K} {sel : E → Bool}

theorem Ascending.suffixFrom_sel (h : Ascending key l) (sel : E → Bool) :
    Ascending key (suffixFrom sel l) := h.sublist (suffixFrom_suffix sel l).sublist

theorem Ascending.after_suffixFrom (h : Ascending key l) (hx : x ∈ suffixFrom sel l)
    (hc : key x ≤ c) : after key c (suffixFrom sel l) = after key c l := by
  obtain ⟨p, hp⟩ := suffixFrom_suffix sel l
  have hpast : ∀ e ∈ p, key e ≤ c := by
    intro e he
    rw [← hp] at h
    exact (h.le_of_append he hx).trans hc
  conv => rhs; rw [← hp, after_append, after_eq_nil hpast, List.nil_append]

theorem upTo_ne_nil (hx : x ∈ l) (hc : key x ≤ c) : upTo key c l ≠ [] :=
  List.ne_nil_of_mem (mem_upTo.2 ⟨hx, hc⟩)

theorem Ascending.after_suffix (h : Ascending key l) (c : K) : after key c l <:+ l :=
  ⟨_, h.upTo_append_after c⟩

theorem Ascending.after_prefix_of_infix (h : Ascending key l) (hw : w <:+: l)
    (hne : upTo key c w ≠ []) : after key c w <+: after key c l := by
  obtain ⟨p, q, rfl⟩ := hw
  obtain ⟨x, hx⟩ := List.exists_mem_of_ne_nil _ hne
  obtain ⟨hx, hc⟩ := mem_upTo.1 hx
  have hp : ∀ e ∈ p, key e ≤ c := fun e he => (h.left.le_of_append he hx).trans hc
  rw [after_append, after_append, after_eq_nil hp, List.nil_append]
  exact List.prefix_append ..

theorem Ascending.upTo_split (h : Ascending key l) (hcd : c ≤ d) :
    upTo key d l = upTo key c l ++ upTo key d (after key c l) := by
  conv => lhs; rw [← h.upTo_append_after c, upTo_append]
  congr 1
  exact upTo_eq_self fun e he => (mem_upTo.1 he).2.trans hcd

section Reads

/-- The next page of a reader that has come to `c` takes it to the end of the page. -/
theorem Ascending.read_on (h : Ascending key l) (hne : upTo key c (suffixFrom sel l) ≠ [])
    (he : (page key n (after key c l)).getLast? = some e) :
    upTo key c (suffixFrom sel l) ++ page key n (after key c l) =
      upTo key (key e) (suffixFrom sel l) := by
  obtain ⟨x, hx⟩ := List.exists_mem_of_ne_nil _ hne
  obtain ⟨hx, hc⟩ := mem_upTo.1 hx
  rw [← h.after_suffixFrom hx hc] at he ⊢
  exact (h.suffixFrom_sel sel).upTo_page he

theorem upTo_suffixFrom_append (hne : upTo key c (suffixFrom sel l) ≠ [])
    (hm : ∀ e ∈ m, c < key e) :
    upTo key c (suffixFrom sel (l ++ m)) = upTo key c (suffixFrom sel l) := by
  have hl : suffixFrom sel l ≠ [] := fun h => hne (by rw [h]; rfl)
  rw [suffixFrom_append hl, upTo_append, upTo_eq_nil hm, List.append_nil]

theorem upTo_suffixFrom_append_ne (hne : upTo key c (suffixFrom sel l) ≠ []) (he : e ∈ m)
    (hc : key e ≤ c) :
    upTo key c (suffixFrom sel (l ++ m)) ≠ upTo key c (suffixFrom sel l) := by
  have hl : suffixFrom sel l ≠ [] := fun h => hne (by rw [h]; rfl)
  rw [suffixFrom_append hl, upTo_append]
  intro h
  exact upTo_ne_nil he hc (List.append_right_eq_self.1 h)

end Reads

/-- A reader that has come to `c` has read just the window up to there, or all of it and more. -/
def Through (key : E → K) (c : K) (w r : List E) : Prop :=
  (after key c w ≠ [] ∧ r = upTo key c w) ∨ (after key c w = [] ∧ w <+: r)

namespace Through

theorem head_le (h : Through key c w r) (hw : Ascending key w) (hx : r.head? = some x)
    (he : e ∈ w) : key x ≤ key e := by
  rcases h with ⟨-, rfl⟩ | ⟨-, t, rfl⟩
  · obtain ⟨-, hxc⟩ := mem_upTo.1 (List.mem_of_mem_head? hx)
    by_cases hec : key e ≤ c
    · exact (hw.sublist List.filter_sublist).first_le hx (mem_upTo.2 ⟨he, hec⟩)
    · exact hxc.trans (le_of_not_ge hec)
  · refine hw.first_le ?_ he
    cases w with
    | nil => cases he
    | cons a w => exact hx

theorem first (hw : Ascending key w) (he : (page key n w).getLast? = some e) :
    Through key (key e) w (page key n w) := by
  rw [hw.page_eq_upTo he]
  by_cases hn : after key (key e) w = []
  · refine .inr ⟨hn, ?_⟩
    have hall := hw.upTo_append_after (key e)
    rw [hn, List.append_nil] at hall
    exact ⟨[], by rw [hall, List.append_nil]⟩
  · exact .inl ⟨hn, rfl⟩

theorem next (h : Through key c w r) (hr : r ≠ []) (hl : Ascending key l) (hw : w <:+: l)
    (he : (page key n (after key c l)).getLast? = some e) :
    Through key (key e) w (r ++ page key n (after key c l)) := by
  have hce : c < key e :=
    (mem_after.1 ((page_isPrefix n _).sublist.mem (List.mem_of_getLast? he))).2
  have hwa : Ascending key w := hl.sublist hw.sublist
  have hla : Ascending key (after key c l) := hl.sublist List.filter_sublist
  rw [hla.page_eq_upTo he]
  rcases h with ⟨hn, rfl⟩ | ⟨hn, hpre⟩
  · -- inside the window, which goes on with the rest of the log
    obtain ⟨q, hq⟩ := hl.after_prefix_of_infix hw hr
    rw [← hq] at hla ⊢
    rw [upTo_append, ← List.append_assoc, ← hwa.upTo_split hce.le]
    by_cases hend : after key (key e) w = []
    · refine .inr ⟨hend, ?_⟩
      have hall := hwa.upTo_append_after (key e)
      rw [hend, List.append_nil] at hall
      rw [hall]
      exact List.prefix_append ..
    · refine .inl ⟨hend, ?_⟩
      obtain ⟨x, hx⟩ := List.exists_mem_of_ne_nil _ hend
      rw [← after_after hce.le] at hx
      obtain ⟨hx, hex⟩ := mem_after.1 hx
      rw [upTo_eq_nil fun y hy => hex.trans_le (hla.le_of_append hx hy), List.append_nil]
  · refine .inr ⟨?_, hpre.trans (List.prefix_append ..)⟩
    rw [← after_after hce.le, hn]
    rfl

end Through

end KeyedLog
