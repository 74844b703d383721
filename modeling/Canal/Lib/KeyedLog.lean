import Mathlib.Data.List.Pairwise
import Mathlib.Data.List.TakeWhile
import Mathlib.Order.Lattice

namespace KeyedLog
set_option autoImplicit true

variable {E : Type u} {K : Type v} [LinearOrder K] (key : E → K)

/-- Keys never decrease along the list; entries with equal keys form a group. -/
def Ascending (l : List E) : Prop := l.Pairwise fun a b => key a ≤ key b

/-- The entries past an exclusive cursor. -/
def after (c : K) (l : List E) : List E := l.filter fun e => c < key e

/-- The entries a reader at the cursor has left behind. -/
def upTo (c : K) (l : List E) : List E := l.filter fun e => key e ≤ c

/-- The first `n` entries, extended to the end of the group of equal keys they stop in. -/
def page (n : Nat) (l : List E) : List E :=
  match (l.take n).getLast? with
  | none => []
  | some e => l.take n ++ (l.drop n).takeWhile fun x => key x = key e

variable {key}

@[simp] theorem mem_after : e ∈ after key c l ↔ e ∈ l ∧ c < key e := by
  simp only [after, List.mem_filter, decide_eq_true_eq]

@[simp] theorem mem_upTo : e ∈ upTo key c l ↔ e ∈ l ∧ key e ≤ c := by
  simp only [upTo, List.mem_filter, decide_eq_true_eq]

@[simp] theorem after_append (c : K) (l m : List E) :
    after key c (l ++ m) = after key c l ++ after key c m := List.filter_append ..

@[simp] theorem upTo_append (c : K) (l m : List E) :
    upTo key c (l ++ m) = upTo key c l ++ upTo key c m := List.filter_append ..

theorem after_eq_nil (h : ∀ e ∈ l, key e ≤ c) : after key c l = [] :=
  List.filter_eq_nil_iff.2 fun e he => by simpa using h e he

theorem after_eq_self (h : ∀ e ∈ l, c < key e) : after key c l = l :=
  List.filter_eq_self.2 fun e he => by simpa using h e he

theorem upTo_eq_nil (h : ∀ e ∈ l, c < key e) : upTo key c l = [] :=
  List.filter_eq_nil_iff.2 fun e he => by simpa using h e he

theorem upTo_eq_self (h : ∀ e ∈ l, key e ≤ c) : upTo key c l = l :=
  List.filter_eq_self.2 fun e he => by simpa using h e he

theorem Ascending.sublist (h : Ascending key l) (hs : m.Sublist l) : Ascending key m :=
  List.Pairwise.sublist hs h

theorem ascending_append :
    Ascending key (l ++ m) ↔
      Ascending key l ∧ Ascending key m ∧ ∀ a ∈ l, ∀ b ∈ m, key a ≤ key b :=
  List.pairwise_append

theorem Ascending.left (h : Ascending key (l ++ m)) : Ascending key l :=
  (ascending_append.1 h).1

theorem Ascending.right (h : Ascending key (l ++ m)) : Ascending key m :=
  (ascending_append.1 h).2.1

theorem Ascending.le_of_append (h : Ascending key (l ++ m)) (ha : a ∈ l) (hb : b ∈ m) :
    key a ≤ key b :=
  (ascending_append.1 h).2.2 a ha b hb

theorem Ascending.le_last (h : Ascending key l) (he : l.getLast? = some e) (ha : a ∈ l) :
    key a ≤ key e := by
  obtain ⟨l', rfl⟩ := List.getLast?_eq_some_iff.1 he
  rcases List.mem_append.1 ha with ha | ha
  · exact h.le_of_append ha (List.mem_singleton_self _)
  · rw [List.mem_singleton.1 ha]

theorem Ascending.first_le (h : Ascending key l) (he : l.head? = some e) (ha : a ∈ l) :
    key e ≤ key a := by
  obtain ⟨l', rfl⟩ := List.head?_eq_some_iff.1 he
  rcases List.mem_cons.1 ha with rfl | ha
  · exact le_rfl
  · exact List.rel_of_pairwise_cons h ha

theorem Ascending.upTo_append_after (h : Ascending key l) (c : K) :
    upTo key c l ++ after key c l = l := by
  induction l with
  | nil => rfl
  | cons a l ih =>
    by_cases ha : key a ≤ c
    · have hn : ¬ c < key a := not_lt.2 ha
      simpa [upTo, after, ha, hn] using ih (List.Pairwise.of_cons h)
    · have hl : ∀ e ∈ a :: l, c < key e := by
        intro e he
        exact lt_of_lt_of_le (not_le.1 ha) (h.first_le rfl he)
      rw [upTo_eq_nil hl, after_eq_self hl, List.nil_append]

/-- A cut of an ascending log at a strict increase of the key is a cut by a cursor. -/
theorem upTo_of_split (h : l = p ++ r) (hp : ∀ e ∈ p, key e ≤ c) (hr : ∀ e ∈ r, c < key e) :
    upTo key c l = p ∧ after key c l = r := by
  subst h
  rw [upTo_append, after_append, upTo_eq_self hp, upTo_eq_nil hr, after_eq_nil hp,
    after_eq_self hr, List.append_nil, List.nil_append]
  exact ⟨rfl, rfl⟩

theorem Ascending.dropWhile_eq_after (h : Ascending key l) (c : K) :
    (l.dropWhile fun e => key e ≤ c) = after key c l := by
  induction l with
  | nil => rfl
  | cons a l ih =>
    by_cases ha : key a ≤ c
    · have hn : ¬ c < key a := not_lt.2 ha
      simpa [after, ha, hn] using ih (List.Pairwise.of_cons h)
    · have hl : ∀ e ∈ a :: l, c < key e := by
        intro e he
        exact lt_of_lt_of_le (not_le.1 ha) (h.first_le rfl he)
      rw [after_eq_self hl, List.dropWhile_cons_of_neg (by simpa using ha)]

theorem after_after (h : c ≤ d) (l : List E) : after key d (after key c l) = after key d l := by
  simp only [after, List.filter_filter]
  congr 1
  funext e
  by_cases hd : d < key e
  · simp [hd, lt_of_le_of_lt h hd]
  · simp [hd]

theorem page_isPrefix (n : Nat) (l : List E) : page key n l <+: l := by
  unfold page
  cases (l.take n).getLast? with
  | none => exact List.nil_prefix
  | some e =>
    conv => rhs; rw [← List.take_append_drop n l]
    exact (List.prefix_append_right_inj _).2 (List.takeWhile_prefix _)

theorem page_eq_self (h : l.length ≤ n) : page key n l = l := by
  unfold page
  rw [List.take_of_length_le h, List.drop_eq_nil_of_le h]
  cases hl : l.getLast? with
  | none => exact (List.getLast?_eq_none_iff.1 hl).symm
  | some e => exact List.append_nil l

theorem page_ne_nil (hn : 0 < n) (hl : l ≠ []) : page key n l ≠ [] := by
  have ht : l.take n ≠ [] := by
    rw [Ne, List.take_eq_nil_iff]
    rintro (h | h)
    · omega
    · exact hl h
  unfold page
  cases h : (l.take n).getLast? with
  | none => exact absurd (List.getLast?_eq_none_iff.1 h) ht
  | some e => exact List.append_ne_nil_of_left_ne_nil ht _

/-- Past the group of key `k` an ascending log that starts at `k` or later is above `k`. -/
theorem Ascending.lt_of_mem_dropWhile (h : Ascending key l) (hk : ∀ e ∈ l, k ≤ key e)
    (hx : x ∈ l.dropWhile fun e => key e = k) : k < key x := by
  induction l with
  | nil => cases hx
  | cons a l ih =>
    by_cases ha : key a = k
    · rw [List.dropWhile_cons_of_pos (by simpa using ha)] at hx
      exact ih (List.Pairwise.of_cons h) (fun e he => hk e (List.mem_cons_of_mem _ he)) hx
    · rw [List.dropWhile_cons_of_neg (by simpa using ha)] at hx
      have hka : k < key a := lt_of_le_of_ne (hk a (List.mem_cons_self ..)) (Ne.symm ha)
      exact lt_of_lt_of_le hka (h.first_le rfl hx)

/-- The page, the key it ends in and what it leaves, by the last of its base entries. -/
theorem page_split (key : E → K) (ht : (l.take n).getLast? = some t) :
    l = page key n l ++ (l.drop n).dropWhile (fun e => key e = key t) ∧
      ∀ e, (page key n l).getLast? = some e → key e = key t := by
  simp only [page, ht]
  constructor
  · rw [List.append_assoc, List.takeWhile_append_dropWhile, List.take_append_drop]
  · intro e he
    rw [List.getLast?_append] at he
    cases hw : ((l.drop n).takeWhile fun x => key x = key t).getLast? with
    | none =>
      rw [hw, Option.none_or, ht, Option.some.injEq] at he
      rw [he]
    | some w =>
      rw [hw, Option.some_or, Option.some.injEq] at he
      subst w
      simpa using List.mem_takeWhile_imp (List.mem_of_getLast? hw)

theorem Ascending.page_eq_upTo (h : Ascending key l) (he : (page key n l).getLast? = some e) :
    page key n l = upTo key (key e) l := by
  cases ht : (l.take n).getLast? with
  | none => simp [page, ht] at he
  | some t =>
    obtain ⟨hs, hk⟩ := page_split key ht
    refine (upTo_of_split hs ?_ ?_).1.symm
    · intro x hx
      exact (h.sublist (page_isPrefix n l).sublist).le_last he hx
    · intro x hx
      rw [hk e he]
      apply Ascending.lt_of_mem_dropWhile (h.sublist (List.drop_sublist n l)) _ hx
      intro y hy
      apply Ascending.le_of_append (l := l.take n) _ (List.mem_of_getLast? ht) hy
      rwa [List.take_append_drop]

theorem Ascending.after_page (h : Ascending key l) (he : (page key n l).getLast? = some e) :
    after key (key e) l = l.drop (page key n l).length := by
  have hsplit := h.upTo_append_after (key e)
  rw [← h.page_eq_upTo he] at hsplit
  have hdrop := congrArg (List.drop (page key n l).length) hsplit
  rwa [List.drop_left] at hdrop

/-- What a bounded read must return of the entries `l` that are left: at least `n` of them, more
only to finish a group, and never a part of a group. -/
structure IsPage (key : E → K) (n : Nat) (l p : List E) : Prop where
  isPrefix : p <+: l
  atLeast : min n l.length ≤ p.length
  extra : ∀ last, (l.take n).getLast? = some last → ∀ e ∈ p.drop n, key e = key last
  next : ∀ e ∈ p, ∀ x ∈ l.drop p.length, key e < key x

theorem Ascending.page_isPage (h : Ascending key l) (n : Nat) :
    IsPage key n l (page key n l) := by
  cases ht : (l.take n).getLast? with
  | none =>
    have hnil : l.take n = [] := List.getLast?_eq_none_iff.1 ht
    have hpage : page key n l = [] := by simp only [page, ht]
    have hlen : min n l.length = 0 := by rw [← List.length_take, hnil, List.length_nil]
    constructor
    · exact page_isPrefix n l
    · omega
    · intro last hlast
      rw [ht] at hlast
      cases hlast
    · rw [hpage]
      intro e he
      cases he
  | some t =>
    have hpage : page key n l = l.take n ++ (l.drop n).takeWhile fun x => key x = key t := by
      simp only [page, ht]
    constructor
    · exact page_isPrefix n l
    · rw [hpage, List.length_append, List.length_take]
      omega
    · intro last hlast e he
      rw [ht, Option.some.injEq] at hlast
      subst hlast
      rw [hpage, List.drop_append] at he
      rcases List.mem_append.1 he with he | he
      · rw [List.drop_eq_nil_of_le (by rw [List.length_take]; omega)] at he
        cases he
      · simpa using List.mem_takeWhile_imp (List.mem_of_mem_drop he)
    · intro e he x hx
      obtain ⟨last, hlast⟩ :=
        Option.ne_none_iff_exists'.1 (mt List.getLast?_eq_none_iff.1 (List.ne_nil_of_mem he))
      rw [← h.after_page hlast] at hx
      have hle : key e ≤ key last := (h.sublist (page_isPrefix n l).sublist).le_last hlast he
      exact hle.trans_lt (mem_after.1 hx).2

theorem Ascending.upTo_page (h : Ascending key l)
    (he : (page key n (after key c l)).getLast? = some e) :
    upTo key c l ++ page key n (after key c l) = upTo key (key e) l := by
  have ha : Ascending key (after key c l) := h.sublist List.filter_sublist
  have hce : c < key e :=
    (mem_after.1 ((page_isPrefix n _).sublist.mem (List.mem_of_getLast? he))).2
  rw [ha.page_eq_upTo he]
  conv => rhs; rw [← h.upTo_append_after c, upTo_append]
  congr 1
  exact (upTo_eq_self fun x hx => ((mem_upTo.1 hx).2.trans hce.le)).symm

theorem page_append_drop (key : E → K) (n : Nat) (l : List E) :
    page key n l ++ l.drop (page key n l).length = l :=
  List.prefix_iff_eq_append.1 (page_isPrefix n l)

/-- Where the key changes, no key from before comes again. -/
def Grouped (key : E → K) (l : List E) : Prop :=
  ∀ p a b q, l = p ++ a :: b :: q → key a ≠ key b →
    ∀ e ∈ p ++ [a], ∀ x ∈ b :: q, key x ≠ key e

theorem Ascending.grouped (h : Ascending key l) : Grouped key l := by
  rintro p a b q rfl hab e he x hx
  have hap : Ascending key (p ++ [a] ++ b :: q) := by rwa [List.append_assoc, List.singleton_append]
  have hle : key e ≤ key a := hap.left.le_last List.getLast?_concat he
  have hge : key b ≤ key x := hap.right.first_le rfl hx
  have hlt : key a < key b := lt_of_le_of_ne
    (hap.le_of_append (List.mem_append_right p (List.mem_singleton_self a))
      (List.mem_cons_self ..)) hab
  exact ((hle.trans_lt hlt).trans_le hge).ne'

theorem Grouped.page_end (h : Grouped key l) (he : e ∈ page key n l)
    (hx : x ∈ l.drop (page key n l).length) : key x ≠ key e := by
  obtain ⟨last, hlast⟩ :=
    Option.isSome_iff_exists.1 (List.getLast?_isSome.2 (List.ne_nil_of_mem he))
  obtain ⟨t, ht⟩ : ∃ t, (l.take n).getLast? = some t := by
    cases ht : (l.take n).getLast? with
    | none =>
      simp only [page, ht] at he
      cases he
    | some t => exact ⟨t, rfl⟩
  obtain ⟨hs, hk⟩ := page_split key ht
  have hdrop : l.drop (page key n l).length = (l.drop n).dropWhile fun e => key e = key t := by
    have hsplit := (page_append_drop key n l).trans hs
    exact List.append_cancel_left hsplit
  obtain ⟨p, hp⟩ := List.getLast?_eq_some_iff.1 hlast
  rw [hdrop] at hx
  cases hd : (l.drop n).dropWhile fun e => key e = key t with
  | nil =>
    rw [hd] at hx
    cases hx
  | cons b q =>
    have hb : key b ≠ key t := by
      have hhead := List.head?_dropWhile_not (fun e => decide (key e = key t)) (l.drop n)
      rw [hd] at hhead
      simpa using hhead
    rw [hd] at hx
    apply h p last b q _ _ e _ x hx
    · conv => lhs; rw [hs, hd, hp]
      rw [List.append_assoc, List.singleton_append]
    · rw [hk last hlast]
      exact hb.symm
    · rw [← hp]
      exact he

theorem filter_page (key : E → K) (n : Nat) (l : List E) (e : E) :
    l.filter (fun x => key x = key e) = (page key n l).filter (fun x => key x = key e) ++
      (l.drop (page key n l).length).filter fun x => key x = key e := by
  rw [← List.filter_append, page_append_drop]

theorem Grouped.page_group (h : Grouped key l) (he : e ∈ page key n l) :
    (page key n l).filter (fun x => key x = key e) = l.filter fun x => key x = key e := by
  have hrest : (l.drop (page key n l).length).filter (fun x => key x = key e) = [] := by
    rw [List.filter_eq_nil_iff]
    intro x hx hk
    exact h.page_end he hx (of_decide_eq_true hk)
  rw [filter_page key n l e, hrest, List.append_nil]

/-- Every key is on one page only, whatever the size of the page, if and only if the keys stand in
groups. -/
theorem grouped_iff : Grouped key l ↔ ∀ n, 0 < n → ∀ e ∈ page key n l,
    ∀ x ∈ l.drop (page key n l).length, key x ≠ key e := by
  constructor
  · intro h n _ e he x hx
    exact h.page_end he hx
  · rintro h p a b q rfl hab e he x hx
    have hpage : page key (p.length + 1) (p ++ a :: b :: q) = p ++ [a] := by
      have htake : (p ++ a :: b :: q).take (p.length + 1) = p ++ [a] := by
        rw [List.take_append, List.take_of_length_le (Nat.le_succ _), Nat.add_sub_cancel_left]
        rfl
      have hdrop : (p ++ a :: b :: q).drop (p.length + 1) = b :: q := by
        rw [List.drop_append, List.drop_eq_nil_of_le (Nat.le_succ _), Nat.add_sub_cancel_left]
        rfl
      simp only [page, htake, hdrop, List.getLast?_concat]
      rw [List.takeWhile_cons_of_neg (by simpa using hab.symm), List.append_nil]
    apply h (p.length + 1) (Nat.succ_pos _) e (hpage ▸ he)
    have hsplit := page_append_drop key (p.length + 1) (p ++ a :: b :: q)
    rw [hpage, List.append_assoc, List.singleton_append, List.append_cancel_left_eq,
      List.cons.injEq] at hsplit
    rw [hpage, hsplit.2]
    exact hx

/-- Every page of what is left of a log is whole if and only if the keys that are left stand in
groups and are none of those before. -/
theorem pages_whole_iff : (∀ n, 0 < n → ∀ e ∈ page key n l,
      (page key n l).filter (fun x => key x = key e) =
        (p ++ l).filter fun x => key x = key e) ↔
    Grouped key l ∧ ∀ e ∈ l, ∀ x ∈ p, key x ≠ key e := by
  constructor
  · intro h
    have hbefore : ∀ e ∈ l, ∀ x ∈ p, key x ≠ key e := by
      intro e he x hx hk
      have hall : page key l.length l = l := page_eq_self le_rfl
      have hw := h l.length (List.length_pos_of_mem he) e (hall.symm ▸ he)
      rw [hall, List.filter_append] at hw
      have hnil := List.append_left_eq_self.1 hw.symm
      rw [List.filter_eq_nil_iff] at hnil
      exact hnil x hx (decide_eq_true hk)
    refine ⟨grouped_iff.2 fun n hn e he x hx hk => ?_, hbefore⟩
    have hp : p.filter (fun x => key x = key e) = [] := by
      rw [List.filter_eq_nil_iff]
      intro y hy hk'
      exact hbefore e ((page_isPrefix n l).subset he) y hy (of_decide_eq_true hk')
    have hw := h n hn e he
    rw [List.filter_append, hp, List.nil_append, filter_page key n l e] at hw
    have hnil := List.append_right_eq_self.1 hw.symm
    rw [List.filter_eq_nil_iff] at hnil
    exact hnil x hx (decide_eq_true hk)
  · rintro ⟨hg, hbefore⟩ n hn e he
    have hp : p.filter (fun x => key x = key e) = [] := by
      rw [List.filter_eq_nil_iff]
      intro x hx hk
      exact hbefore e ((page_isPrefix n l).subset he) x hx (of_decide_eq_true hk)
    rw [hg.page_group he, List.filter_append, hp, List.nil_append]

/-- A page of what is left of a log is whole if and only if its first group starts in what is
left. -/
theorem Ascending.page_whole_iff (h : Ascending key (p ++ l)) (hfirst : l.head? = some first)
    (hn : 0 < n) :
    (∀ e ∈ page key n l, (page key n l).filter (fun x => key x = key e) =
      (p ++ l).filter fun x => key x = key e) ↔ ∀ x ∈ p, key x ≠ key first := by
  have hmem : first ∈ l := List.mem_of_mem_head? hfirst
  have hpage : first ∈ page key n l := by
    obtain ⟨l', rfl⟩ := List.head?_eq_some_iff.1 hfirst
    have hne : page key n (first :: l') ≠ [] := page_ne_nil hn (List.ne_nil_of_mem hmem)
    have hpre : page key n (first :: l') <+: first :: l' := page_isPrefix ..
    obtain ⟨a, as, ha⟩ := List.exists_cons_of_ne_nil hne
    obtain ⟨r, hr⟩ := hpre
    rw [ha, List.cons_append, List.cons.injEq] at hr
    rw [ha, hr.1]
    exact List.mem_cons_self ..
  constructor
  · intro hw x hx hk
    have hf := hw first hpage
    rw [h.right.grouped.page_group hpage, List.filter_append] at hf
    have hnil := List.append_left_eq_self.1 hf.symm
    rw [List.filter_eq_nil_iff] at hnil
    exact hnil x hx (decide_eq_true hk)
  · intro hne e he
    have hnil : p.filter (fun x => key x = key e) = [] := by
      rw [List.filter_eq_nil_iff]
      intro x hx hk
      have hle : key x ≤ key first := h.le_of_append hx hmem
      have hge : key first ≤ key e := h.right.first_le hfirst ((page_isPrefix n l).subset he)
      rw [← of_decide_eq_true hk] at hge
      exact hne x hx (le_antisymm hle hge)
    rw [h.right.grouped.page_group he, List.filter_append, hnil, List.nil_append]

end KeyedLog
