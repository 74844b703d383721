import Canal.Lib.Rendering

namespace Json
set_option autoImplicit true

open Rendering

/-- A JSON value; its text is the compact one that a serializer without options writes. -/
inductive Tree
  | null
  | bool (b : Bool)
  | num (n : Int)
  | str (s : String)
  | arr (items : List Tree)
  | obj (members : List (String × Tree))

/-- The letter of a two-character escape. -/
def shortEscape (c : Char) : Option Char :=
  if c = '"' then some '"'
  else if c = '\\' then some '\\'
  else if c = '\x08' then some 'b'
  else if c = '\x0c' then some 'f'
  else if c = '\n' then some 'n'
  else if c = '\r' then some 'r'
  else if c = '\t' then some 't'
  else none

/-- What a character of a string is written as. -/
def escape (c : Char) : List Char :=
  match shortEscape c with
  | some letter => ['\\', letter]
  | none => if c.toNat < 0x20 then '\\' :: 'u' :: '0' :: '0' :: hexPair c.toNat else [c]

def quoted (s : String) : List Char := '"' :: (s.toList.flatMap escape ++ ['"'])

mutual

def Tree.render : Tree → List Char
  | .null => "null".toList
  | .bool b => (if b then "true" else "false").toList
  | .num n => signed 0 n
  | .str s => quoted s
  | .arr items => '[' :: renderItems true items
  | .obj members => '{' :: renderMembers true members

def renderItems (first : Bool) : List Tree → List Char
  | [] => [']']
  | item :: items => (if first then [] else [',']) ++ (item.render ++ renderItems false items)

def renderMembers (first : Bool) : List (String × Tree) → List Char
  | [] => ['}']
  | (key, value) :: members =>
    (if first then [] else [',']) ++
      (quoted key ++ ':' :: (value.render ++ renderMembers false members))

end

/-- The compact text. -/
def Tree.text (t : Tree) : String := String.ofList t.render

/-- The character that a letter escapes. -/
def escapedBy (letter : Char) : Char :=
  if letter = 'b' then '\x08'
  else if letter = 'f' then '\x0c'
  else if letter = 'n' then '\n'
  else if letter = 'r' then '\r'
  else if letter = 't' then '\t'
  else letter

theorem eq_escapedBy (h : shortEscape c = some letter) : c = escapedBy letter ∧ letter ≠ 'u' := by
  unfold shortEscape at h
  split at h
  · rename_i hc
    cases h
    rw [hc]
    decide
  · repeat' split at h
    all_goals cases h
    all_goals (rename_i hc; rw [hc]; decide)

theorem shortEscape_inj (h : shortEscape c = some letter) (h' : shortEscape c' = some letter) :
    c = c' := (eq_escapedBy h).1.trans (eq_escapedBy h').1.symm

theorem shortEscape_ne_u : shortEscape c ≠ some 'u' := fun h => (eq_escapedBy h).2 rfl

theorem shortEscape_backslash : shortEscape '\\' = some '\\' := by decide

theorem shortEscape_quote : shortEscape '"' = some '"' := by decide

theorem escape_append_inj (h : escape c ++ r = escape c' ++ r') : c = c' ∧ r = r' := by
  unfold escape at h
  cases hs : shortEscape c with
  | some letter =>
    cases hs' : shortEscape c' with
    | some letter' =>
      simp only [hs, hs', List.cons_append, List.nil_append, List.cons.injEq, true_and] at h
      obtain ⟨rfl, hr⟩ := h
      exact ⟨shortEscape_inj hs hs', hr⟩
    | none =>
      simp only [hs, hs'] at h
      split at h
      · obtain ⟨rfl, -⟩ := List.cons.inj (List.cons.inj h).2
        exact absurd hs shortEscape_ne_u
      · obtain ⟨rfl, -⟩ := List.cons.inj h
        rw [shortEscape_backslash] at hs'
        cases hs'
  | none =>
    cases hs' : shortEscape c' with
    | some letter' =>
      simp only [hs, hs'] at h
      split at h
      · obtain ⟨rfl, -⟩ := List.cons.inj (List.cons.inj h).2
        exact absurd hs' shortEscape_ne_u
      · obtain ⟨rfl, -⟩ := List.cons.inj h
        rw [shortEscape_backslash] at hs
        cases hs
    | none =>
      simp only [hs, hs'] at h
      split at h <;> split at h
      · rename_i hc hc'
        obtain ⟨hpair, hr⟩ := List.append_inj
          (List.cons.inj (List.cons.inj (List.cons.inj (List.cons.inj h).2).2).2).2 rfl
        have hn := hexPair_inj (Nat.lt_trans hc (by decide)) (Nat.lt_trans hc' (by decide)) hpair
        exact ⟨Char.toNat_inj.mp hn, hr⟩
      · obtain ⟨rfl, -⟩ := List.cons.inj h
        rw [shortEscape_backslash] at hs'
        cases hs'
      · obtain ⟨rfl, -⟩ := List.cons.inj h
        rw [shortEscape_backslash] at hs
        cases hs
      · exact List.cons.inj h

theorem escape_ne_quote (c : Char) (r : List Char) : escape c ++ r ≠ '"' :: r' := by
  intro h
  unfold escape at h
  cases hs : shortEscape c with
  | some letter =>
    simp only [hs] at h
    exact absurd (List.cons.inj h).1 (by decide)
  | none =>
    simp only [hs] at h
    split at h
    · exact absurd (List.cons.inj h).1 (by decide)
    · obtain ⟨rfl, -⟩ := List.cons.inj h
      rw [shortEscape_quote] at hs
      cases hs

theorem escaped_append_inj (cs cs' : List Char)
    (h : cs.flatMap escape ++ '"' :: r = cs'.flatMap escape ++ '"' :: r') : cs = cs' ∧ r = r' := by
  induction cs generalizing cs' with
  | nil =>
    cases cs' with
    | nil => exact ⟨rfl, (List.cons.inj h).2⟩
    | cons c' cs' =>
      rw [List.flatMap_cons, List.append_assoc] at h
      exact (escape_ne_quote _ _ h.symm).elim
  | cons c cs ih =>
    cases cs' with
    | nil =>
      rw [List.flatMap_cons, List.append_assoc] at h
      exact (escape_ne_quote _ _ h).elim
    | cons c' cs' =>
      rw [List.flatMap_cons, List.flatMap_cons, List.append_assoc, List.append_assoc] at h
      obtain ⟨rfl, ht⟩ := escape_append_inj h
      obtain ⟨rfl, hr⟩ := ih cs' ht
      exact ⟨rfl, hr⟩

theorem quoted_append_inj (h : quoted s ++ r = quoted s' ++ r') : s = s' ∧ r = r' := by
  simp only [quoted, List.cons_append, List.append_assoc, List.nil_append, List.cons.injEq,
    true_and] at h
  obtain ⟨hs, hr⟩ := escaped_append_inj _ _ h
  exact ⟨String.toList_inj.mp hs, hr⟩

/-- No number goes on with the first character. -/
def Ends (r : List Char) : Prop := ∀ c ∈ r.head?, ¬ (c.isDigit = true ∨ c = '-')

theorem signed_append_inj (hr : Ends r) (hr' : Ends r') (h : signed 0 n ++ r = signed 0 m ++ r') :
    n = m ∧ r = r' := by
  have hchars : ∀ k : Int, ∀ c ∈ signed 0 k, c.isDigit = true ∨ c = '-' := fun k c hc =>
    (mem_signed hc).imp_right And.left
  obtain ⟨hs, hr⟩ := append_stop_inj (hchars n) (hchars m) hr hr' h
  exact ⟨signed_inj hs, hr⟩

/-- The kinds of trees, and the marks that stand between them. -/
inductive Kind
  | null | bool | num | str | arr | obj | mark
deriving DecidableEq

def kindOf (c : Char) : Kind :=
  if c = 'n' then .null
  else if c = 't' ∨ c = 'f' then .bool
  else if c = '"' then .str
  else if c = '[' then .arr
  else if c = '{' then .obj
  else if c.isDigit ∨ c = '-' then .num
  else .mark

def Tree.kind : Tree → Kind
  | .null => .null
  | .bool _ => .bool
  | .num _ => .num
  | .str _ => .str
  | .arr _ => .arr
  | .obj _ => .obj

theorem kindOf_number (h : c.isDigit = true ∨ c = '-') : kindOf c = .num := by
  unfold kindOf
  rcases h with h | rfl
  · have hne : ∀ d : Char, d.isDigit = false → c ≠ d := by
      rintro d hd rfl
      rw [h] at hd
      cases hd
    simp [h, hne 'n' rfl, hne 't' rfl, hne 'f' rfl, hne '"' rfl, hne '[' rfl, hne '{' rfl]
  · decide

theorem Tree.render_head (t : Tree) : ∃ c rest, t.render = c :: rest ∧ kindOf c = t.kind := by
  cases t with
  | null => exact ⟨_, _, rfl, by decide⟩
  | bool b => cases b <;> exact ⟨_, _, rfl, by decide⟩
  | num n =>
    rw [render]
    cases hs : signed 0 n with
    | nil =>
      have hd := (List.append_eq_nil_iff.mp hs).2
      exact absurd (List.append_eq_nil_iff.mp hd).2 Nat.toDigits_ne_nil
    | cons c rest =>
      exact ⟨c, rest, rfl, kindOf_number
        ((mem_signed (hs ▸ List.mem_cons_self)).imp_right And.left)⟩
  | str s => exact ⟨_, _, by rw [render, quoted], (by decide : kindOf '"' = .str)⟩
  | arr items => exact ⟨_, _, by rw [render], (by decide : kindOf '[' = .arr)⟩
  | obj members => exact ⟨_, _, by rw [render], (by decide : kindOf '{' = .obj)⟩

theorem kind_of_append (t : Tree) (h : t.render ++ r = c :: r') : kindOf c = t.kind := by
  obtain ⟨c', rest, ht, hk⟩ := t.render_head
  rw [ht] at h
  rw [← hk, (List.cons.inj h).1]

theorem kind_eq (t t' : Tree) (h : t.render ++ r = t'.render ++ r') : t.kind = t'.kind := by
  obtain ⟨c', rest, ht, hk⟩ := t'.render_head
  rw [ht] at h
  rw [← hk, kind_of_append t h]

theorem ends_items (items : List Tree) (r : List Char) : Ends (renderItems false items ++ r) := by
  intro c hc
  cases items with
  | nil =>
    rw [renderItems] at hc
    cases Option.mem_some.mp hc
    decide
  | cons item items =>
    rw [renderItems] at hc
    cases Option.mem_some.mp hc
    decide

theorem ends_members (members : List (String × Tree)) (r : List Char) :
    Ends (renderMembers false members ++ r) := by
  intro c hc
  cases members with
  | nil =>
    rw [renderMembers] at hc
    cases Option.mem_some.mp hc
    decide
  | cons member members =>
    rw [renderMembers] at hc
    cases Option.mem_some.mp hc
    decide

theorem end_ne_item (first : Bool) (t : Tree) (r r' : List Char) :
    ']' :: r ≠ (if first then [] else [',']) ++ (t.render ++ r') := by
  intro h
  cases first with
  | false => exact absurd (List.cons.inj h).1 (by decide)
  | true =>
    have hk := kind_of_append t h.symm
    cases t <;> exact absurd hk (by simp [kindOf, Tree.kind])

theorem end_ne_member (first : Bool) (key : String) (r r' : List Char) :
    '}' :: r ≠ (if first then [] else [',']) ++ (quoted key ++ r') := by
  intro h
  cases first <;> exact absurd (List.cons.inj h).1 (by decide)

mutual

theorem Tree.render_append_inj (t t' : Tree) (hr : Ends r) (hr' : Ends r')
    (h : t.render ++ r = t'.render ++ r') : t = t' ∧ r = r' := by
  have hk := kind_eq t t' h
  match t with
  | .null =>
    cases t' with
    | null => exact ⟨rfl, List.append_cancel_left h⟩
    | _ => cases hk
  | .bool b =>
    cases t' with
    | bool b' =>
      cases b <;> cases b'
      · exact ⟨rfl, List.append_cancel_left h⟩
      · cases h
      · cases h
      · exact ⟨rfl, List.append_cancel_left h⟩
    | _ => cases hk
  | .num n =>
    cases t' with
    | num m =>
      rw [Tree.render, Tree.render] at h
      obtain ⟨rfl, hrest⟩ := signed_append_inj hr hr' h
      exact ⟨rfl, hrest⟩
    | _ => cases hk
  | .str s =>
    cases t' with
    | str s' =>
      rw [Tree.render, Tree.render] at h
      obtain ⟨rfl, hrest⟩ := quoted_append_inj h
      exact ⟨rfl, hrest⟩
    | _ => cases hk
  | .arr items =>
    cases t' with
    | arr items' =>
      rw [Tree.render, Tree.render] at h
      obtain ⟨rfl, hrest⟩ := renderItems_append_inj true items items' (List.cons.inj h).2
      exact ⟨rfl, hrest⟩
    | _ => cases hk
  | .obj members =>
    cases t' with
    | obj members' =>
      rw [Tree.render, Tree.render] at h
      obtain ⟨rfl, hrest⟩ := renderMembers_append_inj true members members' (List.cons.inj h).2
      exact ⟨rfl, hrest⟩
    | _ => cases hk

theorem renderItems_append_inj (first : Bool) (items items' : List Tree)
    (h : renderItems first items ++ r = renderItems first items' ++ r') :
    items = items' ∧ r = r' := by
  match items, items' with
  | [], [] =>
    rw [renderItems] at h
    exact ⟨rfl, List.append_cancel_left h⟩
  | [], item' :: items' =>
    rw [renderItems, renderItems, List.append_assoc, List.append_assoc] at h
    exact (end_ne_item _ _ _ _ h).elim
  | item :: items, [] =>
    rw [renderItems, renderItems, List.append_assoc, List.append_assoc] at h
    exact (end_ne_item _ _ _ _ h.symm).elim
  | item :: items, item' :: items' =>
    rw [renderItems, renderItems, List.append_assoc, List.append_assoc, List.append_assoc,
      List.append_assoc] at h
    obtain ⟨rfl, hrest⟩ := Tree.render_append_inj item item' (ends_items items r)
      (ends_items items' r') (List.append_cancel_left h)
    obtain ⟨rfl, hr⟩ := renderItems_append_inj false items items' hrest
    exact ⟨rfl, hr⟩

theorem renderMembers_append_inj (first : Bool) (members members' : List (String × Tree))
    (h : renderMembers first members ++ r = renderMembers first members' ++ r') :
    members = members' ∧ r = r' := by
  match members, members' with
  | [], [] =>
    rw [renderMembers] at h
    exact ⟨rfl, List.append_cancel_left h⟩
  | [], (key', value') :: members' =>
    rw [renderMembers, renderMembers, List.append_assoc, List.append_assoc] at h
    exact (end_ne_member _ _ _ _ h).elim
  | (key, value) :: members, [] =>
    rw [renderMembers, renderMembers, List.append_assoc, List.append_assoc] at h
    exact (end_ne_member _ _ _ _ h.symm).elim
  | (key, value) :: members, (key', value') :: members' =>
    rw [renderMembers, renderMembers, List.append_assoc, List.append_assoc, List.append_assoc,
      List.append_assoc] at h
    obtain ⟨rfl, hvalue⟩ := quoted_append_inj (List.append_cancel_left h)
    simp only [List.cons_append, List.append_assoc, List.cons.injEq, true_and] at hvalue
    obtain ⟨rfl, hrest⟩ := Tree.render_append_inj value value' (ends_members members r)
      (ends_members members' r') hvalue
    obtain ⟨rfl, hr⟩ := renderMembers_append_inj false members members' hrest
    exact ⟨rfl, hr⟩

end

theorem Tree.text_inj {t t' : Tree} (h : t.text = t'.text) : t = t' := by
  have hnil : Ends [] := fun c hc => nomatch hc
  have hl : t.render = t'.render := by
    rw [← String.toList_ofList (l := t.render), ← String.toList_ofList (l := t'.render)]
    exact congrArg String.toList h
  exact (t.render_append_inj t' hnil hnil (congrArg (· ++ []) hl)).1

/-- A member that is there when it has a value. -/
def ifSome (key : String) (value : Option Tree) : List (String × Tree) :=
  (value.map fun v => (key, v)).toList

theorem key_of_mem_ifSome (h : m ∈ ifSome key value) : m.1 = key := by
  cases value with
  | none => cases h
  | some v =>
    cases List.mem_singleton.mp h
    rfl

theorem ifSome_append_inj (hr : ∀ m ∈ r, m.1 ≠ key) (hr' : ∀ m ∈ r', m.1 ≠ key)
    (h : ifSome key value ++ r = ifSome key value' ++ r') : value = value' ∧ r = r' := by
  cases value with
  | none =>
    cases value' with
    | none => exact ⟨rfl, h⟩
    | some v' =>
      have hmem : (key, v') ∈ r := by
        rw [show r = _ from h]
        exact List.mem_cons_self
      exact absurd rfl (hr _ hmem)
  | some v =>
    cases value' with
    | none =>
      have hmem : (key, v) ∈ r' := by
        rw [show r' = _ from h.symm]
        exact List.mem_cons_self
      exact absurd rfl (hr' _ hmem)
    | some v' =>
      obtain ⟨hm, hrest⟩ := List.cons.inj h
      rw [(Prod.mk.inj hm).2]
      exact ⟨rfl, hrest⟩

theorem ifSome_inj (h : ifSome key value = ifSome key value') : value = value' :=
  have hnil : ∀ m ∈ ([] : List (String × Tree)), m.1 ≠ key := fun _ hm => nomatch hm
  (ifSome_append_inj hnil hnil (congrArg (· ++ []) h)).1

example : (Tree.obj [("a", .arr [.num (-5), .null]), ("b\n", .bool true)]).text =
    "\x7b\"a\":[-5,null],\"b\\n\":true\x7d" := by decide

end Json
