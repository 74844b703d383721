import Mathlib.Data.List.Induction

namespace Run
set_option autoImplicit true

variable {σ : Type u} {α : Type v} {ω : Type w} {step : σ → α → σ × List ω}

/-- The state after a list of labels. -/
def final (step : σ → α → σ × List ω) (s : σ) : List α → σ
  | [] => s
  | a :: as => final step (step s a).1 as

/-- Everything shown along a list of labels, in order. -/
def outputs (step : σ → α → σ × List ω) (s : σ) : List α → List ω
  | [] => []
  | a :: as => (step s a).2 ++ outputs step (step s a).1 as

/-- Every step of the run meets `G`, which sees the outputs before it. -/
def Along (step : σ → α → σ × List ω) (G : List ω → σ → α → Prop) (s : σ) (as : List α) : Prop :=
  ∀ pre a post, as = pre ++ a :: post → G (outputs step s pre) (final step s pre) a

theorem final_append (as bs : List α) :
    final step s (as ++ bs) = final step (final step s as) bs := by
  induction as generalizing s with
  | nil => rfl
  | cons a as ih => exact ih

theorem outputs_append (as bs : List α) :
    outputs step s (as ++ bs) = outputs step s as ++ outputs step (final step s as) bs := by
  induction as generalizing s with
  | nil => rfl
  | cons a as ih => simp only [List.cons_append, outputs, final, ih, List.append_assoc]

@[simp] theorem final_concat : final step s (as ++ [a]) = (step (final step s as) a).1 :=
  final_append as [a]

@[simp] theorem outputs_concat :
    outputs step s (as ++ [a]) = outputs step s as ++ (step (final step s as) a).2 := by
  rw [outputs_append, outputs, outputs, List.append_nil]

theorem final_invariant {I : σ → Prop} (hI : ∀ t a, I t → I (step t a).1) (h : I s)
    (as : List α) : I (final step s as) := by
  induction as generalizing s with
  | nil => exact h
  | cons a as ih => exact ih (hI s a h)

theorem Along.nil : Along step G s [] := by
  intro pre a post he
  cases pre <;> cases he

theorem Along.of_labels (h : ∀ a ∈ as, ∀ os t, G os t a) : Along step G s as := by
  rintro _ a post rfl
  exact h a (List.mem_append_right _ (List.mem_cons_self ..)) _ _

theorem Along.cons (h : G [] s a)
    (ht : Along step (fun os t b => G ((step s a).2 ++ os) t b) (step s a).1 as) :
    Along step G s (a :: as) := by
  intro pre b post he
  cases pre with
  | nil =>
    cases he
    exact h
  | cons a' pre =>
    cases he
    exact ht pre b post rfl

theorem Along.concat (h : Along step G s as) (ha : G (outputs step s as) (final step s as) a) :
    Along step G s (as ++ [a]) := by
  intro pre b post he
  rcases List.append_eq_append_iff.1 he with ⟨mid, rfl, hmid⟩ | ⟨mid, rfl, hmid⟩
  · cases mid with
    | nil =>
      cases hmid
      rw [List.append_nil]
      exact ha
    | cons x mid =>
      have hn := congrArg List.length hmid
      simp only [List.length_cons, List.length_append, List.length_nil] at hn
      omega
  · cases mid with
    | nil =>
      cases hmid
      rw [List.append_nil] at ha
      exact ha
    | cons x mid =>
      cases hmid
      exact h pre b mid rfl

theorem Along.left (h : Along step G s (as ++ bs)) : Along step G s as := by
  intro pre a post he
  apply h pre a (post ++ bs)
  rw [he, List.append_assoc, List.cons_append]

theorem Along.of_prefix (h : Along step G s as) (hp : bs <+: as) : Along step G s bs := by
  obtain ⟨cs, rfl⟩ := hp
  exact h.left

theorem Along.last (h : Along step G s (as ++ [a])) :
    G (outputs step s as) (final step s as) a := h as a [] rfl

theorem Along.of_prefixes (h : ∀ bs b, bs ++ [b] <+: as → Along step G s bs →
      G (outputs step s bs) (final step s bs) b) : Along step G s as := by
  induction as using List.reverseRecOn with
  | nil => exact .nil
  | append_singleton as a ih =>
    have hg : Along step G s as := ih fun bs b hp => h bs b (hp.trans (List.prefix_append ..))
    exact hg.concat (h as a (List.prefix_refl _) hg)

/-- Two runs of a system, of which the second leaves out some of the labels: what a kept label
preserves on both sides and a dropped one on the first relates the ends. -/
theorem final_filter {R : σ → σ → Prop} {kept : α → Bool} (h : R s t)
    (hdropped : ∀ s t, ∀ a ∈ as, kept a = false → R s t → R (step s a).1 t)
    (hkept : ∀ s t, ∀ a ∈ as, kept a = true → R s t → R (step s a).1 (step t a).1) :
    R (final step s as) (final step t (as.filter kept)) := by
  induction as generalizing s t with
  | nil => exact h
  | cons a as ih =>
    have hd := fun s t b hb => hdropped s t b (List.mem_cons_of_mem a hb)
    have hk := fun s t b hb => hkept s t b (List.mem_cons_of_mem a hb)
    cases ha : kept a with
    | false =>
      rw [List.filter_cons_of_neg (by rw [ha]; decide)]
      exact ih (hdropped s t a (List.mem_cons_self ..) ha h) hd hk
    | true =>
      rw [List.filter_cons_of_pos ha]
      exact ih (hkept s t a (List.mem_cons_self ..) ha h) hd hk

/-- Runs a guard that can be decided along a list of labels. -/
def check (step : σ → α → σ × List ω) (G : List ω → σ → α → Bool) (os : List ω) (s : σ) :
    List α → Bool
  | [] => true
  | a :: as => G os s a && check step G (os ++ (step s a).2) (step s a).1 as

theorem check_along (h : check step G os s as = true) :
    Along step (fun os' t a => G (os ++ os') t a = true) s as := by
  induction as generalizing os s with
  | nil => exact .nil
  | cons a as ih =>
    rw [check, Bool.and_eq_true] at h
    apply Along.cons
    · rw [List.append_nil]
      exact h.1
    · have ht := ih h.2
      simp only [List.append_assoc] at ht
      exact ht

theorem Along.of_check {G : List ω → σ → α → Bool} (h : check step G [] s as = true) :
    Along step (fun os t a => G os t a = true) s as := check_along h

/-- A statement about the labels, outputs and state so far that holds at the start and that every
guarded step preserves holds at the end of a guarded run. -/
theorem Along.invariant {I : List α → List ω → σ → Prop} (h : Along step G s as)
    (h0 : I [] [] s)
    (hI : ∀ as os t a, I as os t → G os t a → I (as ++ [a]) (os ++ (step t a).2) (step t a).1) :
    I as (outputs step s as) (final step s as) := by
  induction as using List.reverseRecOn with
  | nil => exact h0
  | append_singleton as a ih =>
    rw [final_concat, outputs_concat]
    exact hI as _ _ a (ih h.left) h.last

/-- Two guards that agree where `I` holds agree along runs, when a guarded step preserves `I`. -/
theorem Along.congr {I : List ω → σ → Prop} (h0 : I [] s)
    (hI : ∀ os t a, I os t → G os t a → I (os ++ (step t a).2) (step t a).1)
    (hiff : ∀ os t a, I os t → (G' os t a ↔ G os t a)) :
    Along step G' s as ↔ Along step G s as := by
  have hinv : ∀ {bs}, Along step G s bs → I (outputs step s bs) (final step s bs) := by
    intro bs hbs
    exact hbs.invariant (I := fun _ => I) h0 fun _ os t a => hI os t a
  constructor
  · intro h
    apply Along.of_prefixes
    intro bs b hp hbs
    exact (hiff _ _ b (hinv hbs)).1 (h.of_prefix hp).last
  · intro h pre a post he
    rw [he] at h
    exact (hiff _ _ a (hinv h.left)).2 (h pre a post rfl)

/-- A statement about the labels so far that a step keeps exactly when it meets `G` holds at every
point of a run if and only if the run meets `G`. -/
theorem Along.prefixes_iff {P : List α → Prop} (h0 : P [])
    (hstep : ∀ bs b, bs ++ [b] <+: as → P bs →
      (P (bs ++ [b]) ↔ G (outputs step s bs) (final step s bs) b)) :
    (∀ bs, bs <+: as → P bs) ↔ Along step G s as := by
  constructor
  · intro hall
    apply Along.of_prefixes
    intro bs b hp _
    exact (hstep bs b hp (hall bs ((List.prefix_append ..).trans hp))).1 (hall _ hp)
  · intro h bs hp
    have hg := h.of_prefix hp
    induction bs using List.reverseRecOn with
    | nil => exact h0
    | append_singleton bs b ih =>
      exact (hstep bs b hp (ih ((List.prefix_append ..).trans hp) hg.left)).2 hg.last

theorem forall_outputs {P : ω → Prop} :
    (∀ o ∈ outputs step s as, P o) ↔
      Along step (fun _ t a => ∀ o ∈ (step t a).2, P o) s as := by
  constructor
  · rintro h pre a post rfl o ho
    apply h
    rw [outputs_append, outputs]
    exact List.mem_append_right _ (List.mem_append_left _ ho)
  · intro h
    induction as using List.reverseRecOn with
    | nil =>
      intro o ho
      cases ho
    | append_singleton as a ih =>
      intro o ho
      rw [outputs_concat, List.mem_append] at ho
      cases ho with
      | inl ho => exact ih h.left o ho
      | inr ho => exact h.last o ho

theorem history_invariant (step : σ → α → σ × List ω) (s : σ)
    {I : List α → List ω → σ → Prop} (h0 : I [] [] s)
    (hI : ∀ as os t a, I as os t → I (as ++ [a]) (os ++ (step t a).2) (step t a).1)
    (as : List α) : I as (outputs step s as) (final step s as) :=
  Along.invariant (G := fun _ _ _ => True) (fun _ _ _ _ => trivial) h0
    fun as os t a h _ => hI as os t a h

/-- A system each of whose guarded steps is a run of another system: a guarded run of the one is a
run of the other, which shows the same. -/
theorem Along.simulated {σ' : Type u'} {α' : Type v'} {step' : σ' → α' → σ' × List ω}
    {R : σ → σ' → Prop} {t : σ'} (h : Along step G s as) (hR : R s t)
    (hstep : ∀ os s t a, R s t → G os s a →
      ∃ bs, R (step s a).1 (final step' t bs) ∧ (step s a).2 = outputs step' t bs) :
    ∃ bs, R (final step s as) (final step' t bs) ∧
      outputs step s as = outputs step' t bs := by
  induction as using List.reverseRecOn with
  | nil => exact ⟨[], hR, rfl⟩
  | append_singleton as a ih =>
    obtain ⟨bs, hbs, ho⟩ := ih h.left
    obtain ⟨cs, hcs, hoc⟩ := hstep _ _ _ a hbs h.last
    refine ⟨bs ++ cs, ?_, ?_⟩
    · rw [final_concat, final_append]
      exact hcs
    · rw [outputs_concat, outputs_append, ho, hoc]

end Run
