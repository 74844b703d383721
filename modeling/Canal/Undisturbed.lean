import Canal.Supervised

namespace Canal
set_option autoImplicit true

open Pipeline (plainFloats everyTable)
variable {token : Option String} {m : InstanceManager} {saw saw' did : Nat → Bool → Prop}

namespace Supervised

/-- The handler will not stop the instance that is registered under `destination`. -/
structure Harmless (token : Option String) (destination : String) (handler : AdminHandler) :
    Prop where
  request : ∀ authorization, handler = .requested (.stop authorization destination) →
    checkAuth authorization token ≠ .ok ()
  command : ∀ name, handler ≠ .commanding false 0 name

theorem Harmless.ended (token : Option String) (destination : String) :
    Harmless token destination .ended :=
  ⟨fun _ he => (by cases he), fun _ he => (by cases he)⟩

theorem Harmless.counting (token : Option String) (destination : String) (todo : List Nat)
    (running : Nat) : Harmless token destination (.counting todo running) :=
  ⟨fun _ he => (by cases he), fun _ he => (by cases he)⟩

theorem Harmless.listing (token : Option String) (destination : String) (todo : List String)
    (instances : List InstanceSummary) : Harmless token destination (.listing todo instances) :=
  ⟨fun _ he => (by cases he), fun _ he => (by cases he)⟩

theorem Harmless.advance (h : Harmless token destination handler)
    (hm : m.instances = [(destination, 0)])
    (hn : (handler.advance token m).2 = .inl next) : Harmless token destination next := by
  cases handler with
  | requested r =>
    cases r with
    | index =>
      cases hn
      exact .counting ..
    | list authorization =>
      simp only [AdminHandler.advance, AdminHandler.listInstances] at hn
      split at hn
      · cases hn
      · cases hn
        exact .listing ..
    | start authorization name =>
      simp only [AdminHandler.advance, AdminHandler.startInstance,
        AdminHandler.commandInstance] at hn
      split at hn
      · cases hn
      · split at hn
        · cases hn
          exact ⟨fun _ he => (by cases he), fun _ he => (by cases he)⟩
        · cases hn
    | stop authorization name =>
      simp only [AdminHandler.advance, AdminHandler.stopInstance,
        AdminHandler.commandInstance] at hn
      split at hn
      · cases hn
      · rename_i hauth
        split at hn
        · -- the only instance is the one that no accepted request names
          rename_i i hget
          rw [InstanceManager.get, hm] at hget
          have hname := mem_of_lookup hget
          cases List.mem_singleton.1 hname
          exact absurd hauth (h.request authorization rfl)
        · cases hn
  | counting todo running =>
    cases todo with
    | nil => cases hn
    | cons =>
      cases hn
      exact .counting ..
  | listing todo instances =>
    cases todo with
    | nil => cases hn
    | cons =>
      cases hn
      exact .listing ..
  | commanding => cases hn
  | ended =>
    cases hn
    exact h

theorem Harmless.commands (h : Harmless token destination handler) :
    ∀ b ∈ commands (handler.effect.map fun e => AdminNote.set e.1 e.2).toList,
      b ≠ .stop ∧ b ≠ .abort := by
  cases handler with
  | commanding running i name =>
    intro b hb
    cases running with
    | true =>
      cases i with
      | zero =>
        cases List.mem_singleton.1 hb
        exact ⟨fun he => (by cases he), fun he => (by cases he)⟩
      | succ => cases hb
    | false =>
      cases i with
      | zero => exact absurd rfl (h.command name)
      | succ => cases hb
  | requested | counting | listing | ended => exact fun b hb => absurd hb List.not_mem_nil

/-- The instance runs on, whatever the admin interface is asked. -/
structure Undisturbed (floats : FloatText) (startJournal destination : String) (lib : Crates)
    (f : EventFilter) (cap : Nat) (d : Bool) (token : Option String) (os : List SupervisedNote)
    (s : Supervised) : Prop where
  guarded : s.admin.adminToken = token
  registered : s.admin.manager.instances = [(destination, 0)]
  harmless : ∀ handler ∈ s.admin.handlers, Harmless token destination handler
  flowing : Pipeline.Flowing floats startJournal True lib f cap d (supervisedNotes os) s.pipeline

theorem flowing_commands {os : List PipelineNote} {s : Pipeline}
    (h : Pipeline.Flowing floats startJournal True lib f cap d os s)
    (hbs : ∀ b ∈ bs, b ≠ .stop ∧ b ≠ .abort) :
    Pipeline.Flowing floats startJournal True lib f cap d
      (os ++ Run.outputs (Pipeline.step floats lib d) s bs)
      (Run.final (Pipeline.step floats lib d) s bs) := by
  induction bs generalizing os s with
  | nil =>
    rw [Run.outputs, List.append_nil]
    exact h
  | cons b bs ih =>
    rw [Run.outputs, Run.final, ← List.append_assoc]
    apply ih
    · exact h.step b fun _ => hbs b (List.mem_cons_self ..)
    · exact fun b' hb' => hbs b' (List.mem_cons_of_mem _ hb')

variable {floats : FloatText} {startJournal destination : String} {lib : Crates}
  {f : EventFilter} {cap : Nat} {d : Bool} {os : List SupervisedNote} {s : Supervised}

theorem Undisturbed.admin (h : Undisturbed floats startJournal destination lib f cap d token os s)
    (a : AdminAction) (hguarded : (s.admin.step a).1.adminToken = s.admin.adminToken)
    (hregistered : (s.admin.step a).1.manager.instances = s.admin.manager.instances)
    (hharmless : ∀ handler ∈ (s.admin.step a).1.handlers, Harmless token destination handler)
    (hcommands : ∀ b ∈ commands (s.admin.step a).2, b ≠ .stop ∧ b ≠ .abort) :
    let run := commands (s.admin.step a).2
    Undisturbed floats startJournal destination lib f cap d token
      (os ++ ((s.admin.step a).2.map .admin ++
        (Run.outputs (Pipeline.step floats lib d) s.pipeline run).map .pipeline))
      { admin := (s.admin.step a).1
        pipeline := Run.final (Pipeline.step floats lib d) s.pipeline run } := by
  refine ⟨hguarded.trans h.guarded, hregistered.trans h.registered, hharmless, ?_⟩
  rw [supervisedNotes_append, supervisedNotes_append, supervisedNotes_admin, List.nil_append,
    supervisedNotes_pipeline]
  exact flowing_commands h.flowing hcommands

theorem Undisturbed.step (h : Undisturbed floats startJournal destination lib f cap d token os s)
    {a : SupervisedAction} (habort : a ≠ .pipeline .abort)
    (hstop : ∀ authorization, a = .admin (.request (.stop authorization destination)) →
      checkAuth authorization token ≠ .ok ()) :
    Undisturbed floats startJournal destination lib f cap d token
      (os ++ (s.step floats lib d a).2) (s.step floats lib d a).1 := by
  have hidle : Undisturbed floats startJournal destination lib f cap d token (os ++ []) s := by
    rw [List.append_nil]
    exact h
  cases a with
  | pipeline a =>
    have hwork : a ≠ .stop ∧ a ≠ .abort → Undisturbed floats startJournal destination lib f cap d
        token (os ++ (s.pipeline.step floats lib d a).2.map .pipeline)
        { s with pipeline := (s.pipeline.step floats lib d a).1 } := by
      intro ha
      refine ⟨h.guarded, h.registered, h.harmless, ?_⟩
      rw [supervisedNotes_append, supervisedNotes_pipeline]
      exact h.flowing.step a fun _ => ha
    cases a with
    | start | stop => exact hidle
    | abort => exact absurd rfl habort
    | pull | progress | recv | tick =>
      exact hwork ⟨fun he => (by cases he), fun he => (by cases he)⟩
  | admin a =>
    cases a with
    | set => exact hidle
    | request r =>
      apply h.admin _ rfl rfl
      · intro handler hmem
        rcases List.mem_append.1 hmem with hmem | hmem
        · exact h.harmless handler hmem
        · cases List.mem_singleton.1 hmem
          refine ⟨fun authorization he => ?_, fun _ he => (by cases he)⟩
          cases he
          exact hstop authorization rfl
      · exact fun b hb => absurd hb List.not_mem_nil
    | drop k =>
      apply h.admin _ rfl rfl
      · intro handler hmem
        rcases List.mem_or_eq_of_mem_set hmem with hmem | rfl
        · exact h.harmless handler hmem
        · exact .ended ..
      · exact fun b hb => absurd hb List.not_mem_nil
    | advance k =>
      cases hk : s.admin.handlers[k]? with
      | none =>
        have hnone : s.admin.step (.advance k) = (s.admin, []) := by
          simp only [AdminServer.step, hk]
        apply h.admin <;> rw [hnone]
        · exact h.harmless
        · exact fun b hb => absurd hb List.not_mem_nil
      | some handler =>
        have hhandler := h.harmless handler (List.mem_of_getElem? hk)
        have hmanager := advance_instances s.admin.adminToken s.admin.manager handler
        apply h.admin <;> simp only [AdminServer.step, hk]
        · exact hmanager
        · intro handler' hmem
          rcases List.mem_or_eq_of_mem_set hmem with hmem | rfl
          · exact h.harmless handler' hmem
          · cases hresult : (handler.advance s.admin.adminToken s.admin.manager).2 with
            | inl next =>
              rw [h.guarded] at hresult
              exact hhandler.advance h.registered hresult
            | inr => exact .ended ..
        · rw [commands_answer]
          exact hhandler.commands

/-- As long as no request to stop the instance is accepted, the store is handed what the stream
says, whatever else the admin interface is asked, and by whom. -/
theorem stream_despite_requests (floats : FloatText) (startJournal destination : String)
    (lib : Crates) (f : EventFilter) (cap : Nat) (d : Bool) (token : Option String)
    (h : ∀ a ∈ as, a ≠ .pipeline .abort ∧ ∀ authorization,
      a = .admin (.request (.stop authorization destination)) →
        checkAuth authorization token ≠ .ok ()) :
    let s := Run.final (step floats lib d) (.started startJournal destination f cap token) as
    let os := supervisedNotes
      (Run.outputs (step floats lib d) (.started startJournal destination f cap token) as)
    stored (feedNotes os) <+: Pipeline.due floats startJournal lib f os ∧
      (s.pipeline.Healthy d cap →
        (stored (feedNotes os) ++ (s.pipeline.feed.batch ++ oks s.pipeline.channel ++
            oks ((offers s.pipeline.pending).map Offer.item)).filter fun e => f.matches lib e) =
          Pipeline.due floats startJournal lib f os) := by
  intro s os
  have hg : Run.Along (step floats lib d) (fun _ _ a => a ≠ .pipeline .abort ∧
      ∀ authorization, a = .admin (.request (.stop authorization destination)) →
        checkAuth authorization token ≠ .ok ())
      (.started startJournal destination f cap token) as := .of_labels fun a ha _ _ => h a ha
  have hrun : Undisturbed floats startJournal destination lib f cap d token
      (Run.outputs (step floats lib d) (.started startJournal destination f cap token) as) s := by
    apply hg.invariant (I := fun _ os s =>
      Undisturbed floats startJournal destination lib f cap d token os s)
    · exact ⟨rfl, started_instances .., fun handler hmem => absurd hmem List.not_mem_nil,
        .started floats startJournal destination True lib f cap d⟩
    · exact fun _ os s a h ha => h.step ha.1 ha.2
  obtain ⟨hstored, hsplit⟩ := hrun.flowing.stored_follows
  exact ⟨hstored, fun hs => (hsplit hs).1⟩

/-- Three rows come in while somebody who does not know the token asks to stop the instance. -/
def guessedToken : List SupervisedAction :=
  [.admin (.request (.stop (some "Bearer guess") "default")), .admin (.advance 0)] ++
    (Pipeline.rowsIn.take 11).map .pipeline

theorem guessedToken_refused : ∀ a ∈ guessedToken, a ≠ .pipeline .abort ∧ ∀ authorization,
    a = .admin (.request (.stop authorization "default")) →
      checkAuth authorization (some "secret") ≠ .ok () := by
  intro a ha
  rcases List.mem_append.1 ha with ha | ha
  · refine ⟨fun he => ?_, fun authorization he => ?_⟩
    · subst he
      simp at ha
    · subst he
      simp only [List.mem_cons, SupervisedAction.admin.injEq, AdminAction.request.injEq,
        AdminRequest.stop.injEq, and_true, reduceCtorEq, List.not_mem_nil, or_false] at ha
      subst ha
      decide
  · obtain ⟨b, hb, rfl⟩ := List.mem_map.1 ha
    refine ⟨fun he => ?_, fun authorization he => by cases he⟩
    cases he
    exact (Pipeline.rowsIn_calm 11 _ hb).2 rfl

theorem stream_despite_requests_guessed :
    let s := Run.final (step plainFloats .literal true)
      (.started "mysql-bin.000001" "default" everyTable 2 (some "secret")) guessedToken
    let os := supervisedNotes (Run.outputs (step plainFloats .literal true)
      (.started "mysql-bin.000001" "default" everyTable 2 (some "secret")) guessedToken)
    ((stored (feedNotes os)).length = 2 ∧ s.pipeline.channel.length = 1) ∧
      (stored (feedNotes os) ++ (s.pipeline.feed.batch ++ oks s.pipeline.channel ++
          oks ((offers s.pipeline.pending).map Offer.item)).filter fun e =>
            everyTable.matches .literal e) =
        Pipeline.due plainFloats "mysql-bin.000001" .literal everyTable os := by
  constructor
  · decide +kernel
  · exact (stream_despite_requests plainFloats "mysql-bin.000001" "default" .literal everyTable 2
      true (some "secret") guessedToken_refused).2 (.inl (by decide +kernel))

end Supervised

end Canal
