import Canal.Admin
import Canal.Lib.Run

namespace Canal
set_option autoImplicit true

/-- The answers that a request may get, each with what it says of the instances. `saw i running`: at
some moment this was so of instance `i`; `did i running`: some step made it so. -/
inductive Answers (token : Option String) (instances : List (String × Nat))
    (saw did : Nat → Bool → Prop) : AdminRequest → AdminResponse → Prop
  | page (h : List.Forall₂ saw (instances.map Prod.snd) flags) :
      Answers token instances saw did .index (.page (flags.count true) instances.length)
  | listing (ha : checkAuth authorization token = .ok ())
      (h : List.Forall₂ saw (instances.map Prod.snd) flags) :
      Answers token instances saw did (.list authorization)
        (.instances (List.zipWith AdminHandler.summary (instances.map Prod.fst) flags))
  | listingRefused (ha : checkAuth authorization token = .error code) :
      Answers token instances saw did (.list authorization) (.status code)
  | refused (ha : checkAuth authorization token = .error code) (running : Bool) (name : String) :
      Answers token instances saw did
        (if running then .start authorization name else .stop authorization name) (.status code)
  | notFound (ha : checkAuth authorization token = .ok ())
      (hn : name ∉ instances.map Prod.fst) (running : Bool) :
      Answers token instances saw did
        (if running then .start authorization name else .stop authorization name)
        (.message "not_found" ("Instance '" ++ name ++ "' not found"))
  | done (ha : checkAuth authorization token = .ok ()) (hi : (name, i) ∈ instances)
      (hs : did i running) :
      Answers token instances saw did
        (if running then .start authorization name else .stop authorization name)
        (AdminHandler.commanded running name)

/-- A handler on the way to such an answer. -/
inductive Handling (token : Option String) (instances : List (String × Nat))
    (saw : Nat → Bool → Prop) : AdminRequest → AdminHandler → Prop
  | requested (r : AdminRequest) : Handling token instances saw r (.requested r)
  | counting {seen rest : List (String × Nat)} {flags : List Bool}
      (h : List.Forall₂ saw (seen.map Prod.snd) flags) (hi : instances = seen ++ rest) :
      Handling token instances saw .index (.counting (rest.map Prod.snd) (flags.count true))
  | listing {seen rest : List (String × Nat)} {flags : List Bool}
      (ha : checkAuth authorization token = .ok ())
      (h : List.Forall₂ saw (seen.map Prod.snd) flags) (hi : instances = seen ++ rest) :
      Handling token instances saw (.list authorization) (.listing (rest.map Prod.fst)
        (List.zipWith AdminHandler.summary (seen.map Prod.fst) flags))
  | commanding (ha : checkAuth authorization token = .ok ()) (hi : (name, i) ∈ instances)
      (running : Bool) :
      Handling token instances saw
        (if running then .start authorization name else .stop authorization name)
        (.commanding running i name)
  | ended (r : AdminRequest) : Handling token instances saw r .ended

variable {token : Option String} {m : InstanceManager} {saw saw' did : Nat → Bool → Prop}

theorem Handling.mono (h : Handling token instances saw r handler)
    (hsaw : ∀ i running, saw i running → saw' i running) :
    Handling token instances saw' r handler := by
  cases h with
  | requested => exact .requested r
  | counting h hi => exact .counting (h.imp hsaw) hi
  | listing ha h hi => exact .listing ha (h.imp hsaw) hi
  | commanding ha hi running => exact .commanding ha hi running
  | ended => exact .ended r

theorem commandInstance_handling (running : Bool) (authorization : Option String)
    (name : String) :
    let r : AdminRequest :=
      if running then .start authorization name else .stop authorization name
    (AdminHandler.commandInstance running token m authorization name).elim
      (Handling token m.instances saw r) (Answers token m.instances saw did r) := by
  unfold AdminHandler.commandInstance
  cases ha : checkAuth authorization token with
  | error code => exact .refused ha running name
  | ok =>
    cases hg : m.get name with
    | some i => exact .commanding ha (mem_of_lookup hg) running
    | none => exact .notFound ha (not_mem_of_lookup hg) running

theorem Handling.advance (h : Handling token m.instances saw r handler)
    (hnow : ∀ i, saw i (m.isRunning i))
    (hset : ∀ i running, handler.effect = some (i, running) → did i running) :
    (handler.advance token m).2.elim (Handling token m.instances saw r)
      (Answers token m.instances saw did r) := by
  have hnone : List.Forall₂ saw (([] : List (String × Nat)).map Prod.snd) [] := .nil
  cases h with
  | requested r =>
    cases r with
    | index => exact .counting hnone rfl
    | list authorization =>
      simp only [AdminHandler.advance, AdminHandler.listInstances]
      cases ha : checkAuth authorization token with
      | error code => exact .listingRefused ha
      | ok => exact .listing ha hnone rfl
    | start authorization name => exact commandInstance_handling true authorization name
    | stop authorization name => exact commandInstance_handling false authorization name
  | @counting seen rest flags h hi =>
    cases rest with
    | nil =>
      rw [List.append_nil] at hi
      have hlen : m.list.length = m.instances.length := List.length_map ..
      simp only [List.map_nil, AdminHandler.advance, hlen]
      exact .page (hi ▸ h)
    | cons e rest =>
      have hcount : (flags ++ [m.isRunning e.2]).count true =
          if m.isRunning e.2 then flags.count true + 1 else flags.count true := by
        rw [List.count_append, List.count_singleton]
        cases m.isRunning e.2 <;> rfl
      have hseen : List.Forall₂ saw ((seen ++ [e]).map Prod.snd)
          (flags ++ [m.isRunning e.2]) := by
        rw [List.map_append]
        exact List.rel_append h (.cons (hnow e.2) .nil)
      have hnext : Handling token m.instances saw .index _ :=
        .counting hseen (hi.trans (List.append_cons seen e rest))
      rw [hcount] at hnext
      exact hnext
  | @listing authorization seen rest flags ha h hi =>
    cases rest with
    | nil =>
      rw [List.append_nil] at hi
      subst hi
      exact .listing ha h
    | cons e rest =>
      have hget : m.get e.1 = some e.2 :=
        lookup_of_mem m.distinct (hi ▸ List.mem_append_right _ (List.mem_cons_self ..))
      have hseen : List.Forall₂ saw ((seen ++ [e]).map Prod.snd)
          (flags ++ [m.isRunning e.2]) := by
        rw [List.map_append]
        exact List.rel_append h (.cons (hnow e.2) .nil)
      have hnext := Handling.listing ha hseen (hi.trans (List.append_cons seen e rest))
      have hlen : (seen.map Prod.fst).length = flags.length := by
        rw [List.length_map, ← List.length_map Prod.snd, h.length_eq]
      rw [List.map_append, List.zipWith_append hlen] at hnext
      simp only [List.map_cons, AdminHandler.advance, hget]
      exact hnext
  | @commanding authorization name i ha hi running => exact .done ha hi (hset i running rfl)
  | ended r => exact .ended r

namespace AdminServer

/-- The answers to request `k`. -/
def answersTo (k : Nat) (os : List AdminNote) : List AdminResponse :=
  os.filterMap fun
    | .answered k' response => if k' = k then some response else none
    | _ => none

/-- At some moment of the run after `pre`, the flag of instance `i` was `running`. -/
def SawAfter (token : Option String) (m : InstanceManager) (pre as : List AdminAction) (i : Nat)
    (running : Bool) : Prop :=
  ∃ mid, pre <+: mid ∧ mid <+: as ∧
    (Run.final step (new token m) mid).manager.isRunning i = running

/-- A step of the run after `pre` started or stopped instance `i`. -/
def SetAfter (token : Option String) (m : InstanceManager) (pre as : List AdminAction) (i : Nat)
    (running : Bool) : Prop :=
  ∃ mid a, pre <+: mid ∧ mid ++ [a] <+: as ∧
    .set i running ∈ (step (Run.final step (new token m) mid) a).2

theorem SawAfter.mono (h : SawAfter token m pre as i running) (hp : as <+: as') :
    SawAfter token m pre as' i running := by
  obtain ⟨mid, hpre, hmid, hsaw⟩ := h
  exact ⟨mid, hpre, hmid.trans hp, hsaw⟩

/-- The handlers of a run against their requests. -/
structure Serving (token : Option String) (m : InstanceManager) (as : List AdminAction)
    (os : List AdminNote) (s : AdminServer) : Prop where
  reached : s = Run.final step (new token m) as
  guarded : s.adminToken = token
  registered : s.manager.instances = m.instances
  handling : ∀ k h, s.handlers[k]? = some h → ∃ pre r, pre <+: as ∧
    .requested k r ∈ Run.outputs step (new token m) pre ∧
    Handling token m.instances (SawAfter token m pre as) r h
  once : ∀ k, answersTo k os = [] ∨ s.handlers[k]? = some .ended ∧ (answersTo k os).length = 1

variable {as : List AdminAction} {os : List AdminNote} {s : AdminServer}

theorem Serving.advance (h : Serving token m as os s) (hk : s.handlers[k]? = some handler) :
    ∃ pre r, pre <+: as ∧ .requested k r ∈ Run.outputs step (new token m) pre ∧
      (handler.advance s.adminToken s.manager).2.elim
        (Handling token m.instances (SawAfter token m pre (as ++ [.advance k])) r)
        (Answers token m.instances (SawAfter token m pre (as ++ [.advance k]))
          (SetAfter token m pre (as ++ [.advance k])) r) := by
  obtain ⟨pre, r, hpre, hasked, hhandling⟩ := h.handling k handler hk
  refine ⟨pre, r, hpre, hasked, ?_⟩
  have hlater : Handling token s.manager.instances
      (SawAfter token m pre (as ++ [.advance k])) r handler := by
    rw [h.registered]
    exact hhandling.mono fun _ _ hsaw => hsaw.mono (List.prefix_append ..)
  rw [h.guarded, ← h.registered]
  apply hlater.advance
  · intro i
    exact ⟨as, hpre, List.prefix_append .., by rw [← h.reached]⟩
  · intro i running he
    refine ⟨as, .advance k, hpre, List.prefix_refl _, ?_⟩
    rw [← h.reached]
    simp only [step, hk, he]
    exact List.mem_append_left _ (List.mem_singleton_self _)

theorem Serving.answer (h : Serving token m as os s)
    (ha : .answered k response ∈ (s.step a).2) :
    ∃ pre r, pre <+: as ∧ .requested k r ∈ Run.outputs step (new token m) pre ∧
      Answers token m.instances (SawAfter token m pre (as ++ [a]))
        (SetAfter token m pre (as ++ [a])) r response := by
  cases a with
  | request r =>
    cases List.mem_singleton.1 ha
  | drop k' => cases ha
  | set i running =>
    simp only [step] at ha
    split at ha
    · cases List.mem_singleton.1 ha
    · cases ha
  | advance k' =>
    simp only [step] at ha
    split at ha
    · cases ha
    · rename_i handler hk
      obtain ⟨pre, r, hpre, hasked, hanswer⟩ := h.advance hk
      generalize (handler.advance s.adminToken s.manager).2 = result at ha hanswer
      rcases List.mem_append.1 ha with ha | ha
      · cases heff : handler.effect with
        | none =>
          rw [heff] at ha
          cases ha
        | some e =>
          rw [heff] at ha
          cases List.mem_singleton.1 ha
      · cases result with
        | inl next => cases ha
        | inr response' =>
          cases List.mem_singleton.1 ha
          exact ⟨pre, r, hpre, hasked, hanswer⟩

@[simp] theorem answersTo_append (k : Nat) (os os' : List AdminNote) :
    answersTo k (os ++ os') = answersTo k os ++ answersTo k os' := List.filterMap_append ..

theorem Serving.keep (h : Serving token m as os s) (a : AdminAction)
    (hguarded : (s.step a).1.adminToken = s.adminToken)
    (hregistered : (s.step a).1.manager.instances = s.manager.instances)
    (hhandlers : ∀ (k : Nat) (handler : AdminHandler), (s.step a).1.handlers[k]? = some handler →
      s.handlers[k]? = some handler ∨ handler = .ended ∧ k < s.handlers.length)
    (hended : ∀ k : Nat, s.handlers[k]? = some AdminHandler.ended →
      (s.step a).1.handlers[k]? = some AdminHandler.ended)
    (hquiet : ∀ k, answersTo k (s.step a).2 = []) :
    Serving token m (as ++ [a]) (os ++ (s.step a).2) (s.step a).1 := by
  refine ⟨?_, hguarded.trans h.guarded, hregistered.trans h.registered, ?_, ?_⟩
  · rw [Run.final_concat, ← h.reached]
  · intro k handler hk
    rcases hhandlers k handler hk with hk | ⟨rfl, hlt⟩
    · obtain ⟨pre, r, hpre, hasked, hhandling⟩ := h.handling k handler hk
      exact ⟨pre, r, hpre.trans (List.prefix_append ..), hasked,
        hhandling.mono fun _ _ hsaw => hsaw.mono (List.prefix_append ..)⟩
    · obtain ⟨pre, r, hpre, hasked, -⟩ :=
        h.handling k s.handlers[k] (List.getElem?_eq_getElem hlt)
      exact ⟨pre, r, hpre.trans (List.prefix_append ..), hasked, .ended r⟩
  · intro k
    rw [answersTo_append, hquiet k, List.append_nil]
    exact (h.once k).imp_right fun hone => ⟨hended k hone.1, hone.2⟩

theorem answersTo_effects (k : Nat) (effect : Option (Nat × Bool)) :
    answersTo k (effect.map fun e => AdminNote.set e.1 e.2).toList = [] := by
  cases effect <;> rfl

theorem Serving.move (h : Serving token m as os s) (hk' : s.handlers[k']? = some handler)
    (hstep : s.step a =
      ({ s with manager := manager', handlers := s.handlers.set k' next }, notes))
    (hmanager : manager'.instances = s.manager.instances)
    (hnext : ∃ pre r, pre <+: as ++ [a] ∧ .requested k' r ∈ Run.outputs step (new token m) pre ∧
      Handling token m.instances (SawAfter token m pre (as ++ [a])) r next)
    (honce : answersTo k' (os ++ notes) = [] ∨
      next = .ended ∧ (answersTo k' (os ++ notes)).length = 1)
    (hother : ∀ k, k ≠ k' → answersTo k notes = []) :
    Serving token m (as ++ [a]) (os ++ (s.step a).2) (s.step a).1 := by
  have hlt := (List.getElem?_eq_some_iff.1 hk').1
  have hreached : (s.step a).1 = Run.final AdminServer.step (new token m) (as ++ [a]) := by
    rw [Run.final_concat, ← h.reached]
  rw [hstep] at hreached ⊢
  refine ⟨hreached, h.guarded, hmanager.trans h.registered, ?_, ?_⟩
  · intro k handler' (hk : (s.handlers.set k' next)[k]? = some handler')
    by_cases hne : k = k'
    · rw [hne, List.getElem?_set_self hlt] at hk
      cases hk
      exact hne ▸ hnext
    · rw [List.getElem?_set_ne (Ne.symm hne)] at hk
      obtain ⟨pre, r, hpre, hasked, hhandling⟩ := h.handling k handler' hk
      exact ⟨pre, r, hpre.trans (List.prefix_append ..), hasked,
        hhandling.mono fun _ _ hsaw => hsaw.mono (List.prefix_append ..)⟩
  · intro k
    by_cases hne : k = k'
    · rw [hne]
      refine honce.imp_right fun hone => ⟨?_, hone.2⟩
      simp only [List.getElem?_set_self hlt, hone.1]
    · rw [answersTo_append, hother k hne, List.append_nil]
      refine (h.once k).imp_right fun hone => ⟨?_, hone.2⟩
      simp only [List.getElem?_set_ne (Ne.symm hne)]
      exact hone.1

theorem ended_or_same {handlers : List AdminHandler} {k k' : Nat} {handler : AdminHandler}
    (hk : (handlers.set k' .ended)[k]? = some handler) :
    handlers[k]? = some handler ∨ handler = .ended ∧ k < handlers.length := by
  by_cases hne : k' = k
  · have hlt := (List.getElem?_eq_some_iff.1 hk).1
    rw [List.length_set] at hlt
    rw [hne, List.getElem?_set_self hlt] at hk
    exact .inr ⟨(Option.some.inj hk).symm, hlt⟩
  · rw [List.getElem?_set_ne hne] at hk
    exact .inl hk

theorem stays_ended {handlers : List AdminHandler} {k k' : Nat}
    (hk : handlers[k]? = some AdminHandler.ended) :
    (handlers.set k' .ended)[k]? = some AdminHandler.ended := by
  by_cases hne : k' = k
  · rw [hne, List.getElem?_set_self (List.getElem?_eq_some_iff.1 hk).1]
  · rwa [List.getElem?_set_ne hne]

theorem Serving.request (h : Serving token m as os s) (r : AdminRequest) :
    Serving token m (as ++ [.request r]) (os ++ (s.step (.request r)).2)
      (s.step (.request r)).1 := by
  refine ⟨?_, h.guarded, h.registered, ?_, ?_⟩
  · rw [Run.final_concat, ← h.reached]
  · intro k handler hk
    by_cases hlt : k < s.handlers.length
    · simp only [AdminServer.step, List.getElem?_append_left hlt] at hk
      obtain ⟨pre, r', hpre, hasked, hhandling⟩ := h.handling k handler hk
      exact ⟨pre, r', hpre.trans (List.prefix_append ..), hasked,
        hhandling.mono fun _ _ hsaw => hsaw.mono (List.prefix_append ..)⟩
    · have hle : k < (s.handlers ++ [AdminHandler.requested r]).length :=
        (List.getElem?_eq_some_iff.1 hk).1
      rw [List.length_append, List.length_singleton] at hle
      obtain rfl : k = s.handlers.length := by omega
      simp only [AdminServer.step, List.getElem?_concat_length] at hk
      cases hk
      refine ⟨as ++ [.request r], r, List.prefix_refl _, ?_, .requested r⟩
      rw [Run.outputs_concat, ← h.reached]
      exact List.mem_append_right _ (List.mem_singleton_self _)
  · intro k
    rw [answersTo_append, show answersTo k (s.step (.request r)).2 = [] from rfl,
      List.append_nil]
    refine (h.once k).imp_right fun hone => ⟨?_, hone.2⟩
    simp only [AdminServer.step]
    rw [List.getElem?_append_left (List.getElem?_eq_some_iff.1 hone.1).1]
    exact hone.1

theorem Serving.set (h : Serving token m as os s) (i : Nat) (running : Bool) :
    Serving token m (as ++ [.set i running]) (os ++ (s.step (.set i running)).2)
      (s.step (.set i running)).1 := by
  apply h.keep
  · simp only [AdminServer.step]
    split <;> rfl
  · simp only [AdminServer.step]
    split <;> rfl
  · intro k handler hk
    simp only [AdminServer.step] at hk
    split at hk <;> exact .inl hk
  · intro k hk
    simp only [AdminServer.step]
    split <;> exact hk
  · intro k
    simp only [AdminServer.step]
    split <;> rfl

theorem Serving.proceed (h : Serving token m as os s) (hk : s.handlers[k]? = some handler) :
    Serving token m (as ++ [.advance k]) (os ++ (s.step (.advance k)).2)
      (s.step (.advance k)).1 := by
  obtain ⟨pre, r, hpre, hasked, hanswer⟩ := h.advance hk
  have hmanager := advance_instances s.adminToken s.manager handler
  have hpre' : pre <+: as ++ [.advance k] := hpre.trans (List.prefix_append ..)
  cases hresult : (handler.advance s.adminToken s.manager).2 with
  | inl next =>
    rw [hresult] at hanswer
    have hstep : s.step (.advance k) =
        ({ s with
          manager := (handler.advance s.adminToken s.manager).1
          handlers := s.handlers.set k next },
          (handler.effect.map fun e => AdminNote.set e.1 e.2).toList) := by
      simp only [AdminServer.step, hk, hresult, Sum.elim_inl, id, List.append_nil]
    apply h.move hk hstep hmanager ⟨pre, r, hpre', hasked, hanswer⟩
    · rw [answersTo_append, answersTo_effects, List.append_nil]
      refine (h.once k).imp_right fun hone => ⟨?_, hone.2⟩
      rw [hk] at hone
      cases hone.1
      exact (Sum.inl.inj hresult).symm
    · exact fun k' _ => answersTo_effects k' handler.effect
  | inr response =>
    have hstep : s.step (.advance k) =
        ({ s with
          manager := (handler.advance s.adminToken s.manager).1
          handlers := s.handlers.set k .ended },
          (handler.effect.map fun e => AdminNote.set e.1 e.2).toList ++
            [.answered k response]) := by
      simp only [AdminServer.step, hk, hresult, Sum.elim_inr]
    apply h.move hk hstep hmanager ⟨pre, r, hpre', hasked, .ended r⟩
    · have hnone : answersTo k os = [] := (h.once k).resolve_right fun hone => by
        rw [hk] at hone
        cases hone.1
        cases hresult
      right
      rw [answersTo_append, answersTo_append, answersTo_effects, hnone]
      exact ⟨rfl, by simp [answersTo]⟩
    · intro k' hne
      rw [answersTo_append, answersTo_effects]
      simp [answersTo, hne.symm]

theorem Serving.step (h : Serving token m as os s) (a : AdminAction) :
    Serving token m (as ++ [a]) (os ++ (s.step a).2) (s.step a).1 := by
  cases a with
  | request r => exact h.request r
  | drop k =>
    apply h.keep _ rfl rfl
    · intro k' handler hk
      exact ended_or_same hk
    · intro k' hk
      exact stays_ended hk
    · exact fun _ => rfl
  | set i running => exact h.set i running
  | advance k =>
    cases hk : s.handlers[k]? with
    | none =>
      have hidle : s.step (.advance k) = (s, []) := by simp only [AdminServer.step, hk]
      apply h.keep <;> rw [hidle]
      · exact fun k handler hk => .inl hk
      · exact fun k hk => hk
      · exact fun _ => rfl
    | some handler => exact h.proceed hk

/-- A listing is no snapshot: never did both instances run. -/
example :
    let m := (InstanceManager.new.register "a" true 0).register "b" false 1
    answersTo 0 (Run.outputs step (new none m)
      [.request (.list none), .advance 0, .advance 0, .set 0 false, .set 1 true, .advance 0,
        .advance 0]) =
      [.instances [AdminHandler.summary "a" true, AdminHandler.summary "b" true]] := by rfl

end AdminServer

end Canal
