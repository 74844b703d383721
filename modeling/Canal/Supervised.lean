import Canal.Admin
import Canal.StoredStream

namespace Canal
set_option autoImplicit true
variable {token : Option String} {m : InstanceManager} {saw saw' did : Nat → Bool → Prop}

/-- The admin interface beside the pipeline, whose instance it knows as number 0. -/
structure Supervised where
  admin : AdminServer
  pipeline : Pipeline

inductive SupervisedAction
  | admin (a : AdminAction)
  | pipeline (a : PipelineAction)

inductive SupervisedNote
  | admin (note : AdminNote)
  | pipeline (note : PipelineNote)

def SupervisedNote.asPipeline : SupervisedNote → Option PipelineNote
  | pipeline note => some note
  | admin _ => none

/-- What the pipeline showed. -/
def supervisedNotes (os : List SupervisedNote) : List PipelineNote :=
  os.filterMap SupervisedNote.asPipeline

/-- The calls of `start` and `stop` on the instance of the pipeline. -/
def commands (notes : List AdminNote) : List PipelineAction :=
  notes.filterMap fun
    | .set 0 true => some .start
    | .set 0 false => some .stop
    | _ => none

namespace Supervised

/-- `run_server` does not call `with_auth`, which leaves `adminToken` at `none`. -/
def started (startJournal destination : String) (filter : EventFilter) (storeBufferSize : Nat)
    (adminToken : Option String) : Supervised :=
  { admin := .new adminToken (InstanceManager.new.register destination false 0).startAll
    pipeline := .started startJournal destination filter storeBufferSize }

/-- Only the handlers start and stop the instance. -/
def step (floats : FloatText) (lib : Crates) (d : Bool) (s : Supervised) :
    SupervisedAction → Supervised × List SupervisedNote
  | .admin (.set ..) | .pipeline .start | .pipeline .stop => (s, [])
  | .admin a =>
    let r := s.admin.step a
    let run := commands r.2
    ({ admin := r.1, pipeline := Run.final (Pipeline.step floats lib d) s.pipeline run },
      r.2.map .admin ++ (Run.outputs (Pipeline.step floats lib d) s.pipeline run).map .pipeline)
  | .pipeline a =>
    let r := s.pipeline.step floats lib d a
    ({ s with pipeline := r.1 }, r.2.map .pipeline)

end Supervised

@[simp] theorem supervisedNotes_append (os os' : List SupervisedNote) :
    supervisedNotes (os ++ os') = supervisedNotes os ++ supervisedNotes os' :=
  List.filterMap_append ..

theorem supervisedNotes_admin (notes : List AdminNote) :
    supervisedNotes (notes.map .admin) = [] := by
  simp [supervisedNotes, List.filterMap_map, Function.comp_def, SupervisedNote.asPipeline]

theorem supervisedNotes_pipeline (notes : List PipelineNote) :
    supervisedNotes (notes.map .pipeline) = notes := by
  simp [supervisedNotes, List.filterMap_map, Function.comp_def, SupervisedNote.asPipeline]

theorem commands_answer (notes : List AdminNote) (result : AdminHandler ⊕ AdminResponse)
    (k : Nat) :
    commands (notes ++ result.elim (fun _ => []) fun response => [.answered k response]) =
      commands notes := by
  cases result with
  | inl next => rw [Sum.elim_inl, List.append_nil]
  | inr response => exact (List.filterMap_append ..).trans (List.append_nil _)

theorem flush_running_flag (lib : Crates) (d : Bool) (s : FeedLoop) :
    (s.flush lib d).1.inst.running = s.inst.running := by
  rw [FeedLoop.flush_inst, (FeedLoop.feed_inst lib d s.inst s.batch).1]

theorem feed_running_flag (lib : Crates) (d : Bool) (s : FeedLoop) (a : FeedAction)
    (ha : a ≠ .start ∧ a ≠ .stop) : (s.step lib d a).1.inst.running = s.inst.running := by
  cases a with
  | start => exact absurd rfl ha.1
  | stop => exact absurd rfl ha.2
  | tick =>
    simp only [FeedLoop.step]
    split
    · rfl
    · exact flush_running_flag lib d s
  | recv result =>
    simp only [FeedLoop.step]
    split
    · rfl
    · split
      · split
        · exact flush_running_flag lib d _
        · rfl
      · rfl
      · split
        · rfl
        · exact flush_running_flag lib d s

theorem pipeline_running_flag (floats : FloatText) (lib : Crates) (d : Bool) (s : Pipeline)
    (a : PipelineAction) (ha : a ≠ .start ∧ a ≠ .stop) :
    (s.step floats lib d a).1.feed.inst.running = s.feed.inst.running := by
  have hwork : ∀ (t : Pipeline) (b : FeedAction), t.feed = s.feed → b ≠ .start ∧ b ≠ .stop →
      (t.work lib d b).1.feed.inst.running = s.feed.inst.running := by
    intro t b ht hb
    exact (feed_running_flag lib d t.feed b hb).trans (by rw [ht])
  cases a with
  | start => exact absurd rfl ha.1
  | stop => exact absurd rfl ha.2
  | pull =>
    simp only [Pipeline.step]
    split <;> rfl
  | progress =>
    simp only [Pipeline.step]
    split
    · rfl
    · rfl
    · split
      · rfl
      · split <;> rfl
  | recv =>
    simp only [Pipeline.step]
    split
    · rfl
    · split
      · exact hwork _ _ rfl ⟨fun he => (by cases he), fun he => (by cases he)⟩
      · rfl
  | tick => exact hwork s _ rfl ⟨fun he => (by cases he), fun he => (by cases he)⟩
  | abort => rfl

namespace Supervised

theorem started_instances (startJournal destination : String) (f : EventFilter) (cap : Nat)
    (token : Option String) :
    (started startJournal destination f cap token).admin.manager.instances =
      [(destination, 0)] := by
  simp [started, AdminServer.new, InstanceManager.startAll, InstanceManager.register,
    InstanceManager.insert, InstanceManager.new, InstanceManager.setRunning]

/-- The instance of the pipeline is number 0 of the table, and the two keep one flag. -/
structure Shared (destination : String) (s : Supervised) : Prop where
  registered : s.admin.manager.instances = [(destination, 0)]
  flag : s.admin.manager.isRunning 0 = s.pipeline.feed.inst.running

theorem Shared.set (h : Shared destination s) (floats : FloatText) (lib : Crates) (d : Bool)
    (i : Nat) (running : Bool) (handlers : List AdminHandler) :
    Shared destination
      { admin := { s.admin with manager := s.admin.manager.setRunning i running, handlers }
        pipeline := Run.final (Pipeline.step floats lib d) s.pipeline
          (commands [.set i running]) } := by
  have hknown : 0 < s.admin.manager.running.length :=
    s.admin.manager.known (destination, 0) (by rw [h.registered]; exact List.mem_singleton_self _)
  refine ⟨h.registered, ?_⟩
  cases i with
  | zero =>
    rw [InstanceManager.isRunning_setRunning _ _ _ _ hknown, if_pos rfl]
    cases running <;> rfl
  | succ i =>
    have hsame : (s.admin.manager.setRunning (i + 1) running).isRunning 0 =
        s.admin.manager.isRunning 0 := by
      unfold InstanceManager.isRunning InstanceManager.setRunning
      rw [List.getElem?_set_ne (Nat.succ_ne_zero i)]
    exact hsame.trans h.flag

theorem Shared.step (h : Shared destination s) (floats : FloatText) (lib : Crates) (d : Bool)
    (a : SupervisedAction) : Shared destination (s.step floats lib d a).1 := by
  cases a with
  | pipeline a =>
    have hwork : a ≠ .start ∧ a ≠ .stop → Shared destination
        { s with pipeline := (s.pipeline.step floats lib d a).1 } := fun ha =>
      ⟨h.registered, h.flag.trans (pipeline_running_flag floats lib d s.pipeline a ha).symm⟩
    cases a with
    | start | stop => exact h
    | pull | progress | recv | tick | abort =>
      exact hwork ⟨fun he => (by cases he), fun he => (by cases he)⟩
  | admin a =>
    cases a with
    | set => exact h
    | request | drop => exact ⟨h.registered, h.flag⟩
    | advance k =>
      cases hk : s.admin.handlers[k]? with
      | none =>
        simp only [Supervised.step, AdminServer.step, hk]
        exact h
      | some handler =>
        simp only [Supervised.step, AdminServer.step, hk]
        rw [advance_manager, commands_answer]
        cases handler.effect with
        | none => exact ⟨h.registered, h.flag⟩
        | some e => exact h.set floats lib d e.1 e.2 _

/-- What the admin interface says of the instance is what the feed loop goes by. -/
theorem one_flag (floats : FloatText) (startJournal destination : String) (lib : Crates)
    (f : EventFilter) (cap : Nat) (d : Bool) (token : Option String)
    (as : List SupervisedAction) :
    let s := Run.final (step floats lib d) (.started startJournal destination f cap token) as
    s.admin.manager.isRunning 0 = s.pipeline.feed.inst.running := by
  have hrun : Shared destination
      (Run.final (step floats lib d) (.started startJournal destination f cap token) as) := by
    apply Run.final_invariant (I := Shared destination)
    · exact fun s a h => h.step floats lib d a
    · exact ⟨started_instances .., by rfl⟩
  exact hrun.flag

end Supervised

end Canal
