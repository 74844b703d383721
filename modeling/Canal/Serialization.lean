import Canal.Answers
import Canal.Feed
import Canal.Ingest

namespace Canal
set_option autoImplicit true

theorem mapM_isOk_iff {l : List α} {f : α → Except ε β} :
    (∃ l', l.mapM f = .ok l') ↔ ∀ a ∈ l, ∃ b, f a = .ok b := by
  induction l with
  | nil => exact ⟨fun _ _ h => (List.not_mem_nil h).elim, fun _ => ⟨[], rfl⟩⟩
  | cons a l ih =>
    rw [List.forall_mem_cons, ← ih, List.mapM_cons]
    cases ha : f a with
    | error e => simp [bind, Except.bind]
    | ok b =>
      cases hl : l.mapM f with
      | error e => simp [bind, Except.bind]
      | ok bs => simp [bind, Except.bind, pure, Except.pure]

theorem mapM_eq_error {l : List α} {f : α → Except ε β} {p : α → Bool}
    (hp : ∀ a, p a = false ↔ ∃ b, f a = .ok b) (h : l.find? p = some a) :
    ∃ e, f a = .error e ∧ l.mapM f = .error e := by
  induction l with
  | nil => cases h
  | cons x l ih =>
    rw [List.mapM_cons]
    cases hx : p x with
    | true =>
      rw [List.find?_cons_of_pos hx, Option.some.injEq] at h
      subst h
      cases hf : f x with
      | ok b =>
        rw [(hp x).2 ⟨b, hf⟩] at hx
        cases hx
      | error e => exact ⟨e, rfl, rfl⟩
    | false =>
      rw [List.find?_cons_of_neg (by rw [hx]; decide)] at h
      obtain ⟨e, hfe, hl⟩ := ih h
      obtain ⟨b, hb⟩ := (hp x).1 hx
      exact ⟨e, hfe, by rw [hb, hl]; rfl⟩

/-- The event types that the wire enumeration has a number for. -/
def EventType.Known (t : EventType) : Prop := ∀ v, t ≠ .unknown v

instance (t : EventType) : Decidable t.Known :=
  match t with
  | .unknown v => .isFalse fun h => h v rfl
  | .insert | .update | .delete | .ddl | .query | .rotate | .xid | .heartbeat =>
    .isTrue fun _ h => EventType.noConfusion h

theorem canalEventToEntry_isOk_iff (lib : Crates) (e : CanalEvent) :
    (∃ entry, canalEventToEntry lib e = .ok entry) ↔ e.entryType.Known := by
  rw [canalEventToEntry, EventType.Known]
  cases e.entryType with
  | unknown v => simp [eventTypeToProto]
  | _ => simp [eventTypeToProto]

theorem canalEventToEntry_error (h : canalEventToEntry lib e = .error err) :
    ∃ message, err = .protocol message := by
  rw [canalEventToEntry] at h
  cases ht : e.entryType with
  | unknown v =>
    rw [ht] at h
    cases h
    exact ⟨_, rfl⟩
  | _ =>
    rw [ht] at h
    cases h

theorem batchAnswer_isOk_iff (lib : Crates) (session : Option ClientSession) (events : Events) :
    (∃ m, batchAnswer lib session events = .ok m) ↔ (events.isEmpty = false →
      ∀ e ∈ events.events, sessionPasses lib session e.fullName = true → e.entryType.Known) := by
  rw [batchAnswer]
  cases he : events.isEmpty with
  | true => simp
  | false =>
    rw [if_neg Bool.false_ne_true]
    have hmap : ∀ {x : Except CanalError (List Proto.Entry)}
        {f : List Proto.Entry → Proto.Messages},
        (∃ m, x.map f = .ok m) ↔ ∃ l, x = .ok l := by
      intro x f
      cases x with
      | error e => simp [Except.map]
      | ok l => simp [Except.map]
    rw [hmap, mapM_isOk_iff]
    simp only [List.mem_filter, canalEventToEntry_isOk_iff, and_imp, forall_const]

theorem batchAnswer_error (lib : Crates) (session : Option ClientSession) {events : Events}
    (h : (events.events.filter fun e => sessionPasses lib session e.fullName).find?
      (fun e => !decide e.entryType.Known) = some e) :
    ∃ message, canalEventToEntry lib e = .error (.protocol message) ∧
      batchAnswer lib session events = .error (.protocol message) := by
  have hp : ∀ e : CanalEvent, (!decide e.entryType.Known) = false ↔
      ∃ entry, canalEventToEntry lib e = .ok entry := by
    intro e
    rw [canalEventToEntry_isOk_iff, Bool.not_eq_false', decide_eq_true_eq]
  obtain ⟨err, he, hmap⟩ := mapM_eq_error hp h
  obtain ⟨message, rfl⟩ := canalEventToEntry_error he
  have hne : events.isEmpty = false := by
    cases hev : events.events with
    | nil =>
      rw [hev] at h
      cases h
    | cons e l => rw [Events.isEmpty, hev, List.isEmpty_cons]
  refine ⟨message, he, ?_⟩
  rw [batchAnswer, if_neg (by rw [hne]; decide), hmap]
  rfl

/-- A call of `CanalInstance::feed` on the running instance, or a step of one of the
connections. -/
inductive HostStep
  | feed (events : List CanalEvent)
  | connection (a : Action)

/-- What a step of the host is to the server: of a list that is fed, what the filter of the sink
lets through is put. -/
def HostStep.actions (lib : Crates) (filter : EventFilter) : HostStep → List Action
  | .feed events =>
    let filtered := events.filter fun e => filter.matches lib e
    if filtered.isEmpty then [] else [.putBatch filtered]
  | .connection a => if a.actor.isSome then [a] else []

/-- The server after a run of the host. -/
def Server.hosted (lib : Crates) (filter : EventFilter) (s : Server) (steps : List HostStep) :
    Server :=
  Run.final (Server.step lib) s (steps.flatMap (HostStep.actions lib filter))

theorem CanalInstance.feed_store (lib : Crates) (s : Server) (inst : CanalInstance)
    (hr : inst.running = true) (hs : inst.store = s.store) (events : List CanalEvent) :
    (inst.feed lib s.debugAssertions events).1.store =
      (s.hosted lib inst.filter [.feed events]).store := by
  rw [feed, if_neg (by rw [hr]; decide), DefaultEventSink.sink, Server.hosted,
    List.flatMap_singleton, HostStep.actions, hs]
  simp only
  split
  · rfl
  · rfl

/-- The sink lets the event through: it was fed, and its name passes the filter. -/
def Admitted (lib : Crates) (filter : EventFilter) (steps : List HostStep) (e : CanalEvent) :
    Prop :=
  filter.matches lib e = true ∧ ∃ events, .feed events ∈ steps ∧ e ∈ events

theorem Server.hosted_admitted (lib : Crates) (filter : EventFilter) (capacity : Nat)
    (authToken : Option String) (d : Bool) (steps : List HostStep) :
    ((Server.new capacity authToken d).hosted lib filter steps).Carries
      (Admitted lib filter steps) := by
  have hputs : ∀ as : List Action, (∀ events, .putBatch events ∈ as →
      ∀ e ∈ events, Admitted lib filter steps e) →
      (Run.final (step lib) (.new capacity authToken d) as).Carries
        (Admitted lib filter steps) := by
    intro as
    induction as using List.reverseRecOn with
    | nil => exact fun _ => Carries.new ..
    | append_singleton as a ih =>
      intro has
      rw [Run.final_concat]
      apply (ih fun events hm => has events (List.mem_append_left _ hm)).step
      intro e he
      cases a with
      | putBatch events =>
        exact has events (List.mem_append_right _ (List.mem_singleton_self _)) e he
      | _ => cases he
  apply hputs
  intro events hm e he
  obtain ⟨x, hx, ha⟩ := List.mem_flatMap.mp hm
  cases x with
  | feed fed =>
    rw [HostStep.actions] at ha
    split at ha
    · cases ha
    · rw [List.mem_singleton] at ha
      cases ha
      rw [List.mem_filter] at he
      exact ⟨he.2, fed, hx, he.1⟩
  | connection a =>
    rw [HostStep.actions] at ha
    split at ha
    · rename_i hact
      rw [List.mem_singleton] at ha
      subst ha
      cases hact
    · cases ha

namespace Server

variable {s : Server}

theorem answer_sends_iff (lib : Crates) (hp : (s.conns c).phase = .answer cid events) :
    (∃ m, (c, .send (.messages m)) ∈ (s.step lib (.answer c none)).2) ↔
      ∀ e ∈ s.toSend lib cid events, e.entryType.Known := by
  have hbatch : (∃ m, (c, .send (.messages m)) ∈ (s.step lib (.answer c none)).2) ↔
      ∃ m, batchAnswer lib (s.sessions.get cid) events = .ok m := by
    constructor
    · rintro ⟨m, hm⟩
      obtain ⟨tx, cid', events', ha, hp', hb⟩ := batch_of_sent hm
      cases hp.symm.trans hp'
      exact ⟨m, hb⟩
    · rintro ⟨m, hb⟩
      exact ⟨m, sent_of_batch hp hb⟩
  rw [hbatch, batchAnswer_isOk_iff, toSend]
  simp only [List.mem_filter, and_imp]
  constructor
  · intro h e he
    apply h
    · exact List.isEmpty_eq_false_iff.2 (List.ne_nil_of_mem he)
    · exact he
  · exact fun h _ => h

/-- Where the answer cannot be made, nothing goes out and the connection ends with the error. -/
theorem answer_closes (lib : Crates) (hp : (s.conns c).phase = .answer cid events)
    (h : (s.toSend lib cid events).find? (fun e => !decide e.entryType.Known) = some e) :
    ∃ message, canalEventToEntry lib e = .error (.protocol message) ∧
      (s.step lib (.answer c none)).2 = [] ∧
      ((s.step lib (.answer c none)).1.conns c).phase = .closed (.error (.protocol message)) := by
  obtain ⟨message, he, hb⟩ := batchAnswer_error lib (s.sessions.get cid) h
  refine ⟨message, he, ?_⟩
  rw [step_answer_reply lib none hp, hb]
  simp only [settle, setConn, Function.update_self]
  exact ⟨rfl, rfl⟩

end Server

/-- In every run of an instance and the server on its store: the conversion fails on the events of
an unknown type alone, which the sink admits like any other, and the batch of a Get is answered if
and only if none of the events in it that pass the filter of the session is of an unknown type;
else nothing is sent and its connection is closed with the error of the first of them. -/
theorem get_answered_iff (lib : Crates) (capacity : Nat) (authToken : Option String) (d : Bool)
    (filter : EventFilter) (steps : List HostStep)
    (hp : (((Server.new capacity authToken d).hosted lib filter steps).conns c).phase =
      .answer cid events) :
    let s := (Server.new capacity authToken d).hosted lib filter steps
    s.Carries (Admitted lib filter steps) ∧
    (∀ e, (∃ err, canalEventToEntry lib e = .error err) ↔ ¬ e.entryType.Known) ∧
    ((∃ m, (c, .send (.messages m)) ∈ (s.step lib (.answer c none)).2) ↔
      ∀ e ∈ s.toSend lib cid events, e.entryType.Known) ∧
    (∀ e, (s.toSend lib cid events).find? (fun e => !decide e.entryType.Known) = some e →
      ∃ message, canalEventToEntry lib e = .error (.protocol message) ∧
        (s.step lib (.answer c none)).2 = [] ∧
        ((s.step lib (.answer c none)).1.conns c).phase =
          .closed (.error (.protocol message))) := by
  intro s
  refine ⟨Server.hosted_admitted lib filter capacity authToken d steps, ?_,
    Server.answer_sends_iff lib hp, fun e => Server.answer_closes lib hp⟩
  intro e
  rw [← canalEventToEntry_isOk_iff lib]
  cases canalEventToEntry lib e with
  | ok entry => simp
  | error err => simp

/-- The filter of an instance that takes every table. -/
def EventFilter.everything : EventFilter := { includeRe := ".*\\..*", exclude := none }

/-- Fed events, a login, and a Get up to the return of its call. -/
def readFed (events : List CanalEvent) (filter : String) : List HostStep :=
  [.feed events, .connection (.receive 0 (.login "app" filter 0) none),
    .connection (.receive 0 (.fetch 10) none), .connection (.arm 0), .connection (.check 0)]

/-- An event of a type without a number. -/
def unknownEvent (position : UInt64) : CanalEvent :=
  { storedEvent position with entryType := .unknown 99 }

/-- An event of an unknown type is taken by `feed`, and the Get that finds it is not answered. -/
theorem unknown_event_unanswered :
    let s := (Server.new 10 none false).hosted Crates.literal .everything
      (readFed [unknownEvent 100] "")
    (CanalInstance.feed Crates.literal false
      { destination := "example", filter := .everything, store := .new 10, running := true }
      [unknownEvent 100]).2.1 = .ok ∧
    (s.conns 0).phase = .answer "app" (.withEvents [unknownEvent 100] 1) ∧
    ¬ ∃ m, (0, .send (.messages m)) ∈ (s.step Crates.literal (.answer 0 none)).2 := by
  intro s
  have hp : (s.conns 0).phase = .answer "app" (.withEvents [unknownEvent 100] 1) := rfl
  refine ⟨by decide, hp, ?_⟩
  rw [Server.answer_sends_iff _ hp]
  intro h
  exact h (unknownEvent 100) (by decide) 99 rfl

/-- A row, and an event of an unknown type of another table: the filter of the client keeps the
event from its answer, and without the filter the connection ends with its error. -/
theorem get_answered_insert :
    let served := (Server.new 10 none false).hosted Crates.literal .everything
      (readFed [storedEvent 100, { unknownEvent 200 with tableName := "u" }] "db.t")
    let closed := (Server.new 10 none false).hosted Crates.literal .everything
      (readFed [storedEvent 100, { unknownEvent 200 with tableName := "u" }] "")
    (∃ m, (0, .send (.messages m)) ∈ (served.step Crates.literal (.answer 0 none)).2) ∧
    ∃ message, ((closed.step Crates.literal (.answer 0 none)).1.conns 0).phase =
      .closed (.error (.protocol message)) := by
  intro served closed
  have hserved := get_answered_iff (c := 0) Crates.literal 10 none false .everything
    (readFed [storedEvent 100, { unknownEvent 200 with tableName := "u" }] "db.t") rfl
  have hclosed := get_answered_iff (c := 0) Crates.literal 10 none false .everything
    (readFed [storedEvent 100, { unknownEvent 200 with tableName := "u" }] "") rfl
  constructor
  · exact hserved.2.2.1.2 (by decide)
  · obtain ⟨message, -, -, hp⟩ := hclosed.2.2.2 { unknownEvent 200 with tableName := "u" }
      (by decide)
    exact ⟨message, hp⟩

end Canal
