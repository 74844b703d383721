import Canal.TurnCases

namespace Canal
set_option autoImplicit true

open KeyedLog

/-- The answer to a Get whose `get_batch` call returned `events`; it fails with the first event
that has no entry. -/
def batchAnswer (lib : Crates) (session : Option ClientSession) (events : Events) :
    Except CanalError Proto.Messages :=
  if events.isEmpty then .ok {}
  else ((events.events.filter fun e => sessionPasses lib session e.fullName).mapM
    (canalEventToEntry lib)).map fun messages => { batchId := events.batchId, messages }

theorem batchAnswer_ok (hne : events.isEmpty = false)
    (h : batchAnswer lib session events = .ok m) :
    ∃ messages, (events.events.filter fun e => sessionPasses lib session e.fullName).mapM
      (canalEventToEntry lib) = .ok messages ∧ m = { batchId := events.batchId, messages } := by
  rw [batchAnswer, if_neg (by rw [hne]; decide)] at h
  cases hm : (events.events.filter fun e => sessionPasses lib session e.fullName).mapM
      (canalEventToEntry lib) with
  | error e =>
    rw [hm] at h
    cases h
  | ok messages =>
    rw [hm] at h
    cases h
    exact ⟨messages, rfl, rfl⟩

/-- The phase without the number of the batch in hand. -/
def Phase.unnumbered : Phase → Phase
  | .answer cid events => .answer cid { events with batchId := 0 }
  | phase => phase

theorem Phase.unnumbered_get {phase : Phase} :
    phase.unnumbered = .get cid call ↔ phase = .get cid call := by
  cases phase with
  | answer => exact iff_of_false (fun h => (by cases h)) (fun h => (by cases h))
  | frame | get | closed => exact Iff.rfl

theorem Phase.eq_get_or (phase : Phase) :
    (∃ cid call, phase = .get cid call) ∨ ∀ cid call, phase ≠ .get cid call := by
  cases phase with
  | get cid call => exact .inl ⟨cid, call, rfl⟩
  | frame | answer | closed =>
    right
    rintro cid call ⟨⟩

theorem Phase.unnumbered_frame {phase : Phase} : phase.unnumbered = .frame ↔ phase = .frame := by
  cases phase with
  | answer => exact iff_of_false (fun h => (by cases h)) (fun h => (by cases h))
  | frame | get | closed => exact Iff.rfl

theorem Phase.unnumbered_answer {phase : Phase}
    (h : phase.unnumbered = (Phase.answer cid events).unnumbered) :
    ∃ events', phase = .answer cid events' ∧
      ({ events' with batchId := 0 } : Events) = { events with batchId := 0 } := by
  cases phase with
  | answer cid' events' =>
    obtain ⟨rfl, he⟩ := Phase.answer.inj h
    exact ⟨events', rfl, he⟩
  | frame | get | closed => cases h

/-- A handler ends with an answer or with an error. -/
def Outcome.reply (o : Outcome) (tx : Option CanalError) (answer : Except CanalError Response) :
    Outcome :=
  match answer with
  | .ok r => o.send tx r
  | .error e => o.fail e

theorem answerGet_reply (lib : Crates) (tx : Option CanalError) (st : ClientState)
    (ss : SessionManager) (cid : String) (events : Events) :
    answerGet lib tx st ss cid events =
      Outcome.reply { state := st, sessions := ss } tx
        ((batchAnswer lib (ss.get cid) events).map Response.messages) := by
  cases he : events.isEmpty with
  | true => simp [answerGet, batchAnswer, he, Except.map, Outcome.reply]
  | false =>
    simp only [answerGet, batchAnswer, he, Bool.false_eq_true, ↓reduceIte]
    split
    · rename_i hnil
      rw [List.isEmpty_iff.1 hnil]
      rfl
    · cases (events.events.filter fun e => sessionPasses lib (ss.get cid) e.fullName).mapM
        (canalEventToEntry lib) with
      | error e => rfl
      | ok entries => rfl

theorem Outcome.reply_effects (o : Outcome) (tx : Option CanalError)
    (answer : Except CanalError Response) :
    (o.reply tx answer).effects = o.effects ∨
      ∃ r, answer = .ok r ∧ (o.reply tx answer).effects = o.effects ++ [.send r] := by
  cases answer with
  | error e => exact .inl rfl
  | ok r =>
    cases tx with
    | none => exact .inr ⟨r, rfl, rfl⟩
    | some e => exact .inl rfl

theorem Outcome.reply_cases (o : Outcome) (ho : o.result = .ok ()) (tx : Option CanalError)
    (answer : Except CanalError Response) :
    (o.reply tx answer).state = o.state ∧
      ((∃ e, (o.reply tx answer).result = .error e ∧ (o.reply tx answer).effects = o.effects) ∨
        ∃ r, answer = .ok r ∧ (o.reply tx answer).result = .ok () ∧
          (o.reply tx answer).effects = o.effects ++ [.send r]) := by
  cases answer with
  | error e => exact ⟨rfl, .inl ⟨e, rfl, rfl⟩⟩
  | ok r =>
    cases tx with
    | some e => exact ⟨rfl, .inl ⟨e, rfl, rfl⟩⟩
    | none => exact ⟨rfl, .inr ⟨r, rfl, ho, rfl⟩⟩

namespace Server

/-- The events a `get_batch` call would return from the store as it is. -/
def page (s : Server) (call : GetBatch) : List CanalEvent :=
  KeyedLog.page CanalEvent.key (max call.batchSize 1) (call.start.readable s.store.buffer)

theorem page_eq_nil {s : Server} : s.page call = [] ↔ call.start.readable s.store.buffer = [] := by
  constructor
  · intro h
    by_contra hne
    exact page_ne_nil (by omega) hne h
  · intro h
    simp [page, KeyedLog.page, h]

theorem check_eq (s : Server) (c : Nat) (cid : String) (call : GetBatch) (notified : Bool) :
    s.check c cid call notified =
      if s.page call = [] then (s.setStage c cid call (.waiting notified), [])
      else hand { s with store := { s.store with batchIdSeq := s.store.batchIdSeq + 1 } } c cid
        call.start (.withEvents (s.page call) s.store.batchIdSeq) := by
  rw [check, s.store.lockedRead_eq]
  by_cases h : call.start.readable s.store.buffer = []
  · rw [if_pos h, if_pos (page_eq_nil.2 h)]
  · rw [if_neg h, if_neg (mt page_eq_nil.1 h)]
    rfl

/-- The calls of connection `c` stand at the same place and would find the same. -/
structure SameCall (c : Nat) (s t : Server) : Prop where
  phase : (t.conns c).phase.unnumbered = (s.conns c).phase.unnumbered
  buffer : t.store.buffer = s.store.buffer

/-- What a step of connection `c` inside its `get_batch` call comes to, in `s` and wherever else
its call stands at the same place and would find the same. -/
inductive CallStep (lib : Crates) (s : Server) (c : Nat) : Action → Prop
  | idle (hs : ∀ t, SameCall c s t → t.step lib a = (t, [])) : CallStep lib s c a
  | stage (hp : (s.conns c).phase = .get cid call)
      (hs : ∀ t, SameCall c s t → t.step lib a = (t.setStage c cid call stage, [])) :
      CallStep lib s c a
  | read (hp : (s.conns c).phase = .get cid call) (hne : s.page call ≠ [])
      (hs : ∀ t, SameCall c s t → t.step lib (.check c) =
        hand { t with store := { t.store with batchIdSeq := t.store.batchIdSeq + 1 } } c cid
          call.start (.withEvents (s.page call) t.store.batchIdSeq)) :
      CallStep lib s c (.check c)
  | expire (hp : (s.conns c).phase = .get cid call)
      (hs : ∀ t, SameCall c s t → t.step lib (.timeout c) = t.hand c cid call.start (.new 0)) :
      CallStep lib s c (.timeout c)

theorem SameCall.refl (c : Nat) (s : Server) : SameCall c s s := ⟨rfl, rfl⟩

theorem SameCall.page {t : Server} (h : SameCall c s t) (call : GetBatch) :
    t.page call = s.page call := by
  rw [Server.page, Server.page, h.buffer]

theorem SameCall.get {t : Server} (h : SameCall c s t) (hp : (s.conns c).phase = .get cid call) :
    (t.conns c).phase = .get cid call := by
  rw [← Phase.unnumbered_get, h.phase, hp]
  rfl

theorem step_of_no_call {s : Server} (hp : ∀ cid call, (s.conns c).phase ≠ .get cid call)
    (ha : a = .arm c ∨ a = .check c ∨ a = .wake c ∨ a = .timeout c) (lib : Crates) :
    s.step lib a = (s, []) := by
  rcases ha with rfl | rfl | rfl | rfl <;> simp only [step]

theorem CallStep.of_no_call {s : Server} (hp : ∀ cid call, (s.conns c).phase ≠ .get cid call)
    (ha : a = .arm c ∨ a = .check c ∨ a = .wake c ∨ a = .timeout c) : CallStep lib s c a := by
  refine .idle fun t h => step_of_no_call (fun cid call ht => hp cid call ?_) ha lib
  rw [← Phase.unnumbered_get, ← h.phase, ht]
  rfl

theorem call_arm (lib : Crates) (s : Server) (c : Nat) : CallStep lib s c (.arm c) := by
  rcases (s.conns c).phase.eq_get_or with ⟨cid, call, hp⟩ | hp
  · cases hst : call.stage with
    | armed | waiting => exact .idle fun t h => by simp only [step, h.get hp, hst]
    | loopHead =>
      apply CallStep.stage hp
      intro t h
      simp only [step, h.get hp, hst]
      rfl
  · exact .of_no_call hp (.inl rfl)

theorem call_wake (lib : Crates) (s : Server) (c : Nat) : CallStep lib s c (.wake c) := by
  rcases (s.conns c).phase.eq_get_or with ⟨cid, call, hp⟩ | hp
  · cases hst : call.stage with
    | loopHead | armed => exact .idle fun t h => by simp only [step, h.get hp, hst]
    | waiting notified =>
      cases notified with
      | false => exact .idle fun t h => by simp only [step, h.get hp, hst]
      | true =>
        apply CallStep.stage hp
        intro t h
        simp only [step, h.get hp, hst]
        rfl
  · exact .of_no_call hp (.inr (.inr (.inl rfl)))

theorem call_check (lib : Crates) (s : Server) (c : Nat) : CallStep lib s c (.check c) := by
  rcases (s.conns c).phase.eq_get_or with ⟨cid, call, hp⟩ | hp
  · cases hst : call.stage with
    | loopHead | waiting => exact .idle fun t h => by simp only [step, h.get hp, hst]
    | armed notified =>
      have hcheck : ∀ t, SameCall c s t →
          t.step lib (.check c) = t.check c cid call notified := by
        intro t h
        simp only [step, h.get hp, hst]
      by_cases hne : s.page call = []
      · apply CallStep.stage hp
        intro t h
        rw [hcheck t h, check_eq, h.page, if_pos hne]
      · apply CallStep.read hp hne
        intro t h
        rw [hcheck t h, check_eq, h.page, if_neg hne]
  · exact .of_no_call hp (.inr (.inl rfl))

theorem call_timeout (lib : Crates) (s : Server) (c : Nat) : CallStep lib s c (.timeout c) := by
  rcases (s.conns c).phase.eq_get_or with ⟨cid, call, hp⟩ | hp
  · cases hst : call.stage with
    | loopHead | armed => exact .idle fun t h => by simp only [step, h.get hp, hst]
    | waiting notified =>
      apply CallStep.expire hp
      intro t h
      simp only [step, h.get hp, hst]
  · exact .of_no_call hp (.inr (.inr (.inr rfl)))

theorem step_receive_idle (lib : Crates) (frame : Frame) (tx : Option CanalError) {s : Server}
    (hp : (s.conns c).phase ≠ .frame) : s.step lib (.receive c frame tx) = (s, []) := by
  simp only [step]

theorem step_answer_idle (lib : Crates) (tx : Option CanalError) {s : Server}
    (hp : ∀ cid events, (s.conns c).phase ≠ .answer cid events) :
    s.step lib (.answer c tx) = (s, []) := by
  simp only [step]

theorem step_answer_reply (lib : Crates) (tx : Option CanalError) {s : Server}
    (hp : (s.conns c).phase = .answer cid events) :
    s.step lib (.answer c tx) = s.settle c
      (Outcome.reply { state := (s.conns c).state, sessions := s.sessions } tx
        ((batchAnswer lib (s.sessions.get cid) events).map Response.messages)) := by
  rw [step_answer lib tx hp, answerGet_reply]

/-- The events of a batch that pass the filter of the session of client `cid`. -/
def toSend (lib : Crates) (s : Server) (cid : String) (events : Events) :
    List CanalEvent :=
  events.events.filter fun e => sessionPasses lib (s.sessions.get cid) e.fullName

theorem answer_of_mem {c : Nat}
    (h : (c, .send (.messages m)) ∈ (settle s c (answerGet lib tx st ss cid events)).2) :
    batchAnswer lib (ss.get cid) events = .ok m := by
  rw [answerGet_reply, settle, List.mem_map] at h
  obtain ⟨e, he, heq⟩ := h
  cases heq
  rcases Outcome.reply_effects { state := st, sessions := ss } tx
      ((batchAnswer lib (ss.get cid) events).map Response.messages) with heff | ⟨r, hr, heff⟩
  · rw [heff] at he
    cases he
  · rw [heff] at he
    cases hb : batchAnswer lib (ss.get cid) events with
    | error e =>
      rw [hb] at hr
      cases hr
    | ok m' =>
      rw [hb] at hr
      cases hr
      have hm : m = m' := by simpa using he
      rw [hm]

theorem sent_of_batch {s : Server} (hp : (s.conns c).phase = .answer cid events)
    (hb : batchAnswer lib (s.sessions.get cid) events = .ok m) :
    (c, .send (.messages m)) ∈ (s.step lib (.answer c none)).2 := by
  rw [step_answer_reply lib none hp, hb, settle]
  exact List.mem_map_of_mem (List.mem_singleton.2 rfl)

/-- A connection sends one kind of message: the answer to its Get, out of the batch in hand. -/
theorem batch_of_sent {s : Server} (hs : (c, .send (.messages m)) ∈ (s.step lib a).2) :
    ∃ tx cid events, a = .answer c tx ∧ (s.conns c).phase = .answer cid events ∧
      batchAnswer lib (s.sessions.get cid) events = .ok m := by
  rcases s.step_cases lib a with ⟨events, rfl, h⟩ | ⟨c', hc', conn, ss, store, es, ht, h⟩
  · cases hs
  have hmem : Effect.messages m ∈ es ∧ c' = c := by
    rw [h, List.mem_map] at hs
    obtain ⟨e, hmem, he⟩ := hs
    cases he
    exact ⟨hmem, rfl⟩
  obtain ⟨hmem, rfl⟩ := hmem
  cases ht with
  | answered hp hq sent hm =>
    refine ⟨_, _, _, rfl, hp, ?_⟩
    rw [step_answer lib _ hp] at hs
    exact answer_of_mem hs
  | _ => simp [Effect.messages, Effect.ack] at hmem

end Server

end Canal
