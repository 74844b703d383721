import Canal.Answers
import Canal.Trace

namespace Canal
set_option autoImplicit true

/-- Whether a client waits for a frame after it has sent this one. -/
def Frame.expects (authenticated : Bool) : Frame → Bool
  | .packet (.clientAuthentication _) => true
  | .packet (.subscription _) => true
  | .packet (.get _) => true
  | .packet .heartbeat => true
  | .packet _ => !authenticated
  | .undecodable _ => !authenticated
  | _ => false

def Effect.response : Effect → Option Response
  | .send r => some r
  | _ => none

/-- The frames that a connection writes. -/
def responses (es : List Effect) : List Response := es.filterMap Effect.response

@[simp] theorem responses_append (es es' : List Effect) :
    responses (es ++ es') = responses es ++ responses es' := List.filterMap_append ..

/-- The answers to Gets among the frames. -/
def answersIn (rs : List Response) : List Proto.Messages :=
  rs.filterMap fun
    | .messages m => some m
    | _ => none

@[simp] theorem answersIn_append (rs rs' : List Response) :
    answersIn (rs ++ rs') = answersIn rs ++ answersIn rs' := List.filterMap_append ..

namespace Outcome

/-- A handler that ends well has answered what calls for an answer, and nothing else; one that
ends with an error has answered at most once. -/
structure Answers (o : Outcome) (expects : Bool) : Prop where
  atMost : (responses o.effects).length ≤ 1
  exact : o.result = .ok () → (responses o.effects).length = expects.toNat

theorem answers_send {o : Outcome} (h : responses o.effects = []) (tx : Option CanalError)
    (r : Response) : (o.send tx r).Answers true := by
  cases tx with
  | none =>
    have hr : responses (o.send none r).effects = [r] := by
      rw [send, responses_append, h]
      rfl
    exact ⟨by rw [hr]; exact le_rfl, fun _ => by rw [hr]; rfl⟩
  | some e =>
    constructor
    · rw [send, h]
      exact Nat.zero_le _
    · intro hr
      cases hr

theorem answers_fail {o : Outcome} (h : (responses o.effects).length ≤ 1) (e : CanalError)
    (expects : Bool) : (o.fail e).Answers expects where
  atMost := h
  exact hr := by cases hr

theorem answers_quiet {o : Outcome} (h : responses o.effects = []) : o.Answers false where
  atMost := by
    rw [h]
    exact Nat.zero_le _
  exact _ := by
    rw [h]
    rfl

end Outcome

open Outcome

section Handlers

variable {lib : Crates} {tx : Option CanalError} {st : ClientState} {ss : SessionManager}

theorem handleAuth_answers (authToken : Option String) (body : Decoded ClientAuth) :
    (handleAuth lib tx authToken st ss body).Answers true := by
  cases body with
  | error e => exact answers_fail (Nat.zero_le _) _ _
  | ok auth =>
    unfold handleAuth
    simp only
    split
    · exact answers_send rfl _ _
    split
    · -- the third failure ends the connection after its refusal has been sent
      generalize ho : Outcome.sendAckErr _ tx "authentication failed" = o
      have hans : o.Answers true := by
        rw [← ho]
        exact answers_send rfl _ _
      split
      · exact hans
      · split
        · exact answers_fail hans.atMost _ _
        · exact hans
    split
    · exact answers_send rfl _ _
    · exact answers_send rfl _ _

theorem handleSub_answers (body : Decoded Sub) : (handleSub lib tx st ss body).Answers true := by
  cases body with
  | error e => exact answers_fail (Nat.zero_le _) _ _
  | ok sub =>
    unfold handleSub
    simp only
    split
    · exact answers_send rfl _ _
    split
    · exact answers_send rfl _ _
    · exact answers_send rfl _ _

theorem handleGet_answers {store : MemoryEventStore} {body : Decoded Get}
    (h : handleGet tx st ss store body = .done o) : o.Answers true := by
  cases body with
  | error e =>
    cases h
    exact answers_fail (Nat.zero_le _) _ _
  | ok get =>
    unfold handleGet at h
    simp only at h
    split at h
    · cases h
      exact answers_fail (Nat.zero_le _) _ _
    split at h
    · cases h
      exact answers_send rfl _ _
    · cases h

theorem answerGet_answers (cid : String) (events : Events) :
    (answerGet lib tx st ss cid events).Answers true := by
  rw [answerGet_reply]
  cases (batchAnswer lib (ss.get cid) events).map Response.messages with
  | error e => exact answers_fail (Nat.zero_le _) _ _
  | ok r => exact answers_send rfl _ _

theorem handleClientAck_answers (body : Decoded ClientAck) :
    (handleClientAck st ss body).Answers false := by
  unfold handleClientAck
  split
  · split
    · exact answers_quiet rfl
    · exact answers_quiet rfl
  · exact answers_quiet rfl

theorem handleClientRollback_answers (body : Decoded Unit) :
    (handleClientRollback st ss body).Answers false := by
  cases body with
  | error e => exact answers_quiet rfl
  | ok u => exact answers_quiet rfl

theorem handlePacket_answers {authToken : Option String} {store : MemoryEventStore} {p : Packet}
    (h : handlePacket lib tx authToken st ss store p = .done o) :
    o.Answers (Frame.expects st.authenticated (.packet p)) := by
  by_cases hp : ∃ body, p = .clientAuthentication body
  · obtain ⟨body, rfl⟩ := hp
    cases h
    exact handleAuth_answers authToken body
  have hp' : ∀ body, p ≠ .clientAuthentication body := fun body he => hp ⟨body, he⟩
  cases hauth : st.authenticated with
  | false =>
    rw [handlePacket_unauthenticated hauth hp'] at h
    cases h
    have hexp : Frame.expects false (.packet p) = true := by cases p <;> rfl
    rw [hexp]
    exact answers_send rfl _ _
  | true =>
    have hn : ¬ (!st.authenticated) = true := by rw [hauth]; decide
    cases p with
    | clientAuthentication body => exact absurd rfl (hp' body)
    | subscription body =>
      cases (if_neg hn).symm.trans h
      exact handleSub_answers body
    | get body => exact handleGet_answers ((if_neg hn).symm.trans h)
    | clientAck body =>
      cases (if_neg hn).symm.trans h
      exact handleClientAck_answers body
    | clientRollback body =>
      cases (if_neg hn).symm.trans h
      exact handleClientRollback_answers body
    | heartbeat =>
      cases (if_neg hn).symm.trans h
      exact answers_send rfl _ _
    | unknown type =>
      have h := (if_neg hn).symm.trans h
      simp only at h
      split at h
      · cases h
        exact answers_fail (Nat.zero_le _) _ _
      · cases h
        exact answers_quiet rfl

end Handlers

theorem answersIn_acks (acks : List Proto.Ack) :
    answersIn (responses (acks.map Effect.ack)) = [] := by
  induction acks with
  | nil => rfl
  | cons a acks ih => exact ih

theorem Turn.keeps_last (ht : Turn lib s c (.receive c frame tx) conn ss store es)
    (hp : (s.conns c).phase = .frame) :
    answersIn (responses es) = [] ∧
      conn.state.lastGetBatchId = (s.conns c).state.lastGetBatchId ∧
      conn.state.lastGetEndPos = (s.conns c).state.lastGetEndPos := by
  cases ht with
  | idle | rolledBack | awaiting | acked | left => exact ⟨rfl, rfl, rfl⟩
  | stage h => exact absurd (hp.symm.trans h) nofun
  | quiet h hw hq unknown acks => exact ⟨answersIn_acks acks, rfl, rfl⟩
  | refused h hw hq h3 acks => exact ⟨answersIn_acks acks, rfl, rfl⟩
  | authenticated h hauth hpw hf hq acks => exact ⟨answersIn_acks acks, rfl, rfl⟩
  | subscribed h hauth hid hf hq acks => exact ⟨answersIn_acks acks, rfl, rfl⟩

/-- A frame of the client and what has been written because of it. -/
structure Exchange where
  expects : Bool
  answers : List Response

/-- As many answers as the frame calls for. -/
def Exchange.Settled (x : Exchange) : Prop := x.answers.length = x.expects.toNat

/-- More answers to the last frame. -/
def addAnswers (rs : List Response) (talk : List Exchange) : List Exchange :=
  talk.dropLast ++ (talk.getLast?.map fun x => { x with answers := x.answers ++ rs }).toList

@[simp] theorem addAnswers_nil (talk : List Exchange) : addAnswers [] talk = talk := by
  induction talk using List.reverseRecOn with
  | nil => rfl
  | append_singleton talk x => simp [addAnswers]

theorem addAnswers_concat (rs : List Response) (talk : List Exchange) (x : Exchange) :
    addAnswers rs (talk ++ [x]) = talk ++ [{ x with answers := x.answers ++ rs }] := by
  simp [addAnswers]

/-- Where the dialogue of a connection stands in each phase of its task. -/
inductive InStep : List Exchange → Phase → Prop
  | settled (h : ∀ x ∈ talk, x.Settled) (hp : phase = .frame ∨ phase = .closed (.ok ())) :
      InStep talk phase
  | pending (h : ∀ x ∈ talk, x.Settled) (hp : phase.isGet = true) :
      InStep (talk ++ [{ expects := true, answers := [] }]) phase
  | failed (h : ∀ x ∈ talk, x.Settled) (hx : x.answers.length ≤ 1) :
      InStep (talk ++ [x]) (.closed (.error e))

theorem InStep.of_frame (h : InStep talk .frame) : ∀ x ∈ talk, x.Settled := by
  cases h with
  | settled h _ => exact h
  | pending _ hp => cases hp

theorem InStep.of_get {phase : Phase} (h : InStep talk phase) (hp : phase.isGet = true) :
    ∃ pre, talk = pre ++ [{ expects := true, answers := [] }] ∧ ∀ x ∈ pre, x.Settled := by
  cases h with
  | settled h hq => rcases hq with rfl | rfl <;> cases hp
  | pending h => exact ⟨_, rfl, h⟩
  | failed => cases hp

theorem InStep.stage {phase phase' : Phase} (h : InStep talk phase) (hp : phase.isGet = true)
    (hp' : phase'.isGet = true) : InStep talk phase' := by
  obtain ⟨pre, rfl, hpre⟩ := h.of_get hp
  exact .pending hpre hp'

namespace Server

/-- The dialogue of connection `c` after one more step. -/
def record (lib : Crates) (s : Server) (c : Nat) (talk : List Exchange) (a : Action) :
    List Exchange :=
  let answers := responses (trace c (s.step lib a).2)
  match a with
  | .receive c' frame _ =>
    match (s.conns c).phase with
    | .frame =>
      if c' = c then
        talk ++ [{ expects := frame.expects (s.conns c).state.authenticated, answers }]
      else talk
    | _ => talk
  | _ => addAnswers answers talk

/-- The dialogue of connection `c` in a run: the frames it has read, each with what it has written
until the next. -/
def dialogue (lib : Crates) (s : Server) (c : Nat) (as : List Action) : List Exchange :=
  (as.foldl (fun (t : Server × List Exchange) a =>
    ((t.1.step lib a).1, t.1.record lib c t.2 a)) (s, [])).2

theorem dialogue_concat (lib : Crates) (s : Server) (c : Nat) (as : List Action) (a : Action) :
    s.dialogue lib c (as ++ [a]) =
      (Run.final (step lib) s as).record lib c (s.dialogue lib c as) a := by
  have hfst : ∀ (as : List Action) (t : Server × List Exchange),
      (as.foldl (fun (t : Server × List Exchange) a =>
        ((t.1.step lib a).1, t.1.record lib c t.2 a)) t).1 = Run.final (step lib) t.1 as := by
    intro as
    induction as with
    | nil => exact fun t => rfl
    | cons a as ih => exact fun t => ih _
  rw [dialogue, List.foldl_append, List.foldl_cons, List.foldl_nil, hfst]
  rfl

theorem inStep_settle {s : Server} {o : Outcome} (h : ∀ x ∈ talk, x.Settled)
    (ho : o.Answers expects) (c : Nat) :
    InStep (talk ++ [{ expects, answers := responses (trace c (s.settle c o).2) }])
      ((s.settle c o).1.conns c).phase := by
  have htr : trace c (s.settle c o).2 = o.effects := trace_own o.effects
  rw [htr]
  cases hr : o.result with
  | ok u =>
    have hp : ((s.settle c o).1.conns c).phase = .frame := by simp [settle, setConn, hr]
    rw [hp]
    refine .settled ?_ (.inl rfl)
    rw [List.forall_mem_append, List.forall_mem_singleton]
    exact ⟨h, ho.exact hr⟩
  | error e =>
    have hp : ((s.settle c o).1.conns c).phase = .closed (.error e) := by
      simp [settle, setConn, hr]
    rw [hp]
    exact .failed h ho.atMost

theorem settled_silent {talk : List Exchange} (h : ∀ x ∈ talk, x.Settled) :
    ∀ x ∈ talk ++ [{ expects := false, answers := [] }], x.Settled := by
  rw [List.forall_mem_append, List.forall_mem_singleton]
  exact ⟨h, rfl⟩

theorem inStep_leave {s : Server} (h : ∀ x ∈ talk, x.Settled) (c : Nat) :
    InStep (talk ++ [{ expects := false, answers := responses (trace c (s.leave c).2) }])
      ((s.leave c).1.conns c).phase := by
  have htr : responses (trace c (s.leave c).2) = [] := by
    unfold leave
    simp only
    split
    · rename_i cid _
      exact congrArg responses (trace_own [Effect.unregister cid])
    · rfl
  have hp : ((s.leave c).1.conns c).phase = .closed (.ok ()) := by
    unfold leave
    simp only
    split <;> simp [setConn]
  rw [htr, hp]
  exact .settled (settled_silent h) (.inr rfl)

theorem inStep_receive {s : Server} (h : ∀ x ∈ talk, x.Settled) (hp : (s.conns c).phase = .frame)
    (frame : Frame) (tx : Option CanalError) :
    InStep (talk ++ [{ expects := frame.expects (s.conns c).state.authenticated,
                       answers := responses (trace c (s.receive lib c frame tx).2) }])
      ((s.receive lib c frame tx).1.conns c).phase := by
  cases frame with
  | endOfStream => exact inStep_leave h c
  | idleTimeout => exact inStep_leave h c
  | transportError e =>
    simp only [receive, setConn, Function.update_self]
    exact .failed h (Nat.zero_le _)
  | keepalive =>
    simp only [receive, hp]
    exact .settled (settled_silent h) (.inl rfl)
  | undecodable message =>
    simp only [receive, setConn, Function.update_self]
    exact .failed h (Nat.zero_le _)
  | packet p =>
    cases ho : handlePacket lib tx s.authToken (s.conns c).state s.sessions s.store p with
    | done o =>
      simp only [receive, ho]
      exact inStep_settle h (handlePacket_answers ho) c
    | getBatch st cid call =>
      obtain ⟨get, rfl, -⟩ := handlePacket_getBatch ho
      simp only [receive, ho, setConn, Function.update_self]
      exact .pending h rfl

theorem inStep_notify {conn : Connection} (h : InStep talk conn.phase) :
    InStep talk conn.notify.phase := by
  rcases conn.notify_phase with hp | ⟨cid, call, hp, hp'⟩
  · rw [hp]
    exact h
  · rw [hp']
    rw [hp] at h
    exact h.stage rfl rfl

/-- What is true of the exchanges after a step. -/
structure Recorded (lib : Crates) (s : Server) (c : Nat) (talk : List Exchange) (a : Action) :
    Prop where
  inStep : InStep (s.record lib c talk a) ((s.step lib a).1.conns c).phase
  answers : (s.record lib c talk a).flatMap Exchange.answers =
    talk.flatMap Exchange.answers ++ responses (trace c (s.step lib a).2)

theorem recorded_silent {s : Server} (h : InStep talk ((s.step lib a).1.conns c).phase)
    (htr : trace c (s.step lib a).2 = []) (hrec : s.record lib c talk a = talk) :
    Recorded lib s c talk a where
  inStep := by
    rw [hrec]
    exact h
  answers := by
    rw [hrec, htr, responses, List.filterMap_nil, List.append_nil]

theorem record_of_silent {s : Server} (htr : trace c (s.step lib a).2 = [])
    (ha : ∀ frame tx, a = .receive c frame tx → (s.conns c).phase ≠ .frame) :
    s.record lib c talk a = talk := by
  unfold record
  rw [htr]
  cases a with
  | receive c' frame tx =>
    cases hp : (s.conns c).phase with
    | frame =>
      by_cases hc : c' = c
      · subst hc
        exact absurd hp (ha frame tx rfl)
      · simp only [hc, ↓reduceIte]
    | get | answer | closed => rfl
  | putBatch | arm | check | wake | timeout | answer => exact addAnswers_nil talk

theorem recorded_idle {s : Server} (h : InStep talk (s.conns c).phase)
    (hs : s.step lib a = (s, []))
    (ha : ∀ frame tx, a = .receive c frame tx → (s.conns c).phase ≠ .frame) :
    Recorded lib s c talk a := by
  have htr : trace c (s.step lib a).2 = [] := by
    rw [hs]
    rfl
  apply recorded_silent _ htr (record_of_silent htr ha)
  rw [hs]
  exact h

theorem recorded_stage {s : Server} {phase : Phase} (h : InStep talk (s.conns c).phase)
    (hp : (s.conns c).phase.isGet = true) (htr : responses (trace c (s.step lib a).2) = [])
    (hs : ((s.step lib a).1.conns c).phase = phase) (hp' : phase.isGet = true)
    (ha : ∀ frame tx, a ≠ .receive c frame tx) : Recorded lib s c talk a := by
  have hrec : s.record lib c talk a = talk := by
    unfold record
    rw [htr]
    cases a with
    | receive c' frame tx =>
      cases hf : (s.conns c).phase with
      | frame =>
        rw [hf] at hp
        cases hp
      | get | answer | closed => rfl
    | putBatch | arm | check | wake | timeout | answer => exact addAnswers_nil talk
  constructor
  · rw [hrec, hs]
    exact h.stage hp hp'
  · rw [hrec, htr, List.append_nil]

theorem recorded_settle {s t : Server} {o : Outcome} (h : InStep talk (s.conns c).phase)
    (hp : (s.conns c).phase.isGet = true) (hs : s.step lib a = t.settle c o)
    (ho : o.Answers true)
    (hrec : s.record lib c talk a = addAnswers (responses (trace c (s.step lib a).2)) talk) :
    Recorded lib s c talk a := by
  obtain ⟨pre, rfl, hpre⟩ := h.of_get hp
  rw [addAnswers_concat, List.nil_append] at hrec
  constructor
  · rw [hrec, hs]
    exact inStep_settle hpre ho c
  · rw [hrec, List.flatMap_append, List.flatMap_append, List.flatMap_singleton,
      List.flatMap_singleton, List.append_nil]

theorem recorded_receive {s : Server} (h : InStep talk (s.conns c).phase) (frame : Frame)
    (tx : Option CanalError) : Recorded lib s c talk (.receive c frame tx) := by
  cases hp : (s.conns c).phase with
  | frame =>
    have hs : s.step lib (.receive c frame tx) = s.receive lib c frame tx := by
      simp only [step, hp]
    have hrec : s.record lib c talk (.receive c frame tx) =
        talk ++ [{ expects := frame.expects (s.conns c).state.authenticated,
                   answers := responses (trace c (s.receive lib c frame tx).2) }] := by
      simp only [record, hp, hs, ↓reduceIte]
    rw [hp] at h
    constructor
    · rw [hrec, hs]
      exact inStep_receive h.of_frame hp frame tx
    · rw [hrec, hs, List.flatMap_append, List.flatMap_singleton]
  | get | answer | closed =>
    apply recorded_idle h
    · simp only [step, hp]
    · intro _ _ _ hf
      rw [hp] at hf
      cases hf

theorem recorded_call {s : Server} (h : InStep talk (s.conns c).phase) (hcall : CallStep lib s c a)
    (ha : ∀ frame tx, a ≠ .receive c frame tx) : Recorded lib s c talk a := by
  cases hcall with
  | idle hs => exact recorded_idle h (hs s (.refl ..)) fun frame tx he => absurd he (ha frame tx)
  | stage hp hs | read hp hne hs | expire hp hs =>
    apply recorded_stage h (by rw [hp]; rfl) _ rfl _ ha
    · rw [hs s (.refl ..)]
      simp [hand, trace, responses, Effect.response]
    · rw [hs s (.refl ..)]
      simp only [setStage, hand, setConn, Function.update_self]
      rfl

theorem recorded_answer {s : Server} (h : InStep talk (s.conns c).phase)
    (tx : Option CanalError) : Recorded lib s c talk (.answer c tx) := by
  cases hp : (s.conns c).phase with
  | answer cid events =>
    exact recorded_settle h (by rw [hp]; rfl) (step_answer lib tx hp) (answerGet_answers ..) rfl
  | frame | get | closed =>
    apply recorded_idle h
    · apply step_answer_idle
      rintro cid events ha
      cases hp.symm.trans ha
    · rintro frame tx ⟨⟩

theorem recorded_step (lib : Crates) {s : Server} (h : InStep talk (s.conns c).phase)
    (a : Action) : Recorded lib s c talk a := by
  rcases s.step_conn lib a c with ⟨ha, htr, hc⟩ | ⟨ha, -⟩
  · apply recorded_silent _ htr (record_of_silent htr _)
    · rcases hc with hc | hc
      · rw [hc]
        exact h
      · rw [hc]
        exact inStep_notify h
    · rintro frame tx rfl
      exact absurd rfl ha
  cases a with
  | putBatch events => cases ha
  | receive c' frame tx =>
    cases ha
    exact recorded_receive h frame tx
  | arm c' =>
    cases ha
    exact recorded_call h (call_arm ..) (by rintro _ _ ⟨⟩)
  | check c' =>
    cases ha
    exact recorded_call h (call_check ..) (by rintro _ _ ⟨⟩)
  | wake c' =>
    cases ha
    exact recorded_call h (call_wake ..) (by rintro _ _ ⟨⟩)
  | timeout c' =>
    cases ha
    exact recorded_call h (call_timeout ..) (by rintro _ _ ⟨⟩)
  | answer c' tx =>
    cases ha
    exact recorded_answer h tx

/-- One answer for each request: the frames written on a connection are the answers of its
dialogue, in order, and in the dialogue each frame has as many answers as it calls for, up to a Get
that is still open and the exchange that ends with an error. -/
theorem one_answer_per_request (lib : Crates) (cap : Nat) (authToken : Option String) (d : Bool)
    (c : Nat) (as : List Action) :
    InStep (dialogue lib (.new cap authToken d) c as)
        ((Run.final (step lib) (.new cap authToken d) as).conns c).phase ∧
      (dialogue lib (.new cap authToken d) c as).flatMap Exchange.answers =
        responses (trace c (Run.outputs (step lib) (.new cap authToken d) as)) := by
  induction as using List.reverseRecOn with
  | nil =>
    constructor
    · exact .settled nofun (.inl rfl)
    · rfl
  | append_singleton as a ih =>
    obtain ⟨hstep, hans⟩ := ih
    obtain ⟨hstep', hans'⟩ := recorded_step lib hstep a
    rw [dialogue_concat, Run.final_concat, Run.outputs_concat, trace_append, responses_append,
      ← hans]
    exact ⟨hstep', hans'⟩

end Server

end Canal
