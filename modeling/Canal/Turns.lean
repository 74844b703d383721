import Canal.Server

namespace Canal
set_option autoImplicit true

/-- The connection is inside a `handle_get`. -/
def Phase.isGet : Phase → Bool
  | .get .. => true
  | .answer .. => true
  | _ => false

theorem Phase.ne_get {phase : Phase} (h : phase.isGet = false) : phase ≠ .get cid call := by
  rintro rfl
  cases h

theorem Phase.ne_answer {phase : Phase} (h : phase.isGet = false) :
    phase ≠ .answer cid events := by
  rintro rfl
  cases h

/-- The connection whose task takes the step. -/
def Action.actor : Action → Option Nat
  | .putBatch _ => none
  | .receive c _ _ => some c
  | .arm c => some c
  | .check c => some c
  | .wake c => some c
  | .timeout c => some c
  | .answer c _ => some c

/-- The action makes connection `c` compare a password that is not the token. -/
def Server.refuses (s : Server) (c : Nat) : Action → Bool
  | .receive c' (.packet (.clientAuthentication (.ok auth))) _ =>
    match (s.conns c).phase with
    | .frame => c' == c && !(s.conns c).state.authenticated &&
        s.authToken.any fun token => auth.password ≠ token.toUTF8.data.toList
    | _ => false
  | _ => false

theorem refuses_password (authToken : Option String) (password : List UInt8) :
    (authToken.any fun token => decide (password ≠ token.toUTF8.data.toList)) =
      authToken.any fun token => !passwordMatches token password := by
  congr 1
  funext token
  rw [Bool.eq_iff_iff, decide_eq_true_eq, Bool.not_eq_true', ← Bool.not_eq_true,
    passwordMatches_iff]

/-- An event of `entries` went through the filter of the session to become `entry`. -/
def Passed (lib : Crates) (session : Option ClientSession) (events : List CanalEvent)
    (entry : Proto.Entry) : Prop :=
  ∃ e ∈ events, sessionPasses lib session e.fullName = true ∧ entry.fullName = some e.fullName

def Effect.ack (a : Proto.Ack) : Effect := .send (.ack a)

def Effect.messages (m : Proto.Messages) : Effect := .send (.messages m)

/-- The turns of connection `c`: its new value, the session table and the store after the turn, and
its effects. The invariants are derived from this inversion and do not look into the handlers. -/
inductive Turn (lib : Crates) (s : Server) (c : Nat) :
    Action → Connection → SessionManager → MemoryEventStore → List Effect → Prop
  | idle (hw : s.refuses c a = false) : Turn lib s c a (s.conns c) s.sessions s.store []
  | stage (h : (s.conns c).phase = .get cid call) (hw : s.refuses c a = false)
      (stage : GetBatchStage) :
      Turn lib s c a { s.conns c with phase := .get cid { call with stage } } s.sessions s.store []
  | quiet (h : (s.conns c).phase = .frame) (hw : s.refuses c (.receive c frame tx) = false)
      (hp : phase.isGet = false) (unknown : Nat) (acks : List Proto.Ack) :
      Turn lib s c (.receive c frame tx)
        { state := { (s.conns c).state with unknownPacketCount := unknown }, phase }
        s.sessions s.store (acks.map Effect.ack)
  | refused (h : (s.conns c).phase = .frame) (hw : s.refuses c (.receive c frame tx) = true)
      (hp : phase.isGet = false)
      (h3 : 3 ≤ (s.conns c).state.authErrorCount + 1 → ∃ r, phase = .closed r)
      (acks : List Proto.Ack) :
      Turn lib s c (.receive c frame tx)
        { state := { (s.conns c).state with
            authErrorCount := (s.conns c).state.authErrorCount + 1 }, phase }
        s.sessions s.store (acks.map Effect.ack)
  | authenticated (h : (s.conns c).phase = .frame)
      (hauth : (s.conns c).state.authenticated = false)
      (hpw : (s.authToken.any fun token => !passwordMatches token auth.password) = false)
      (hf : auth.acceptedFilter lib = .ok filter)
      (hp : phase.isGet = false) (acks : List Proto.Ack) :
      Turn lib s c (.receive c (.packet (.clientAuthentication (.ok auth))) tx)
        { state := { (s.conns c).state with
            authenticated := true
            clientId := some auth.effectiveId
            currentPos :=
              if 0 < auth.startTimestamp then some (timestampCursor auth.startTimestamp)
              else (s.conns c).state.currentPos }, phase }
        (s.sessions.register lib auth.effectiveId auth.destination filter) s.store
        (.authenticate auth :: .register auth.effectiveId filter :: acks.map Effect.ack)
  | subscribed (h : (s.conns c).phase = .frame)
      (hauth : (s.conns c).state.authenticated = true)
      (hid : (s.conns c).state.clientId = none ∨ (s.conns c).state.clientId = some sub.clientId)
      (hf : checkFilter lib sub.filter
        (((s.sessions.get sub.clientId).map fun s => s.filter.blackList).getD "") = .ok filter)
      (hp : phase.isGet = false) (acks : List Proto.Ack) :
      Turn lib s c (.receive c (.packet (.subscription (.ok sub))) tx)
        { state := { (s.conns c).state with
            unknownPacketCount := 0, clientId := some sub.clientId }, phase }
        (s.sessions.register lib sub.clientId sub.destination filter) s.store
        (.register sub.clientId filter :: acks.map Effect.ack)
  | acked {ack : ClientAck} (h : (s.conns c).phase = .frame)
      (hauth : (s.conns c).state.authenticated = true)
      (hcid : (s.conns c).state.clientId = some cid)
      (hpos : (s.conns c).state.lastGetEndPos = some pos)
      (hid : ack.batchId = (s.conns c).state.lastGetBatchId) :
      Turn lib s c (.receive c (.packet (.clientAck (.ok ack))) tx)
        { state := { (s.conns c).state with
            unknownPacketCount := 0, lastAckPos := some pos }, phase := .frame }
        (s.sessions.updateAck cid pos) s.store [.updateAck cid pos]
  | rolledBack (h : (s.conns c).phase = .frame)
      (hauth : (s.conns c).state.authenticated = true) :
      Turn lib s c (.receive c (.packet (.clientRollback (.ok ()))) tx)
        { state := { (s.conns c).state with
            unknownPacketCount := 0, currentPos := (s.conns c).state.lastAckPos }, phase := .frame }
        s.sessions s.store []
  | awaiting {get : Get} (h : (s.conns c).phase = .frame)
      (hauth : (s.conns c).state.authenticated = true)
      (hcid : (s.conns c).state.clientId = some cid)
      (hlost : lostWatermark (s.conns c).state s.sessions s.store cid = none) :
      Turn lib s c (.receive c (.packet (.get (.ok get))) tx)
        { state := { (s.conns c).state with unknownPacketCount := 0 }
          phase := .get cid
            { start := getStart (s.conns c).state s.sessions cid, batchSize := get.batchSize } }
        s.sessions s.store []
  | served (h : (s.conns c).phase = .get cid call)
      (hr : s.store.lockedRead call.start call.batchSize = (store, some events))
      (hne : events.isEmpty = false) :
      Turn lib s c (.check c)
        { state := { (s.conns c).state with
            currentPos := some events.positionRange.stop
            lastGetBatchId := events.batchId
            lastGetEndPos := some events.positionRange.stop }, phase := .answer cid events }
        s.sessions store [.getBatch call.start events]
  | timedOut (h : (s.conns c).phase = .get cid call) :
      Turn lib s c (.timeout c) { (s.conns c) with phase := .answer cid (.new 0) } s.sessions
        s.store [.getBatch call.start (.new 0)]
  | answered (h : (s.conns c).phase = .answer cid events) (hp : phase.isGet = false)
      (sent : List Proto.Messages)
      (hs : ∀ m ∈ sent, (events.isEmpty = true → m = {}) ∧
        (events.isEmpty = false → m.batchId = events.batchId) ∧
        ∀ entry ∈ m.messages, Passed lib (s.sessions.get cid) events.events entry) :
      Turn lib s c (.answer c tx) { (s.conns c) with phase } s.sessions s.store
        (sent.map Effect.messages)
  | left (h : (s.conns c).phase = .frame) (hcid : (s.conns c).state.clientId = some cid)
      (hf : frame = .endOfStream ∨ frame = .idleTimeout) :
      Turn lib s c (.receive c frame tx) { s.conns c with phase := .closed (.ok ()) }
        (s.sessions.unregister cid) s.store [.unregister cid]

/-- The result of a step is a turn of connection `c`. -/
def Server.Moved (lib : Crates) (s : Server) (c : Nat) (a : Action)
    (r : Server × List (Nat × Effect)) : Prop :=
  ∃ conn sessions store es, Turn lib s c a conn sessions store es ∧
    r = ({ s with sessions, store, conns := Function.update s.conns c conn }, es.map (c, ·))

namespace Outcome

theorem send_ack (o : Outcome) (tx : Option CanalError) (a : Proto.Ack) :
    ∃ (acks : List Proto.Ack) (result : Except CanalError Unit), o.send tx (.ack a) = { o with
      effects := o.effects ++ acks.map Effect.ack, result } := by
  cases tx with
  | none => exact ⟨[a], o.result, rfl⟩
  | some e => exact ⟨[], .error e, by simp [send]⟩

theorem send_messages (o : Outcome) (tx : Option CanalError) (m : Proto.Messages) :
    ∃ (sent : List Proto.Messages) (result : Except CanalError Unit),
      (∀ m' ∈ sent, m' = m) ∧ o.send tx (.messages m) = { o with
        effects := o.effects ++ sent.map Effect.messages, result } := by
  cases tx with
  | none => exact ⟨[m], o.result, by simp, rfl⟩
  | some e => exact ⟨[], .error e, by simp, by simp [send]⟩

end Outcome

section Handlers

theorem handlePacket_unauthenticated (hauth : st.authenticated = false)
    (hp : ∀ body, p ≠ .clientAuthentication body) (tx : Option CanalError)
    (authToken : Option String) (ss : SessionManager) (store : MemoryEventStore) :
    handlePacket lib tx authToken st ss store p =
      .done (Outcome.sendAckErr { state := st, sessions := ss } tx "not authenticated") := by
  cases p with
  | clientAuthentication body => exact absurd rfl (hp body)
  | _ => exact if_pos (by rw [hauth]; rfl)

variable {get : Get} {store : MemoryEventStore}

theorem handleGet_missing (hcid : st.clientId = none) :
    handleGet tx st ss store (.ok get) = .done (Outcome.fail { state := st, sessions := ss }
      (.protocol "not authenticated — client_id missing")) := by
  simp only [handleGet, hcid]

theorem handleGet_refused (hcid : st.clientId = some cid)
    (h : lostWatermark st ss store cid = some watermark) :
    handleGet tx st ss store (.ok get) = .done (Outcome.sendAckErr { state := st, sessions := ss }
      tx (droppedMessage (getStart st ss cid) watermark)) := by
  simp only [handleGet, hcid, h]

theorem handleGet_served (hcid : st.clientId = some cid)
    (h : lostWatermark st ss store cid = none) :
    handleGet tx st ss store (.ok get) =
      .getBatch st cid { start := getStart st ss cid, batchSize := get.batchSize } := by
  simp only [handleGet, hcid, h]

theorem handleGet_getBatch (h : handleGet tx st ss store body = .getBatch st' cid call) :
    ∃ get, body = .ok get ∧ st.clientId = some cid ∧ lostWatermark st ss store cid = none ∧
      st' = st ∧ call = { start := getStart st ss cid, batchSize := get.batchSize } := by
  cases body with
  | error e => cases h
  | ok get =>
    cases hcid : st.clientId with
    | none =>
      rw [handleGet_missing hcid] at h
      cases h
    | some cid' =>
      cases hlost : lostWatermark st ss store cid' with
      | some watermark =>
        rw [handleGet_refused hcid hlost] at h
        cases h
      | none =>
        rw [handleGet_served hcid hlost] at h
        cases h
        exact ⟨get, rfl, rfl, hlost, rfl, rfl⟩

theorem handlePacket_getBatch {p : Packet}
    (h : handlePacket lib tx authToken st ss store p = .getBatch st' cid call) :
    ∃ get, p = .get (.ok get) ∧ st.authenticated = true ∧ st.clientId = some cid ∧
      lostWatermark st ss store cid = none ∧ st' = { st with unknownPacketCount := 0 } ∧
      call = { start := getStart st ss cid, batchSize := get.batchSize } := by
  cases hauth : st.authenticated with
  | false =>
    cases p with
    | clientAuthentication body => cases h
    | _ => cases (if_pos (by rw [hauth]; rfl)).symm.trans h
  | true =>
    have hn : ¬ (!st.authenticated) = true := by rw [hauth]; decide
    cases p with
    | clientAuthentication body => cases h
    | subscription | clientAck | clientRollback | heartbeat => cases (if_neg hn).symm.trans h
    | unknown type =>
      have h := (if_neg hn).symm.trans h
      simp only at h
      split at h <;> cases h
    | get body =>
      obtain ⟨get, rfl, hcid, hlost, rfl, rfl⟩ := handleGet_getBatch ((if_neg hn).symm.trans h)
      exact ⟨get, rfl, rfl, hcid, hlost, by rw [hauth], rfl⟩

theorem exists_of_mem_mapM {l : List α} {f : α → Except ε β} (h : l.mapM f = .ok l')
    (hb : b ∈ l') : ∃ a ∈ l, f a = .ok b := by
  induction l generalizing l' with
  | nil =>
    cases h
    cases hb
  | cons a l ih =>
    rw [List.mapM_cons] at h
    cases ha : f a with
    | error e =>
      rw [ha] at h
      cases h
    | ok x =>
      rw [ha] at h
      cases hl : l.mapM f with
      | error e =>
        rw [hl] at h
        cases h
      | ok xs =>
        rw [hl] at h
        cases h
        rcases List.mem_cons.1 hb with rfl | hb
        · exact ⟨a, List.mem_cons_self .., ha⟩
        · obtain ⟨a', ha', hf⟩ := ih hl hb
          exact ⟨a', List.mem_cons_of_mem _ ha', hf⟩

/-- What a `get_batch` call returned goes out whole: as an empty answer, under the id of the batch
with the entries that pass the filter, or not at all. -/
theorem answerGet_eq (lib : Crates) (tx : Option CanalError) (st : ClientState)
    (ss : SessionManager) (cid : String) (events : Events) :
    ∃ (sent : List Proto.Messages) (result : Except CanalError Unit),
      (∀ m ∈ sent, (events.isEmpty = true → m = {}) ∧
        (events.isEmpty = false → m.batchId = events.batchId) ∧
        ∀ entry ∈ m.messages, Passed lib (ss.get cid) events.events entry) ∧
      answerGet lib tx st ss cid events =
        { state := st, sessions := ss, effects := sent.map Effect.messages, result } := by
  unfold answerGet
  split
  · rename_i hemp
    obtain ⟨sent, result, hs, he⟩ :=
      Outcome.send_messages { state := st, sessions := ss } tx {}
    refine ⟨sent, result, ?_, he⟩
    intro m hm
    rw [hs m hm]
    refine ⟨fun _ => rfl, fun hne => ?_, fun entry he => absurd he List.not_mem_nil⟩
    rw [hemp] at hne
    cases hne
  rename_i hne
  simp only
  split
  · obtain ⟨sent, result, hs, he⟩ :=
      Outcome.send_messages { state := st, sessions := ss } tx { batchId := events.batchId }
    refine ⟨sent, result, ?_, he⟩
    intro m hm
    rw [hs m hm]
    exact ⟨fun hemp => absurd hemp hne, fun _ => rfl, fun entry he => absurd he List.not_mem_nil⟩
  · split
    · exact ⟨[], _, fun m hm => absurd hm List.not_mem_nil, rfl⟩
    · rename_i entries hentries
      obtain ⟨sent, result, hs, he⟩ := Outcome.send_messages { state := st, sessions := ss } tx
        { batchId := events.batchId, messages := entries }
      refine ⟨sent, result, ?_, he⟩
      intro m hm
      rw [hs m hm]
      refine ⟨fun hemp => absurd hemp hne, fun _ => rfl, fun entry hentry => ?_⟩
      obtain ⟨e, he, hconv⟩ := exists_of_mem_mapM hentries hentry
      rw [List.mem_filter] at he
      exact ⟨e, he.1, he.2, canalEventToEntry_fullName hconv⟩

end Handlers

end Canal
