import Canal.BatchIds
import Canal.Dialogue

namespace Canal
set_option autoImplicit true

/-- The answer without the number of its batch. -/
def Response.unnumbered : Response → Response
  | .messages m => .messages { m with batchId := 0 }
  | r => r

/-- The tables agree about the clients in `K`. -/
def SessionManager.Agree (K : String → Prop) (ss ss' : SessionManager) : Prop :=
  ∀ cid, K cid → ss.get cid = ss'.get cid

namespace SessionManager.Agree

theorem register (h : Agree K ss ss') (lib : Crates) (id d : String) (f : FilterPattern) :
    Agree K (ss.register lib id d f) (ss'.register lib id d f) := by
  intro cid hK
  by_cases he : cid = id
  · rw [he, get_register_self, get_register_self]
  · rw [get_register_of_ne he, get_register_of_ne he]
    exact h cid hK

theorem unregister (h : Agree K ss ss') (id : String) :
    Agree K (ss.unregister id) (ss'.unregister id) := by
  intro cid hK
  by_cases he : cid = id
  · rw [he, get_unregister_self, get_unregister_self]
  · rw [get_unregister_of_ne he, get_unregister_of_ne he]
    exact h cid hK

theorem updateAck (h : Agree K ss ss') (id : String) (pos : LogPosition) :
    Agree K (ss.updateAck id pos) (ss'.updateAck id pos) := by
  intro cid hK
  by_cases he : cid = id
  · subst he
    rw [get_updateAck_self, get_updateAck_self, h cid hK]
  · rw [get_updateAck_of_ne he, get_updateAck_of_ne he]
    exact h cid hK

end SessionManager.Agree

open SessionManager (Agree)

/-- The states are the same but for the number of the last batch. -/
def ClientState.Renumbered (st st' : ClientState) : Prop :=
  st' = { st with lastGetBatchId := st'.lastGetBatchId }

/-- What two handlers leave is the same but for the numbers of batches. -/
structure Outcome.Alike (K : String → Prop) (o o' : Outcome) : Prop where
  state : o.state.Renumbered o'.state
  sessions : Agree K o.sessions o'.sessions
  answers : (responses o.effects).map Response.unnumbered =
    (responses o'.effects).map Response.unnumbered
  result : o.result = o'.result

namespace Outcome.Alike

variable {K : String → Prop} {o o' : Outcome}

theorem send (h : Alike K o o') (tx : Option CanalError) (hr : r.unnumbered = r'.unnumbered) :
    Alike K (o.send tx r) (o'.send tx r') := by
  cases tx with
  | some e => exact ⟨h.state, h.sessions, h.answers, rfl⟩
  | none =>
    refine ⟨h.state, h.sessions, ?_, h.result⟩
    have hs : ∀ r : Response, responses [.send r] = [r] := fun _ => rfl
    simp only [Outcome.send, responses_append, hs, List.map_append, List.map_cons, List.map_nil,
      h.answers, hr]

theorem fail (h : Alike K o o') (e : CanalError) : Alike K (o.fail e) (o'.fail e) :=
  ⟨h.state, h.sessions, h.answers, rfl⟩

theorem quiet (hs : Agree K ss ss') (st : ClientState) (n : Int64) (es : List Effect) :
    Alike K { state := st, sessions := ss, effects := es }
      { state := { st with lastGetBatchId := n }, sessions := ss', effects := es } :=
  ⟨rfl, hs, rfl, rfl⟩

end Outcome.Alike

/-- Two handlers that have come equally far. -/
inductive Progress.Alike (K : String → Prop) : Progress → Progress → Prop
  | done (h : o.Alike K o') : Alike K (.done o) (.done o')
  | getBatch (h : st.Renumbered st') : Alike K (.getBatch st cid call) (.getBatch st' cid call)

section Handlers

variable {lib : Crates} {tx : Option CanalError} {K : String → Prop} {ss ss' : SessionManager}

theorem handleAuth_alike (hs : Agree K ss ss') (authToken : Option String) (st : ClientState)
    (n : Int64) (body : Decoded ClientAuth) :
    (handleAuth lib tx authToken st ss body).Alike K
      (handleAuth lib tx authToken { st with lastGetBatchId := n } ss' body) := by
  cases body with
  | error e => exact (Outcome.Alike.quiet hs st n []).fail _
  | ok auth =>
    unfold handleAuth
    simp only
    split
    · exact (Outcome.Alike.quiet hs st n []).send tx rfl
    split
    · have h := (Outcome.Alike.quiet hs { st with authErrorCount := st.authErrorCount + 1 } n
        []).send tx
        (r := .ack { errorCodePresent := some 1, errorMessage := "authentication failed" }) rfl
      have hres := h.result
      cases tx with
      | some e => exact h
      | none =>
        simp only [Outcome.sendAckErr, Outcome.send]
        split
        · exact h.fail _
        · exact h
    split
    · exact (Outcome.Alike.quiet hs st n []).send tx rfl
    · exact (Outcome.Alike.quiet (hs.register _ _ _ _) _ n _).send tx rfl

theorem handleSub_alike (hs : Agree K ss ss') (st : ClientState) (n : Int64)
    (hid : ∃ cid, st.clientId = some cid ∧ K cid) (body : Decoded Sub) :
    (handleSub lib tx st ss body).Alike K
      (handleSub lib tx { st with lastGetBatchId := n } ss' body) := by
  cases body with
  | error e => exact (Outcome.Alike.quiet hs st n []).fail _
  | ok sub =>
    unfold handleSub
    simp only
    split
    · exact (Outcome.Alike.quiet hs st n []).send tx rfl
    · rename_i hf
      -- the Sub names the client itself, about whom the tables agree
      obtain ⟨cid, hcid, hK⟩ := hid
      have he : sub.clientId = cid := by
        rw [hcid, Option.filter_eq_none_iff] at hf
        have hne : cid = sub.clientId := by simpa using hf cid rfl
        exact hne.symm
      rw [← hs _ (he ▸ hK)]
      split
      · exact (Outcome.Alike.quiet hs st n []).send tx rfl
      · exact (Outcome.Alike.quiet (hs.register _ _ _ _) _ n _).send tx rfl

theorem handleGet_alike (hs : Agree K ss ss') (st : ClientState) (n : Int64)
    (hid : ∀ cid, st.clientId = some cid → K cid) {store store' : MemoryEventStore}
    (hw : store.evictedWatermark = store'.evictedWatermark) (body : Decoded Get) :
    (handleGet tx st ss store body).Alike K
      (handleGet tx { st with lastGetBatchId := n } ss' store' body) := by
  cases body with
  | error e => exact .done ((Outcome.Alike.quiet hs st n []).fail _)
  | ok get =>
    obtain ⟨st', hst⟩ : ∃ st', st' = { st with lastGetBatchId := n } := ⟨_, rfl⟩
    have hid' : st'.clientId = st.clientId := by rw [hst]
    have hcur : st'.currentPos = st.currentPos := by rw [hst]
    rw [← hst]
    cases hcid : st.clientId with
    | none =>
      rw [handleGet_missing hcid, handleGet_missing (hid'.trans hcid), hst]
      exact .done ((Outcome.Alike.quiet hs st n []).fail _)
    | some cid =>
      have hstart : getStart st' ss' cid = getStart st ss cid := by
        simp only [getStart, ownCursor, SessionManager.ack, hcur, hs cid (hid cid hcid)]
      have hlost : lostWatermark st' ss' store' cid = lostWatermark st ss store cid := by
        simp only [lostWatermark, hstart, hw, ownCursor, SessionManager.ack, hcur,
          hs cid (hid cid hcid)]
      cases hl : lostWatermark st ss store cid with
      | some watermark =>
        rw [handleGet_refused hcid hl, handleGet_refused (hid'.trans hcid) (hlost.trans hl), hstart,
          hst]
        exact .done ((Outcome.Alike.quiet hs st n []).send tx rfl)
      | none =>
        rw [handleGet_served hcid hl, handleGet_served (hid'.trans hcid) (hlost.trans hl), hstart,
          hst]
        exact .getBatch rfl

theorem handleClientAck_alike (hs : Agree K ss ss') (st : ClientState) (n : Int64)
    (ack ack' : ClientAck) (hid : ack.batchId = st.lastGetBatchId ↔ ack'.batchId = n) :
    (handleClientAck st ss (.ok ack)).Alike K
      (handleClientAck { st with lastGetBatchId := n } ss' (.ok ack')) := by
  have hquiet := Outcome.Alike.quiet hs st n []
  obtain ⟨clientId, currentPos, lastAckPos, last, endPos, _, _, _⟩ := st
  cases clientId with
  | none => exact hquiet
  | some cid =>
    cases endPos with
    | none => exact hquiet
    | some pos =>
      by_cases h : ack.batchId = last
      · rw [handleClientAck_accepted rfl rfl h, handleClientAck_accepted rfl rfl (hid.1 h)]
        exact ⟨rfl, hs.updateAck cid pos, rfl, rfl⟩
      · have h' : ack'.batchId ≠ n := fun he => h (hid.2 he)
        simp only [handleClientAck, ne_eq, h, h', not_false_eq_true, ↓reduceIte]
        exact hquiet

theorem handleClientRollback_alike (hs : Agree K ss ss') (st : ClientState) (n : Int64)
    (body : Decoded Unit) : (handleClientRollback st ss body).Alike K
      (handleClientRollback { st with lastGetBatchId := n } ss' body) := by
  cases body with
  | error e => exact Outcome.Alike.quiet hs st n []
  | ok u => exact Outcome.Alike.quiet hs { st with currentPos := st.lastAckPos } n []

theorem handlePacket_alike (hs : Agree K ss ss') (st : ClientState) (n : Int64)
    (hid : st.authenticated = true → ∃ cid, st.clientId = some cid ∧ K cid)
    {store store' : MemoryEventStore} (hw : store.evictedWatermark = store'.evictedWatermark)
    (authToken : Option String) {p : Packet} (hp : ∀ ack, p ≠ .clientAck (.ok ack)) :
    (handlePacket lib tx authToken st ss store p).Alike K
      (handlePacket lib tx authToken { st with lastGetBatchId := n } ss' store' p) := by
  have hauth : ∀ body, (handleAuth lib tx authToken st ss body).Alike K
      (handleAuth lib tx authToken { st with lastGetBatchId := n } ss' body) :=
    handleAuth_alike hs authToken st n
  obtain ⟨clientId, currentPos, lastAckPos, last, endPos, authenticated, errors, unknown⟩ := st
  cases authenticated with
  | false =>
    have hq := Outcome.Alike.quiet hs
      ⟨clientId, currentPos, lastAckPos, last, endPos, false, errors, unknown⟩ n []
    cases p with
    | clientAuthentication body => exact .done (hauth body)
    | subscription | get | clientAck | clientRollback | heartbeat | unknown =>
      exact .done (hq.send tx rfl)
  | true =>
    obtain ⟨cid, hcid, hK⟩ := hid rfl
    have hid' : ∀ cid, clientId = some cid → K cid := by
      intro cid' hcid'
      cases hcid.symm.trans hcid'
      exact hK
    let known : ClientState := ⟨clientId, currentPos, lastAckPos, last, endPos, true, errors, 0⟩
    have hq := Outcome.Alike.quiet hs known n []
    cases p with
    | clientAuthentication body => exact .done (hauth body)
    | subscription body => exact .done (handleSub_alike hs known n ⟨cid, hcid, hK⟩ body)
    | get body => exact handleGet_alike hs known n hid' hw body
    | clientAck body =>
      cases body with
      | error e => exact .done hq
      | ok ack => exact absurd rfl (hp ack)
    | clientRollback body => exact .done (handleClientRollback_alike hs known n body)
    | heartbeat => exact .done (hq.send tx rfl)
    | unknown type =>
      have hu := Outcome.Alike.quiet hs
        ⟨clientId, currentPos, lastAckPos, last, endPos, true, errors, unknown + 1⟩ n []
      simp only [handlePacket, Bool.not_true, Bool.false_eq_true, ↓reduceIte]
      split
      · exact .done (hu.fail _)
      · exact .done hu

theorem batchAnswer_unnumbered (session : Option ClientSession) (events : Events) (n : Int64) :
    ((batchAnswer lib session { events with batchId := n }).map Response.messages).map
        Response.unnumbered =
      ((batchAnswer lib session events).map Response.messages).map Response.unnumbered := by
  have he : ({ events with batchId := n } : Events).isEmpty = events.isEmpty := rfl
  unfold batchAnswer
  rw [he]
  split
  · rfl
  · simp only
    generalize (events.events.filter fun e => sessionPasses lib session e.fullName).mapM
      (canalEventToEntry lib) = entries
    cases entries <;> rfl

theorem Outcome.Alike.reply {o o' : Outcome} (h : o.Alike K o')
    {answer answer' : Except CanalError Response}
    (ha : answer.map Response.unnumbered = answer'.map Response.unnumbered) :
    (o.reply tx answer).Alike K (o'.reply tx answer') := by
  cases answer with
  | error e =>
    cases answer' with
    | error e' =>
      cases ha
      exact h.fail e
    | ok r' => cases ha
  | ok r =>
    cases answer' with
    | error e' => cases ha
    | ok r' => exact h.send tx (Except.ok.inj ha)

theorem answerGet_alike (hs : Agree K ss ss') (st : ClientState) (n : Int64) (hK : K cid)
    {events events' : Events} (he : ({ events' with batchId := 0 } : Events) =
      { events with batchId := 0 }) :
    (answerGet lib tx st ss cid events).Alike K
      (answerGet lib tx { st with lastGetBatchId := n } ss' cid events') := by
  rw [answerGet_reply, answerGet_reply, ← hs cid hK]
  apply Outcome.Alike.reply (.quiet hs st n [])
  rw [← batchAnswer_unnumbered _ events 0, ← batchAnswer_unnumbered _ events' 0, he]

end Handlers

/-- What a step does to connection `b`, to the sessions about which the tables agree and in the
answers to `b`, is the same but for the numbers of batches. -/
structure StepAlike (b : Nat) (K : String → Prop) (r r' : Server × List (Nat × Effect)) :
    Prop where
  state : (r.1.conns b).state.Renumbered (r'.1.conns b).state
  phase : (r'.1.conns b).phase.unnumbered = (r.1.conns b).phase.unnumbered
  sessions : Agree K r.1.sessions r'.1.sessions
  answers : (responses (trace b r.2)).map Response.unnumbered =
    (responses (trace b r'.2)).map Response.unnumbered

namespace Server

variable {s s' : Server} {K : String → Prop} {b : Nat}

theorem settle_alike {o o' : Outcome} (h : o.Alike K o') (s s' : Server) :
    StepAlike b K (s.settle b o) (s'.settle b o') where
  state := by
    simp only [settle, setConn, Function.update_self]
    exact h.state
  phase := by simp only [settle, setConn, Function.update_self, h.result]
  sessions := h.sessions
  answers := by
    simp only [settle, trace_own]
    exact h.answers

theorem setConn_alike (hs : Agree K s.sessions s'.sessions)
    (hst : (s.conns b).state.Renumbered (s'.conns b).state) (phase : Phase) :
    StepAlike b K (s.setConn b { s.conns b with phase }, [])
      (s'.setConn b { s'.conns b with phase }, []) where
  state := by
    simp only [setConn, Function.update_self]
    exact hst
  phase := by simp only [setConn, Function.update_self]
  sessions := hs
  answers := rfl

theorem hand_alike (hs : Agree K s.sessions s'.sessions)
    (hst : (s.conns b).state.Renumbered (s'.conns b).state) (cid : String) (start : LogPosition)
    (events : Events) (n : Int64) :
    StepAlike b K (s.hand b cid start events)
      (s'.hand b cid start { events with batchId := n }) where
  state := by
    have he : ({ events with batchId := n } : Events).isEmpty = events.isEmpty := rfl
    simp only [hand, setConn, Function.update_self]
    rw [hst]
    simp only [ClientState.served, he]
    split <;> rfl
  phase := by
    simp only [hand, setConn, Function.update_self]
    rfl
  sessions := hs
  answers := by
    simp only [hand, trace, List.filterMap_cons, ↓reduceIte, List.filterMap_nil]
    rfl

theorem leave_alike (hs : Agree K s.sessions s'.sessions)
    (hst : (s.conns b).state.Renumbered (s'.conns b).state) :
    StepAlike b K (s.leave b) (s'.leave b) := by
  have hid : (s'.conns b).state.clientId = (s.conns b).state.clientId := by rw [hst]
  have h := setConn_alike hs hst (.closed (.ok ()))
  cases hcid : (s.conns b).state.clientId with
  | none =>
    simp only [leave, hid, hcid]
    exact h
  | some cid =>
    simp only [leave, hid, hcid]
    exact ⟨h.state, h.phase, hs.unregister cid, rfl⟩

/-- A frame other than an ack of a batch, on connections whose own session is among those about
which the tables agree. -/
theorem receive_alike (hs : Agree K s.sessions s'.sessions)
    (hst : (s.conns b).state.Renumbered (s'.conns b).state)
    (hp : (s.conns b).phase = .frame) (hp' : (s'.conns b).phase = .frame)
    (hid : (s.conns b).state.authenticated = true →
      ∃ cid, (s.conns b).state.clientId = some cid ∧ K cid)
    (hw : s.store.evictedWatermark = s'.store.evictedWatermark) (htok : s'.authToken = s.authToken)
    (frame : Frame) (hack : ∀ ack, frame ≠ .packet (.clientAck (.ok ack)))
    (tx : Option CanalError) :
    StepAlike b K (s.receive lib b frame tx) (s'.receive lib b frame tx) := by
  cases frame with
  | endOfStream => exact leave_alike hs hst
  | idleTimeout => exact leave_alike hs hst
  | transportError e => exact setConn_alike hs hst _
  | keepalive => exact ⟨hst, by simp only [receive, hp, hp'], hs, rfl⟩
  | undecodable message => exact setConn_alike hs hst _
  | packet p =>
    have h : (handlePacket lib tx s.authToken (s.conns b).state s.sessions s.store p).Alike K _ :=
      handlePacket_alike hs (s.conns b).state (s'.conns b).state.lastGetBatchId hid hw s.authToken
        fun ack he => hack ack (he ▸ rfl)
    rw [← hst] at h
    simp only [receive, htok]
    generalize handlePacket lib tx s.authToken (s.conns b).state s.sessions s.store p = o at h
    generalize handlePacket lib tx s.authToken (s'.conns b).state s'.sessions s'.store p = o' at h
    cases h with
    | done h => exact settle_alike h s s'
    | getBatch h =>
      constructor
      · simp only [setConn, Function.update_self]
        exact h
      · simp only [setConn, Function.update_self]
      · exact hs
      · rfl

end Server

end Canal
