import Canal.Session
import Canal.Store

namespace Canal
set_option autoImplicit true

structure ClientState where
  clientId : Option String := none
  currentPos : Option LogPosition := none
  lastAckPos : Option LogPosition := none
  lastGetBatchId : Int64 := 0
  lastGetEndPos : Option LogPosition := none
  authenticated : Bool := false
  authErrorCount : Nat := 0
  unknownPacketCount : Nat := 0
deriving DecidableEq

/-- What a handler does to the world outside its connection state, at the place of the call. -/
inductive Effect
  | send (r : Response)
  | authenticate (auth : ClientAuth)
  | register (clientId : String) (filter : FilterPattern)
  | unregister (clientId : String)
  | updateAck (clientId : String) (pos : LogPosition)
  | getBatch (start : LogPosition) (events : Events)
deriving DecidableEq

/-- What a handler leaves behind. -/
structure Outcome where
  state : ClientState
  sessions : SessionManager
  effects : List Effect := []
  result : Except CanalError Unit := .ok ()

namespace Outcome

/-- `transport.send(..).await?`; `tx` holds the error the transport answers with, if it fails. -/
def send (o : Outcome) (tx : Option CanalError) (r : Response) : Outcome :=
  match tx with
  | none => { o with effects := o.effects ++ [.send r] }
  | some e => { o with result := .error e }

def sendAckOk (o : Outcome) (tx : Option CanalError) : Outcome := o.send tx (.ack {})

def sendAckErr (o : Outcome) (tx : Option CanalError) (message : String) : Outcome :=
  o.send tx (.ack { errorCodePresent := some 1, errorMessage := message })

def fail (o : Outcome) (e : CanalError) : Outcome := { o with result := .error e }

end Outcome

/-- The constant-time comparison of `handle_auth`. -/
def passwordMatches (token : String) (password : List UInt8) : Bool :=
  let tokenBytes := token.toUTF8.data.toList
  !(password.length != tokenBytes.length ||
    (password.zip tokenBytes).foldl (fun acc (a, b) => acc ||| (a ^^^ b)) 0 != 0)

theorem foldl_or_xor_eq_zero (l : List (UInt8 × UInt8)) (acc : UInt8) :
    l.foldl (fun acc (a, b) => acc ||| (a ^^^ b)) acc = 0 ↔ acc = 0 ∧ ∀ p ∈ l, p.1 = p.2 := by
  induction l generalizing acc with
  | nil => simp
  | cons p l ih =>
    rw [List.foldl_cons, ih, UInt8.or_eq_zero_iff, UInt8.xor_eq_zero_iff, List.forall_mem_cons,
      and_assoc]

theorem passwordMatches_iff (token : String) (password : List UInt8) :
    passwordMatches token password = true ↔ password = token.toUTF8.data.toList := by
  unfold passwordMatches
  simp only [Bool.not_eq_true', Bool.or_eq_false_iff, bne_eq_false_iff_eq, foldl_or_xor_eq_zero,
    true_and]
  generalize token.toUTF8.data.toList = bytes
  constructor
  · rintro ⟨hl, hz⟩
    apply List.ext_getElem hl
    intro i h1 h2
    exact hz (password[i], bytes[i]) (List.mem_iff_getElem.2
      ⟨i, by rw [List.length_zip]; omega, List.getElem_zip⟩)
  · rintro rfl
    refine ⟨rfl, fun p hp => ?_⟩
    obtain ⟨i, hi, rfl⟩ := List.mem_iff_getElem.1 hp
    rw [List.getElem_zip]

/-- The identity an authentication establishes. -/
def ClientAuth.effectiveId (auth : ClientAuth) : String :=
  if auth.clientId.isEmpty then "anonymous" else auth.clientId

/-- The filter an authentication asks for, or the text of its refusal. -/
def ClientAuth.acceptedFilter (lib : Crates) (auth : ClientAuth) : Except String FilterPattern :=
  if auth.filter.isEmpty then .ok .default else checkFilter lib auth.filter ""

/-- The cursor of a client that asked to start at a point in time. -/
def timestampCursor (ts : Int64) : LogPosition :=
  { journalName := "", position := 0, timestamp := some ts }

def handleAuth (lib : Crates) (tx : Option CanalError) (authToken : Option String)
    (st : ClientState) (ss : SessionManager) (body : Decoded ClientAuth) : Outcome :=
  match body with
  | .error e => Outcome.fail { state := st, sessions := ss }
      (.protocol ("failed to decode ClientAuth: " ++ e))
  | .ok auth =>
    if st.authenticated then
      Outcome.sendAckErr { state := st, sessions := ss } tx "already authenticated"
    else if authToken.any fun token => !passwordMatches token auth.password then
      let st := { st with authErrorCount := st.authErrorCount + 1 }
      let o := Outcome.sendAckErr { state := st, sessions := ss } tx "authentication failed"
      match o.result with
      | .error _ => o
      | .ok () =>
        if 3 ≤ st.authErrorCount then o.fail (.authFailed "too many failures") else o
    else
      -- the filter is checked before the connection counts as authenticated
      match auth.acceptedFilter lib with
      | .error message => Outcome.sendAckErr { state := st, sessions := ss } tx message
      | .ok filter =>
        let cid := auth.effectiveId
        let st := { st with
          authenticated := true
          clientId := some cid
          currentPos := if 0 < auth.startTimestamp then some (timestampCursor auth.startTimestamp)
            else st.currentPos }
        Outcome.sendAckOk
          { state := st
            sessions := ss.register lib cid auth.destination filter
            effects := [.authenticate auth, .register cid filter] } tx

def handleSub (lib : Crates) (tx : Option CanalError) (st : ClientState) (ss : SessionManager)
    (body : Decoded Sub) : Outcome :=
  match body with
  | .error e => Outcome.fail { state := st, sessions := ss }
      (.protocol ("failed to decode Sub: " ++ e))
  | .ok sub =>
    match st.clientId.filter (· ≠ sub.clientId) with
    | some authCid => Outcome.sendAckErr { state := st, sessions := ss } tx
        ("client_id mismatch: sub has '" ++ sub.clientId ++ "' but authenticated as '" ++
          authCid ++ "'")
    | none =>
      let blackList := ((ss.get sub.clientId).map fun s => s.filter.blackList).getD ""
      match checkFilter lib sub.filter blackList with
      | .error message => Outcome.sendAckErr { state := st, sessions := ss } tx message
      | .ok fp =>
        Outcome.sendAckOk
          { state := { st with clientId := some sub.clientId }
            sessions := ss.register lib sub.clientId sub.destination fp
            effects := [.register sub.clientId fp] } tx

def maxFetchSize : Nat := 10000

/-- `usize::try_from(fetch_size).unwrap_or(100).clamp(1, MAX_FETCH_SIZE)`. -/
def Get.batchSize (get : Get) : Nat :=
  let n := if get.fetchSize < 0 then 100 else get.fetchSize.toNatClampNeg
  max 1 (min n maxFetchSize)

def defaultStart : LogPosition := .new "mysql-bin.000001" 4

/-- The ack position stored in the session table. -/
def SessionManager.ack (ss : SessionManager) (clientId : String) : Option LogPosition :=
  (ss.get clientId).bind ClientSession.lastAckPosition

/-- The cursor a client carries itself, if it has one. -/
def ownCursor (st : ClientState) (ss : SessionManager) (clientId : String) : Option LogPosition :=
  st.currentPos.or (ss.ack clientId)

/-- Where the next Get of the connection starts. -/
def getStart (st : ClientState) (ss : SessionManager) (clientId : String) : LogPosition :=
  (ownCursor st ss clientId).getD defaultStart

/-- The watermark a Get must report: the own, positional cursor of the client is below it. -/
def lostWatermark (st : ClientState) (ss : SessionManager) (store : MemoryEventStore)
    (clientId : String) : Option LogPosition :=
  let start := getStart st ss clientId
  if (ownCursor st ss clientId).isSome && start.timestamp.isNone then
    store.evictedWatermark.filter start.lt
  else none

def droppedMessage (start watermark : LogPosition) : String :=
  "cursor " ++ start.display ++ " is below the eviction watermark " ++ watermark.display ++
    " — events were dropped, reset the subscription"

/-- How far a handler gets on its own: to its end, or to the `get_batch` call of `handle_get`. -/
inductive Progress
  | done (o : Outcome)
  | getBatch (state : ClientState) (clientId : String) (call : GetBatch)

/-- `handle_get` up to its `get_batch` call. -/
def handleGet (tx : Option CanalError) (st : ClientState) (ss : SessionManager)
    (store : MemoryEventStore) (body : Decoded Get) : Progress :=
  match body with
  | .error e => .done (Outcome.fail { state := st, sessions := ss }
      (.protocol ("failed to decode Get: " ++ e)))
  | .ok get =>
    match st.clientId with
    | none => .done (Outcome.fail { state := st, sessions := ss }
        (.protocol "not authenticated — client_id missing"))
    | some cid =>
      let start := getStart st ss cid
      match lostWatermark st ss store cid with
      | some watermark => .done (Outcome.sendAckErr { state := st, sessions := ss } tx
          (droppedMessage start watermark))
      | none => .getBatch st cid { start, batchSize := get.batchSize }

/-- What `handle_get` notes of the batch that its `get_batch` call returned. -/
def ClientState.served (st : ClientState) (events : Events) : ClientState :=
  if events.isEmpty then st
  else { st with
    currentPos := some events.positionRange.stop
    lastGetBatchId := events.batchId
    lastGetEndPos := some events.positionRange.stop }

theorem ClientState.served_of_nonempty (st : ClientState) {events : Events}
    (hne : events.isEmpty = false) :
    st.served events = { st with
      currentPos := some events.positionRange.stop
      lastGetBatchId := events.batchId
      lastGetEndPos := some events.positionRange.stop } :=
  if_neg (by rw [hne]; decide)

/-- `handle_get` from its second look at the session table on. -/
def answerGet (lib : Crates) (tx : Option CanalError) (st : ClientState) (ss : SessionManager)
    (cid : String) (events : Events) : Outcome :=
  if events.isEmpty then Outcome.send { state := st, sessions := ss } tx (.messages {})
  else
    let session := ss.get cid
    let toSend := events.events.filter fun e => sessionPasses lib session e.fullName
    if toSend.isEmpty then
      Outcome.send { state := st, sessions := ss } tx (.messages { batchId := events.batchId })
    else
      match toSend.mapM (canalEventToEntry lib) with
      | .error e => Outcome.fail { state := st, sessions := ss } e
      | .ok entries => Outcome.send { state := st, sessions := ss } tx
          (.messages { batchId := events.batchId, messages := entries })

def handleClientAck (st : ClientState) (ss : SessionManager) (body : Decoded ClientAck) :
    Outcome :=
  match body, st.clientId, st.lastGetEndPos with
  | .ok ack, some cid, some pos =>
    if ack.batchId ≠ st.lastGetBatchId then { state := st, sessions := ss }
    else
      { state := { st with lastAckPos := some pos }
        sessions := ss.updateAck cid pos
        effects := [.updateAck cid pos] }
  | _, _, _ => { state := st, sessions := ss }

def handleClientRollback (st : ClientState) (ss : SessionManager) (body : Decoded Unit) :
    Outcome :=
  match body with
  | .ok () => { state := { st with currentPos := st.lastAckPos }, sessions := ss }
  | .error _ => { state := st, sessions := ss }

/-- The heartbeat time it records in the session is read by nothing. -/
def handleHeartbeat (tx : Option CanalError) (st : ClientState) (ss : SessionManager) : Outcome :=
  Outcome.sendAckOk { state := st, sessions := ss } tx

/-- The dispatch of `handle_client` on the type of a packet. -/
def handlePacket (lib : Crates) (tx : Option CanalError) (authToken : Option String)
    (st : ClientState) (ss : SessionManager) (store : MemoryEventStore) (p : Packet) : Progress :=
  let known := { st with unknownPacketCount := 0 }
  match p with
  | .clientAuthentication body => .done (handleAuth lib tx authToken st ss body)
  | p =>
    if !st.authenticated then
      .done (Outcome.sendAckErr { state := st, sessions := ss } tx "not authenticated")
    else match p with
      | .subscription body => .done (handleSub lib tx known ss body)
      | .get body => handleGet tx known ss store body
      | .clientAck body => .done (handleClientAck known ss body)
      | .clientRollback body => .done (handleClientRollback known ss body)
      | .heartbeat => .done (handleHeartbeat tx known ss)
      | _ =>
        let st := { st with unknownPacketCount := st.unknownPacketCount + 1 }
        if 10 ≤ st.unknownPacketCount then
          .done (Outcome.fail { state := st, sessions := ss }
            (.protocol "too many unknown packets"))
        else .done { state := st, sessions := ss }

end Canal
