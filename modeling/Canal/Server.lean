import Canal.Lib.Run
import Canal.Handlers
import Canal.StoreHistory

namespace Canal
set_option autoImplicit true

open KeyedLog

/-- Where the task of a connection stands: in front of its next frame, inside the `get_batch` call
of a `handle_get`, behind that call with its batch in hand, or at its end. -/
inductive Phase
  | frame
  | get (clientId : String) (call : GetBatch)
  | answer (clientId : String) (events : Events)
  | closed (result : Except CanalError Unit)

structure Connection where
  state : ClientState := {}
  phase : Phase := .frame

def Connection.notify (conn : Connection) : Connection :=
  match conn.phase with
  | .get cid call => { conn with phase := .get cid call.notify }
  | _ => conn

/-- One store and one session table, shared by any number of connections. -/
structure Server where
  store : MemoryEventStore
  sessions : SessionManager
  authToken : Option String
  debugAssertions : Bool
  conns : Nat → Connection

/-- A step of one party. A `get_batch` call is a party of its own steps, and so is what `handle_get`
does with the batch, so that puts and other connections can move at every point of them. `tx` is the
error of the transport, if it refuses the answer that the step would send. -/
inductive Action
  | putBatch (events : List CanalEvent)
  | receive (c : Nat) (frame : Frame) (tx : Option CanalError)
  | arm (c : Nat)
  | check (c : Nat)
  | wake (c : Nat)
  | timeout (c : Nat)
  | answer (c : Nat) (tx : Option CanalError)

namespace Frame

/-- An authentication without token. -/
def login (clientId filter : String) (startTimestamp : Int64) : Frame :=
  .packet (.clientAuthentication (.ok
    { password := [], destination := "example", clientId, filter, startTimestamp }))

def fetch (n : Int32) : Frame := .packet (.get (.ok { fetchSize := n }))

def ack (batchId : Int64) : Frame := .packet (.clientAck (.ok { batchId }))

def rollback : Frame := .packet (.clientRollback (.ok ()))

end Frame

namespace Server

/-- A server before its first connection. -/
def new (capacity : Nat) (authToken : Option String) (debugAssertions : Bool) : Server :=
  { store := .new capacity, sessions := .new, authToken, debugAssertions, conns := fun _ => {} }

def setConn (s : Server) (c : Nat) (conn : Connection) : Server :=
  { s with conns := Function.update s.conns c conn }

/-- The end of a handler: its result decides whether the loop goes on. -/
def settle (s : Server) (c : Nat) (o : Outcome) : Server × List (Nat × Effect) :=
  let phase := match o.result with
    | .ok () => .frame
    | .error e => .closed (.error e)
  ({ s with sessions := o.sessions }.setConn c { state := o.state, phase },
    o.effects.map (c, ·))

/-- The code after the loop of `handle_client`. -/
def leave (s : Server) (c : Nat) : Server × List (Nat × Effect) :=
  let conn := s.conns c
  let s' := s.setConn c { conn with phase := .closed (.ok ()) }
  match conn.state.clientId with
  | some cid => ({ s' with sessions := s.sessions.unregister cid }, [(c, .unregister cid)])
  | none => (s', [])

/-- One turn of the loop of `handle_client`. -/
def receive (lib : Crates) (s : Server) (c : Nat) (frame : Frame) (tx : Option CanalError) :
    Server × List (Nat × Effect) :=
  let conn := s.conns c
  match frame with
  | .endOfStream => s.leave c
  | .idleTimeout => s.leave c
  | .transportError e => (s.setConn c { conn with phase := .closed (.error e) }, [])
  | .keepalive => (s, [])
  | .undecodable message => (s.setConn c { conn with
      phase := .closed (.error (.protocol ("failed to decode Packet: " ++ message))) }, [])
  | .packet p =>
    match handlePacket lib tx s.authToken conn.state s.sessions s.store p with
    | .done o => s.settle c o
    | .getBatch st cid call => (s.setConn c { state := st, phase := .get cid call }, [])

/-- The call of connection `c` moves to another stage. -/
def setStage (s : Server) (c : Nat) (cid : String) (call : GetBatch) (stage : GetBatchStage) :
    Server :=
  s.setConn c { s.conns c with phase := .get cid { call with stage } }

/-- The call of connection `c` returns; what `handle_get` notes of the batch is the connection's
own. -/
def hand (s : Server) (c : Nat) (cid : String) (start : LogPosition) (events : Events) :
    Server × List (Nat × Effect) :=
  (s.setConn c { state := (s.conns c).state.served events, phase := .answer cid events },
    [(c, .getBatch start events)])

/-- One turn of the loop of `get_batch` that found the lock free. -/
def check (s : Server) (c : Nat) (cid : String) (call : GetBatch) (notified : Bool) :
    Server × List (Nat × Effect) :=
  match s.store.lockedRead call.start call.batchSize with
  | (store, some events) => { s with store }.hand c cid call.start events
  | (store, none) => ({ s with store }.setStage c cid call (.waiting notified), [])

def step (lib : Crates) (s : Server) (a : Action) : Server × List (Nat × Effect) :=
  match a with
  | .putBatch events =>
    let o := s.store.putBatch s.debugAssertions events
    let conns := if o.notified then fun c => (s.conns c).notify else s.conns
    ({ s with store := o.store, conns }, [])
  | .receive c frame tx =>
    match (s.conns c).phase with
    | .frame => s.receive lib c frame tx
    | _ => (s, [])
  | .arm c =>
    match (s.conns c).phase with
    | .get cid call =>
      match call.stage with
      | .loopHead => (s.setStage c cid call (.armed false), [])
      | _ => (s, [])
    | _ => (s, [])
  | .check c =>
    match (s.conns c).phase with
    | .get cid call =>
      match call.stage with
      | .armed notified => s.check c cid call notified
      | _ => (s, [])
    | _ => (s, [])
  | .wake c =>
    match (s.conns c).phase with
    | .get cid call =>
      match call.stage with
      | .waiting true => (s.setStage c cid call .loopHead, [])
      | _ => (s, [])
    | _ => (s, [])
  | .timeout c =>
    match (s.conns c).phase with
    | .get cid call =>
      match call.stage with
      | .waiting _ => s.hand c cid call.start (.new 0)
      | _ => (s, [])
    | _ => (s, [])
  | .answer c tx =>
    match (s.conns c).phase with
    | .answer cid events =>
      s.settle c (answerGet lib tx (s.conns c).state s.sessions cid events)
    | _ => (s, [])

section Step

variable {s : Server} (lib : Crates) (tx : Option CanalError)

theorem step_packet_done {o : Outcome} (hf : (s.conns c).phase = .frame)
    (h : handlePacket lib tx s.authToken (s.conns c).state s.sessions s.store p = .done o) :
    s.step lib (.receive c (.packet p) tx) = s.settle c o := by
  simp only [step, hf, receive, h]

theorem step_packet_call (hf : (s.conns c).phase = .frame)
    (h : handlePacket lib tx s.authToken (s.conns c).state s.sessions s.store p =
      .getBatch st cid call) :
    s.step lib (.receive c (.packet p) tx) =
      (s.setConn c { state := st, phase := .get cid call }, []) := by
  simp only [step, hf, receive, h]

theorem step_loopHead (hp : (s.conns c).phase = .get cid call) (hst : call.stage = .loopHead) :
    s.step lib (.arm c) = (s.setStage c cid call (.armed false), []) := by
  simp only [step, hp, hst]

theorem step_armed (hp : (s.conns c).phase = .get cid call)
    (hst : call.stage = .armed notified) :
    s.step lib (.check c) = s.check c cid call notified := by
  simp only [step, hp, hst]

theorem step_answer (hp : (s.conns c).phase = .answer cid events) :
    s.step lib (.answer c tx) =
      s.settle c (answerGet lib tx (s.conns c).state s.sessions cid events) := by
  simp only [step, hp]

end Step

end Server

/-- A consumer that reads one row. -/
def readOne : List Action :=
  [.receive 0 (.login "app" "" 0) none, .putBatch [storedEvent 100], .receive 0 (.fetch 10) none,
    .arm 0, .check 0, .answer 0 none]

end Canal
