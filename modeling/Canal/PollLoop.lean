import Canal.Client
import Canal.Dialogue

namespace Canal
set_option autoImplicit true

/-- The settings of a client. -/
structure CanalClient where
  clientId : UInt64
  destination : String := "example"
  filter : String := ".*\\..*"

namespace CanalClient

def clientAuth (client : CanalClient) : ClientAuth :=
  { password := [], destination := client.destination, clientId := toString client.clientId,
    filter := client.filter, startTimestamp := 0 }

def sub (client : CanalClient) : Sub :=
  { destination := client.destination, clientId := toString client.clientId,
    filter := client.filter }

end CanalClient

/-- Where `connect`, `subscribe` and the poll loop stand: before each write, before each read, and
between the entries of an answer. -/
inductive ClientTask
  | connecting
  | authenticating
  | connected
  | subscribing
  | polling
  | awaiting
  | forwarding (batchId : Int64) (entries : List Proto.Entry)
  | stopped

namespace ClientTask

/-- The frame the client writes next, and where it goes on. -/
def next (client : CanalClient) : ClientTask → Option (Frame × ClientTask)
  | connecting => some (.packet (.clientAuthentication (.ok client.clientAuth)), authenticating)
  | connected => some (.packet (.subscription (.ok client.sub)), subscribing)
  | polling => some (.fetch 100, awaiting)
  | forwarding batchId [] => some (.ack batchId, polling)
  | _ => none

/-- What the client makes of a frame; the server writes no other packet types, so that the loop
never backs off. The Ack that answers the Sub is not looked into. -/
def got : ClientTask → Response → ClientTask
  | authenticating, .ack ack => if ack.errorMessage.isEmpty then connected else stopped
  | subscribing, .ack _ => polling
  | awaiting, .messages m => forwarding m.batchId m.messages
  | _, _ => stopped

def reads : ClientTask → Bool
  | authenticating | subscribing | awaiting => true
  | _ => false

end ClientTask

/-- The consumer's side of an entry. -/
def WireCrates.item (lib : WireCrates) (entry : Proto.Entry) : Except CanalError CanalEvent :=
  entryBytesToEvent lib (lib.encodeEntry entry)

/-- A batch and the session under whose filter it is answered. -/
structure ReadBatch where
  session : Option ClientSession
  events : Events

/-- What the consumer is due for a batch: the decoded entry of each event that passes the filter. -/
def ReadBatch.items (lib : WireCrates) (batch : ReadBatch) : List (Except CanalError CanalEvent) :=
  (batch.events.events.filter fun e => sessionPasses lib.toCrates batch.session e.fullName).map
    fun e => (canalEventToEntry lib.toCrates e).bind lib.item

/-- What happens in a run: the server takes up a batch it has read from the store or accepts an ack,
the client puts an item on the channel of `CanalEventStream` or writes an ack. -/
inductive Note
  | read (batch : ReadBatch)
  | placed (item : Except CanalError CanalEvent)
  | ackSent (batchId : Int64)
  | accepted (clientId : String) (pos : LogPosition)

def Note.ofEffect : Effect → Option Note
  | .updateAck cid pos => some (.accepted cid pos)
  | _ => none

def Note.ofFrame : Frame → List Note
  | .packet (.clientAck (.ok ack)) => [.ackSent ack.batchId]
  | _ => []

/-- The batch that connection 0 takes up: `handle_get` looks up the session it filters by when it
has the batch in hand. -/
def Server.takenUp (s : Server) : Action → List Note
  | .answer 0 _ =>
    match (s.conns 0).phase with
    | .answer cid events =>
      if events.isEmpty then [] else [.read { session := s.sessions.get cid, events }]
    | _ => []
  | _ => []

/-- The client is connection 0 of the server. A direction of the byte channel is the queue of the
frames that have been written to it: the codec reads them back one by one however the bytes are
cut. -/
structure ClientServer where
  server : Server
  task : ClientTask := .connecting
  toServer : List Frame := []
  toClient : List Response := []

/-- A step of one party. `ok` and `consumer` say whether a write, a read or the send to the consumer
succeeds; `elsewhere` is a put, or a step of another connection. -/
inductive Move
  | elsewhere (a : Action)
  | send (ok : Bool)
  | place (consumer : Bool)
  | read (ok : Bool)
  | abort
  | receive (tx : Option CanalError)
  | lose (frame : Frame)
  | arm
  | check
  | wake
  | timeout
  | answer (tx : Option CanalError)

def Frame.isLoss : Frame → Bool
  | .endOfStream | .idleTimeout | .transportError _ => true
  | _ => false

namespace ClientServer

def new (capacity : Nat) (authToken : Option String) (debugAssertions : Bool) : ClientServer :=
  { server := .new capacity authToken debugAssertions }

/-- A step of the server; what it writes to connection 0 goes into the channel. -/
def serve (lib : WireCrates) (s : ClientServer) (a : Action) : ClientServer × List Note :=
  let r := s.server.step lib.toCrates a
  let es := trace 0 r.2
  ({ s with server := r.1, toClient := s.toClient ++ responses es },
    s.server.takenUp a ++ es.filterMap Note.ofEffect)

def step (lib : WireCrates) (client : CanalClient) (s : ClientServer) (m : Move) :
    ClientServer × List Note :=
  match m with
  | .elsewhere a => if a.actor = some 0 then (s, []) else s.serve lib a
  | .send ok =>
    match s.task.next client with
    | some (frame, task) =>
      if ok then ({ s with task, toServer := s.toServer ++ [frame] }, Note.ofFrame frame)
      else ({ s with task := .stopped }, [])
    | none => (s, [])
  | .place consumer =>
    match s.task with
    | .forwarding batchId (entry :: entries) =>
      if consumer then
        ({ s with task := .forwarding batchId entries }, [.placed (lib.item entry)])
      else ({ s with task := .stopped }, [])
    | _ => (s, [])
  | .read ok =>
    if s.task.reads then
      if ok then
        match s.toClient with
        | r :: rs => ({ s with task := s.task.got r, toClient := rs }, [])
        | [] => (s, [])
      else ({ s with task := .stopped }, [])
    else (s, [])
  | .abort => ({ s with task := .stopped }, [])
  | .receive tx =>
    match s.toServer, (s.server.conns 0).phase with
    | frame :: frames, .frame => { s with toServer := frames }.serve lib (.receive 0 frame tx)
    | _, _ => (s, [])
  | .lose frame => if frame.isLoss then s.serve lib (.receive 0 frame none) else (s, [])
  | .arm => s.serve lib (.arm 0)
  | .check => s.serve lib (.check 0)
  | .wake => s.serve lib (.wake 0)
  | .timeout => s.serve lib (.timeout 0)
  | .answer tx => s.serve lib (.answer 0 tx)

end ClientServer

/-- The batches read so far. -/
def readBatches (notes : List Note) : List ReadBatch :=
  notes.filterMap fun
    | .read batch => some batch
    | _ => none

/-- What has been put on the channel of the consumer so far. -/
def placedItems (notes : List Note) : List (Except CanalError CanalEvent) :=
  notes.filterMap fun
    | .placed item => some item
    | _ => none

end Canal
