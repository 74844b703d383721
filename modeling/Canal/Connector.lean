import Canal.Replication

namespace Canal
set_option autoImplicit true

inductive SslMode
  | disabled | ifAvailable | require | requireVerifyCa | requireVerifyFull
deriving DecidableEq

/-- The options of the replication client; `binlog` is the start position. -/
structure ReplicaOptions where
  hostname : String
  port : UInt16
  username : String
  password : String
  serverId : UInt32
  blocking : Bool
  sslMode : SslMode
  binlog : String × UInt32
deriving DecidableEq

structure DefaultBinlogConnector where
  host : String
  port : UInt16
  username : String
  password : String
  originalPassword : Option String
  serverId : UInt64
  sslMode : SslMode
  connectTimeoutSecs : UInt64
  /-- Whether there is a sender of the event channel. -/
  sender : Bool
  currentPos : Option LogPosition
  running : Bool
  /-- Whether there is a token that can cancel the replication task. -/
  cancelToken : Bool
  connected : Bool
deriving DecidableEq

/-- What `client.replicate()` comes to. It is `pending` when the timeout is over before the start
is reported. -/
inductive Replicate
  | ok
  | error (message : String)
  | panics
  | pending
deriving DecidableEq

/-- What becomes of the oneshot sender that reports the start. -/
inductive StartSignal
  | sent
  | dropped
  | waiting
deriving DecidableEq

/-- A call on the connector; a connect comes with the outcome of its replication task and the
channel that the task finds. -/
inductive ConnectorCall
  | takeReceiver
  | withChannel
  | withSslMode (mode : SslMode)
  | withConnectTimeout (secs : UInt64)
  | connect (pos : LogPosition) (replicate : Replicate) (tx : EventChannel)
  | disconnect

/-- What a call shows; `replicating` marks the moment at which the task has begun to replicate. -/
inductive ConnectorNote
  | receiver
  | panicked (message : String)
  | built (options : ReplicaOptions)
  | offered (offer : Offer)
  | replicating
  | returned (result : Except CanalError Unit)
  | disconnected
deriving DecidableEq

/-- How `run_replication` starts: a failure is put into the event channel, and reported as a start
unless the channel is closed. -/
def startReplication (replicate : Replicate) (tx : EventChannel) :
    StartSignal × List ConnectorNote :=
  match replicate with
  | .ok => (.sent, [.replicating])
  | .error message =>
    let (_, offer) := tx.blockingSend
      (.error (.binlogConnection ("failed to start binlog replication: " ++ message)))
    if offer.accepted then (.sent, [.offered offer]) else (.dropped, [.offered offer])
  | .panics => (.dropped, [])
  | .pending => (.waiting, [])

namespace DefaultBinlogConnector

def new (host : String) (port : UInt16) (username password : String) (serverId : UInt64) :
    Except CanalError DefaultBinlogConnector :=
  if 0xFFFFFFFF < serverId then
    .error (.config ("server_id " ++ toString serverId ++ " exceeds u32::MAX"))
  else
    .ok
      { host, port, username, password
        originalPassword := some password
        serverId
        sslMode := .disabled
        connectTimeoutSecs := 30
        sender := false
        currentPos := none
        running := false
        cancelToken := false
        connected := false }

def buildOptions (c : DefaultBinlogConnector) (pos : LogPosition) : ReplicaOptions :=
  { hostname := c.host
    port := c.port
    username := c.username
    password := c.password
    serverId := c.serverId.toUInt32
    blocking := true
    sslMode := c.sslMode
    binlog := (pos.journalName, pos.position.toUInt32) }

def withSslMode (c : DefaultBinlogConnector) (mode : SslMode) : DefaultBinlogConnector :=
  { c with sslMode := mode }

def withConnectTimeout (c : DefaultBinlogConnector) (secs : UInt64) : DefaultBinlogConnector :=
  { c with connectTimeoutSecs := secs }

def withChannel (c : DefaultBinlogConnector) : DefaultBinlogConnector × List ConnectorNote :=
  ({ c with sender := true }, [.receiver])

/-- `take_receiver`; its assertions panic before anything has changed. -/
def takeReceiver (c : DefaultBinlogConnector) : DefaultBinlogConnector × List ConnectorNote :=
  if c.connected then (c, [.panicked "take_receiver must be called before connect()"])
  else if c.sender then
    (c, [.panicked "take_receiver must be called instead of with_channel(), not after it"])
  else ({ c with sender := true }, [.receiver])

def connect (c : DefaultBinlogConnector) (pos : LogPosition) (replicate : Replicate)
    (tx : EventChannel) : DefaultBinlogConnector × List ConnectorNote :=
  if c.running then
    (c, [.returned (.error (.internal "already connected — disconnect first"))])
  else if !c.sender then (c, [.returned (.error (.internal "no sender configured"))])
  else
    let options := c.buildOptions pos
    let c := { c with password := "", cancelToken := true, currentPos := some pos, running := true }
    let (signal, notes) := startReplication replicate tx
    let shown := .built options :: notes
    match signal with
    | .waiting =>
      ({ c with running := false }, shown ++ [.returned (.error (.binlogConnection
        ("connection timed out after " ++ toString c.connectTimeoutSecs ++ "s")))])
    | .sent => ({ c with connected := true }, shown ++ [.returned (.ok ())])
    | .dropped => ({ c with running := false }, shown ++ [.returned (.ok ())])

def disconnect (c : DefaultBinlogConnector) : DefaultBinlogConnector × List ConnectorNote :=
  let c := { c with running := false, connected := false, sender := false, cancelToken := false }
  let password := if c.password.isEmpty then c.originalPassword.getD c.password else c.password
  ({ c with password }, [.disconnected])

def step (c : DefaultBinlogConnector) :
    ConnectorCall → DefaultBinlogConnector × List ConnectorNote
  | .takeReceiver => c.takeReceiver
  | .withChannel => c.withChannel
  | .withSslMode mode => (c.withSslMode mode, [])
  | .withConnectTimeout secs => (c.withConnectTimeout secs, [])
  | .connect pos replicate tx => c.connect pos replicate tx
  | .disconnect => c.disconnect

/-- A connect would build options. -/
def ready (c : DefaultBinlogConnector) : Bool := !c.running && c.sender

/-- What a connect does. -/
inductive Connect (c : DefaultBinlogConnector) (pos : LogPosition) (tx : EventChannel) :
    Replicate → DefaultBinlogConnector → List ConnectorNote → Prop
  | refused (replicate : Replicate) (hr : c.ready = false) (e : CanalError) :
      Connect c pos tx replicate c [.returned (.error e)]
  | started (hr : c.ready = true) :
      Connect c pos tx .ok
        { c with
          password := "", cancelToken := true, currentPos := some pos, running := true
          connected := true }
        [.built (c.buildOptions pos), .replicating, .returned (.ok ())]
  | timedOut (hr : c.ready = true) (e : CanalError) :
      Connect c pos tx .pending
        { c with password := "", cancelToken := true, currentPos := some pos, running := false }
        [.built (c.buildOptions pos), .returned (.error e)]
  | failedOpen (hr : c.ready = true) (message : String) (offer : Offer) :
      Connect c pos tx (.error message)
        { c with
          password := "", cancelToken := true, currentPos := some pos, running := true
          connected := true }
        [.built (c.buildOptions pos), .offered offer, .returned (.ok ())]
  | failedClosed (hr : c.ready = true) (message : String) (offer : Offer) :
      Connect c pos tx (.error message)
        { c with password := "", cancelToken := true, currentPos := some pos, running := false }
        [.built (c.buildOptions pos), .offered offer, .returned (.ok ())]
  | died (hr : c.ready = true) :
      Connect c pos tx .panics
        { c with password := "", cancelToken := true, currentPos := some pos, running := false }
        [.built (c.buildOptions pos), .returned (.ok ())]

theorem startReplication_error (message : String) (tx : EventChannel) :
    ∃ offer, startReplication (.error message) tx = (.sent, [.offered offer]) ∨
      startReplication (.error message) tx = (.dropped, [.offered offer]) := by
  refine ⟨(tx.blockingSend (.error (.binlogConnection
    ("failed to start binlog replication: " ++ message)))).2, ?_⟩
  simp only [startReplication]
  split
  · exact .inl rfl
  · exact .inr rfl

theorem connect_cases (c : DefaultBinlogConnector) (pos : LogPosition) (replicate : Replicate)
    (tx : EventChannel) :
    ∃ c' notes, c.connect pos replicate tx = (c', notes) ∧ Connect c pos tx replicate c' notes := by
  by_cases hrun : c.running = true
  · rw [connect, if_pos hrun]
    exact ⟨_, _, rfl, .refused replicate (by simp [ready, hrun]) _⟩
  by_cases hs : c.sender = true
  · have hready : c.ready = true := by simp [ready, hrun, hs]
    rw [connect, if_neg hrun, if_neg (by simp [hs])]
    cases replicate with
    | ok => exact ⟨_, _, rfl, .started hready⟩
    | panics => exact ⟨_, _, rfl, .died hready⟩
    | pending => exact ⟨_, _, rfl, .timedOut hready _⟩
    | error message =>
      obtain ⟨offer, h | h⟩ := startReplication_error message tx
      · simp only [h]
        exact ⟨_, _, rfl, .failedOpen hready message offer⟩
      · simp only [h]
        exact ⟨_, _, rfl, .failedClosed hready message offer⟩
  · rw [connect, if_neg hrun, if_pos (by simp [hs])]
    exact ⟨_, _, rfl, .refused replicate (by simp [ready, hs]) _⟩

theorem takeReceiver_cases (c : DefaultBinlogConnector) :
    (∃ message, c.takeReceiver = (c, [.panicked message])) ∨
      c.takeReceiver = ({ c with sender := true }, [.receiver]) := by
  rw [takeReceiver]
  split
  · exact .inl ⟨_, rfl⟩
  · split
    · exact .inl ⟨_, rfl⟩
    · exact .inr rfl

end DefaultBinlogConnector

end Canal
