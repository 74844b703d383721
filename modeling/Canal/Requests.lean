import Canal.Wire

namespace Canal
set_option autoImplicit true

open Protobuf

namespace Proto

/-- `Packet` as it is read; what is written sets its type and its body only. -/
structure Packet where
  magicNumberPresent : Option Int32 := none
  versionPresent : Option Int32 := none
  type : Int32 := 0
  compressionPresent : Option Int32 := none
  body : List UInt8 := []
deriving DecidableEq

structure ClientAuth where
  username : String := ""
  password : List UInt8 := []
  netReadTimeoutPresent : Option Int32 := none
  netWriteTimeoutPresent : Option Int32 := none
  destination : String := ""
  clientId : String := ""
  filter : String := ""
  startTimestamp : Int64 := 0
deriving DecidableEq

structure Get where
  destination : String := ""
  clientId : String := ""
  fetchSize : Int32 := 0
  timeoutPresent : Option Int64 := none
  unitPresent : Option Int32 := none
  autoAckPresent : Option Bool := none
deriving DecidableEq

/-- `ClientAck`, which has the fields of `ClientRollback`. -/
structure ClientAck where
  destination : String := ""
  clientId : String := ""
  batchId : Int64 := 0
deriving DecidableEq

def packetTypeClientauthentication : Int32 := 2
def packetTypeAck : Int32 := 3
def packetTypeSubscription : Int32 := 4
def packetTypeGet : Int32 := 6
def packetTypeClientack : Int32 := 8
def packetTypeHeartbeat : Int32 := 11
def packetTypeClientrollback : Int32 := 12

def Packet.ofRaw (p : RawPacket) : Packet := { type := p.type, body := p.body }

/-- The fields that `handle_auth` reads. -/
def ClientAuth.read (m : ClientAuth) : Canal.ClientAuth :=
  { password := m.password, destination := m.destination, clientId := m.clientId,
    filter := m.filter, startTimestamp := m.startTimestamp }

def Get.read (m : Get) : Canal.Get := { fetchSize := m.fetchSize }

def ClientAck.read (m : ClientAck) : Canal.ClientAck := { batchId := m.batchId }

end Proto

namespace Schema

/-- `Packet` with all its fields; what is written by `packet` is read by it. -/
def wholePacket : Protobuf.Schema Proto.Packet where
  empty := {}
  fields m :=
    optional (m.magicNumberPresent.map ofInt32) 1 ++ (optional (m.versionPresent.map ofInt32) 2 ++
    (scalar (m.type = 0) 3 (ofInt32 m.type) ++ (optional (m.compressionPresent.map ofInt32) 4 ++
    scalar m.body.isEmpty 5 (.bytes m.body))))
  merge m f :=
    match f.number, f.value with
    | 1, .varint n => some { m with magicNumberPresent := some (toInt32 n) }
    | 2, .varint n => some { m with versionPresent := some (toInt32 n) }
    | 3, .varint n => some { m with type := toInt32 n }
    | 4, .varint n => some { m with compressionPresent := some (toInt32 n) }
    | 5, .bytes b => some { m with body := b }
    | _, _ => if f.number ∈ [1, 2, 3, 4, 5] then none else some m

theorem wholePacket_lawful : wholePacket.Lawful := by
  intro m
  apply foldlM_append_some { wholePacket.empty with magicNumberPresent := m.magicNumberPresent }
  · apply foldlM_optional <;> simp +contextual [wholePacket, ofInt32, ofInt64]
  apply foldlM_append_some { wholePacket.empty with
    magicNumberPresent := m.magicNumberPresent, versionPresent := m.versionPresent }
  · apply foldlM_optional <;> simp +contextual [wholePacket, ofInt32, ofInt64]
  apply foldlM_append_some { m with compressionPresent := none, body := [] }
  · apply foldlM_scalar <;> simp +contextual [wholePacket, ofInt32, ofInt64]
  apply foldlM_append_some { m with body := [] }
  · apply foldlM_optional <;> simp +contextual [wholePacket, ofInt32, ofInt64]
  · apply foldlM_scalar
    · intro h
      rw [← List.isEmpty_iff.1 h]
    · simp [wholePacket]

def clientAuth : Protobuf.Schema Proto.ClientAuth where
  empty := {}
  fields m :=
    scalar (m.username = "") 1 (ofString m.username) ++
    (scalar m.password.isEmpty 2 (.bytes m.password) ++
    (optional (m.netReadTimeoutPresent.map ofInt32) 3 ++
    (optional (m.netWriteTimeoutPresent.map ofInt32) 4 ++
    (scalar (m.destination = "") 5 (ofString m.destination) ++
    (scalar (m.clientId = "") 6 (ofString m.clientId) ++
    (scalar (m.filter = "") 7 (ofString m.filter) ++
    scalar (m.startTimestamp = 0) 8 (ofInt64 m.startTimestamp)))))))
  merge m f :=
    match f.number, f.value with
    | 1, .bytes b => (readString b).map fun s => { m with username := s }
    | 2, .bytes b => some { m with password := b }
    | 3, .varint n => some { m with netReadTimeoutPresent := some (toInt32 n) }
    | 4, .varint n => some { m with netWriteTimeoutPresent := some (toInt32 n) }
    | 5, .bytes b => (readString b).map fun s => { m with destination := s }
    | 6, .bytes b => (readString b).map fun s => { m with clientId := s }
    | 7, .bytes b => (readString b).map fun s => { m with filter := s }
    | 8, .varint n => some { m with startTimestamp := toInt64 n }
    | _, _ => if f.number ∈ [1, 2, 3, 4, 5, 6, 7, 8] then none else some m

theorem clientAuth_lawful : clientAuth.Lawful := by
  intro m
  apply foldlM_append_some { clientAuth.empty with username := m.username }
  · apply foldlM_scalar <;> simp +contextual [clientAuth, ofString]
  apply foldlM_append_some { clientAuth.empty with username := m.username, password := m.password }
  · apply foldlM_scalar
    · intro h
      rw [List.isEmpty_iff.1 h]
      rfl
    · simp [clientAuth]
  apply foldlM_append_some { clientAuth.empty with
    username := m.username, password := m.password
    netReadTimeoutPresent := m.netReadTimeoutPresent }
  · apply foldlM_optional <;> simp +contextual [clientAuth, ofInt32, ofInt64]
  apply foldlM_append_some { m with
    destination := "", clientId := "", filter := "", startTimestamp := 0 }
  · apply foldlM_optional <;> simp +contextual [clientAuth, ofInt32, ofInt64]
  apply foldlM_append_some { m with clientId := "", filter := "", startTimestamp := 0 }
  · apply foldlM_scalar <;> simp +contextual [clientAuth, ofString]
  apply foldlM_append_some { m with filter := "", startTimestamp := 0 }
  · apply foldlM_scalar <;> simp +contextual [clientAuth, ofString]
  apply foldlM_append_some { m with startTimestamp := 0 }
  · apply foldlM_scalar <;> simp +contextual [clientAuth, ofString]
  · apply foldlM_scalar
    · intro h
      rw [← of_decide_eq_true h]
    · simp [clientAuth, ofInt64]

def sub : Protobuf.Schema Sub where
  empty := { destination := "", clientId := "", filter := "" }
  fields m :=
    scalar (m.destination = "") 1 (ofString m.destination) ++
    (scalar (m.clientId = "") 2 (ofString m.clientId) ++
    scalar (m.filter = "") 7 (ofString m.filter))
  merge m f :=
    match f.number, f.value with
    | 1, .bytes b => (readString b).map fun s => { m with destination := s }
    | 2, .bytes b => (readString b).map fun s => { m with clientId := s }
    | 7, .bytes b => (readString b).map fun s => { m with filter := s }
    | _, _ => if f.number ∈ [1, 2, 7] then none else some m

theorem sub_lawful : sub.Lawful := by
  intro m
  apply foldlM_append_some { m with clientId := "", filter := "" }
  · apply foldlM_scalar <;> simp +contextual [sub, ofString]
  apply foldlM_append_some { m with filter := "" }
  · apply foldlM_scalar <;> simp +contextual [sub, ofString]
  · apply foldlM_scalar
    · intro h
      rw [← of_decide_eq_true h]
    · simp [sub, ofString]

def get : Protobuf.Schema Proto.Get where
  empty := {}
  fields m :=
    scalar (m.destination = "") 1 (ofString m.destination) ++
    (scalar (m.clientId = "") 2 (ofString m.clientId) ++
    (scalar (m.fetchSize = 0) 3 (ofInt32 m.fetchSize) ++
    (optional (m.timeoutPresent.map ofInt64) 4 ++ (optional (m.unitPresent.map ofInt32) 5 ++
    optional (m.autoAckPresent.map ofBool) 6))))
  merge m f :=
    match f.number, f.value with
    | 1, .bytes b => (readString b).map fun s => { m with destination := s }
    | 2, .bytes b => (readString b).map fun s => { m with clientId := s }
    | 3, .varint n => some { m with fetchSize := toInt32 n }
    | 4, .varint n => some { m with timeoutPresent := some (toInt64 n) }
    | 5, .varint n => some { m with unitPresent := some (toInt32 n) }
    | 6, .varint n => some { m with autoAckPresent := some (toBool n) }
    | _, _ => if f.number ∈ [1, 2, 3, 4, 5, 6] then none else some m

theorem get_lawful : get.Lawful := by
  intro m
  apply foldlM_append_some { get.empty with destination := m.destination }
  · apply foldlM_scalar <;> simp +contextual [get, ofString]
  apply foldlM_append_some { get.empty with destination := m.destination, clientId := m.clientId }
  · apply foldlM_scalar <;> simp +contextual [get, ofString]
  apply foldlM_append_some { m with
    timeoutPresent := none, unitPresent := none, autoAckPresent := none }
  · apply foldlM_scalar <;> simp +contextual [get, ofInt32, ofInt64]
  apply foldlM_append_some { m with unitPresent := none, autoAckPresent := none }
  · apply foldlM_optional <;> simp +contextual [get, ofInt64]
  apply foldlM_append_some { m with autoAckPresent := none }
  · apply foldlM_optional <;> simp +contextual [get, ofInt32, ofInt64]
  · apply foldlM_optional
    · intro h
      rw [← h]
    · intro b hb
      simp only [get, ofBool, toBool_ofBool, ← hb]

def clientAck : Protobuf.Schema Proto.ClientAck where
  empty := {}
  fields m :=
    scalar (m.destination = "") 1 (ofString m.destination) ++
    (scalar (m.clientId = "") 2 (ofString m.clientId) ++
    scalar (m.batchId = 0) 3 (ofInt64 m.batchId))
  merge m f :=
    match f.number, f.value with
    | 1, .bytes b => (readString b).map fun s => { m with destination := s }
    | 2, .bytes b => (readString b).map fun s => { m with clientId := s }
    | 3, .varint n => some { m with batchId := toInt64 n }
    | _, _ => if f.number ∈ [1, 2, 3] then none else some m

theorem clientAck_lawful : clientAck.Lawful := by
  intro m
  apply foldlM_append_some { m with clientId := "", batchId := 0 }
  · apply foldlM_scalar <;> simp +contextual [clientAck, ofString]
  apply foldlM_append_some { m with batchId := 0 }
  · apply foldlM_scalar <;> simp +contextual [clientAck, ofString]
  · apply foldlM_scalar
    · intro h
      rw [← of_decide_eq_true h]
    · simp [clientAck, ofInt64]

def ack : Protobuf.Schema Proto.Ack where
  empty := {}
  fields m :=
    optional (m.errorCodePresent.map ofInt32) 1 ++
    scalar (m.errorMessage = "") 2 (ofString m.errorMessage)
  merge m f :=
    match f.number, f.value with
    | 1, .varint n => some { m with errorCodePresent := some (toInt32 n) }
    | 2, .bytes b => (readString b).map fun s => { m with errorMessage := s }
    | _, _ => if f.number ∈ [1, 2] then none else some m

theorem ack_lawful : ack.Lawful := by
  intro m
  apply foldlM_append_some { m with errorMessage := "" }
  · apply foldlM_optional <;> simp +contextual [ack, ofInt32, ofInt64]
  · apply foldlM_scalar
    · intro h
      rw [← of_decide_eq_true h]
    · simp [ack, ofString]

theorem messages_lawful : messages.Lawful := by
  intro m
  apply foldlM_append_some { m with messages := [] }
  · apply foldlM_scalar <;> simp +contextual [messages, ofInt64]
  · apply foldlM_repeated (fun l => ({ m with messages := l } : Proto.RawMessages)) rfl rfl
    intro l b
    rfl

theorem wholePacket_encode (p : Proto.RawPacket) :
    wholePacket.encode (.ofRaw p) = packet.encode p := rfl

end Schema

end Canal
