import Canal.Types

namespace Canal
set_option autoImplicit true

/-- What `T::decode` makes of the bytes of a body: the message or the text of the decode error. -/
abbrev Decoded (α : Type) := Except String α

structure ClientAuth where
  password : List UInt8
  destination : String
  clientId : String
  filter : String
  startTimestamp : Int64
deriving DecidableEq

structure Sub where
  destination : String
  clientId : String
  filter : String
deriving DecidableEq

structure Get where
  fetchSize : Int32
deriving DecidableEq

structure ClientAck where
  batchId : Int64
deriving DecidableEq

/-- A decoded packet by the branch of `handle_client` its type selects. -/
inductive Packet
  | clientAuthentication (body : Decoded ClientAuth)
  | subscription (body : Decoded Sub)
  | get (body : Decoded Get)
  | clientAck (body : Decoded ClientAck)
  | clientRollback (body : Decoded Unit)
  | heartbeat
  | unknown (type : Int32)

/-- What one turn of the read loop of `handle_client` finds. -/
inductive Frame
  | endOfStream
  | idleTimeout
  | transportError (e : CanalError)
  | keepalive
  | undecodable (message : String)
  | packet (p : Packet)

namespace Proto

structure Header where
  logfileName : String
  logfileOffset : Int64
  serverId : Int64
  executeTime : Int64
  sourceTypePresent : Option Int32
  schemaName : String
  tableName : String
  eventLength : Int64
  eventTypePresent : Option Int32
  gtid : String
deriving DecidableEq

structure Column where
  sqlType : Int32
  name : String
  isKey : Bool
  updated : Bool
  isNullPresent : Option Bool
  value : String
  mysqlType : String
deriving DecidableEq

structure RowData where
  beforeColumns : List Column := []
  afterColumns : List Column := []
deriving DecidableEq

structure RowChange where
  eventTypePresent : Option Int32 := none
  isDdlPresent : Option Bool := none
  sql : String := ""
  rowDatas : List RowData := []
  ddlSchemaName : String := ""
deriving DecidableEq

structure Entry where
  header : Option Header
  storeValue : List UInt8
deriving DecidableEq

structure Ack where
  errorCodePresent : Option Int32 := none
  errorMessage : String := ""
deriving DecidableEq

structure Messages where
  batchId : Int64 := 0
  messages : List Entry := []
deriving DecidableEq

/-- The numbers of the wire enumeration `EventType` that the server sends. -/
def eventTypeInsert : Int32 := 1
def eventTypeUpdate : Int32 := 2
def eventTypeDelete : Int32 := 3
def eventTypeQuery : Int32 := 7
def eventTypeXacommit : Int32 := 13
def eventTypeMheartbeat : Int32 := 15

/-- `Type::Mysql`. -/
def typeMysql : Int32 := 2

end Proto

/-- A packet the server sends. -/
inductive Response
  | ack (a : Proto.Ack)
  | messages (m : Proto.Messages)
deriving DecidableEq

/-- The third-party code the server calls: the `regex` crate, with and without a size limit, and
the encoder `prost` generates. -/
structure Crates where
  regexNew : String → Except String Unit
  regexBuild : String → Nat → Except String Unit
  isMatch : String → String → Bool
  encodeRowChange : Proto.RowChange → List UInt8

/-- The crates on the patterns without special characters and the default one, and on row changes
that carry an event type only. -/
def Crates.literal : Crates :=
  { regexNew := fun _ => .ok ()
    regexBuild := fun _ _ => .ok ()
    isMatch := fun pattern table =>
      if pattern = ".*\\..*" then '.' ∈ table.toList else pattern.toList <:+: table.toList
    encodeRowChange := fun change =>
      match change.eventTypePresent with
      | some type => [0x10, type.toUInt32.toUInt8]
      | none => [] }

def columnValueToProto (col : ColumnValue) (updated : Bool) : Proto.Column :=
  { name := col.name
    value := col.value.getD ""
    isKey := col.isKey
    updated
    mysqlType := toString col.columnType
    sqlType := col.columnType
    isNullPresent := if col.value.isNone then some true else none }

/-- The wire number of an event type; the event types without one cannot be sent. -/
def eventTypeToProto : EventType → Except CanalError Int32
  | .insert => .ok Proto.eventTypeInsert
  | .update => .ok Proto.eventTypeUpdate
  | .delete => .ok Proto.eventTypeDelete
  | .ddl => .ok Proto.eventTypeQuery
  | .query => .ok Proto.eventTypeQuery
  | .rotate => .ok Proto.eventTypeQuery
  | .xid => .ok Proto.eventTypeXacommit
  | .heartbeat => .ok Proto.eventTypeMheartbeat
  | .unknown v => .error (.protocol
      ("unknown event type " ++ toString v ++ " — cannot serialize to proto"))

def dmlTypeToProto : DmlType → Int32
  | .insert => Proto.eventTypeInsert
  | .update => Proto.eventTypeUpdate
  | .delete => Proto.eventTypeDelete

/-- The row change an event carries on the wire. -/
def rowChangeOf (event : CanalEvent) (eventType : Int32) : Proto.RowChange :=
  match event.rowChange, event.ddlSql with
  | some change, _ =>
    { eventTypePresent := some (dmlTypeToProto change.dmlType)
      rowDatas := [{
        beforeColumns := (change.before.elim [] RowData.columns).map (columnValueToProto · false)
        afterColumns := (change.after.elim [] RowData.columns).map fun col =>
          columnValueToProto col col.updated }] }
  | none, some ddlSql =>
    { sql := ddlSql
      isDdlPresent := some true
      eventTypePresent := some Proto.eventTypeQuery
      ddlSchemaName := event.schemaName }
  | none, none => { eventTypePresent := some eventType }

def canalEventToEntry (lib : Crates) (event : CanalEvent) : Except CanalError Proto.Entry :=
  match eventTypeToProto event.entryType with
  | .error e => .error e
  | .ok eventType =>
    let storeValue := lib.encodeRowChange (rowChangeOf event eventType)
    let eventLength :=
      if !storeValue.isEmpty then storeValue.length else event.rawBytes.length
    .ok {
      header := some {
        logfileName := event.journalName
        logfileOffset := event.position.toInt64
        serverId := event.serverId.toInt64
        executeTime := event.executeTime
        sourceTypePresent := some Proto.typeMysql
        schemaName := event.schemaName
        tableName := event.tableName
        eventLength := Int64.ofNat eventLength
        eventTypePresent := some eventType
        gtid := event.gtid.getD "" }
      storeValue }

/-- The name under which a filter sees an entry. -/
def Proto.Entry.fullName (entry : Proto.Entry) : Option String :=
  entry.header.map fun h => h.schemaName ++ "." ++ h.tableName

theorem canalEventToEntry_fullName (h : canalEventToEntry lib event = .ok entry) :
    entry.fullName = some event.fullName := by
  unfold canalEventToEntry at h
  cases ht : eventTypeToProto event.entryType with
  | error e => simp [ht] at h
  | ok t =>
    simp only [ht, Except.ok.injEq] at h
    subst entry
    rfl

end Canal
