import Canal.Binlog
import Canal.Lib.Run

namespace Canal
set_option autoImplicit true

/-- An item of the event channel. -/
abbrev EventItem := Except CanalError CanalEvent

/-- The sending end of the event channel: how many more items are taken before the receiver is
dropped, none when it stays. -/
structure EventChannel where
  remaining : Option Nat := none
deriving DecidableEq

/-- A `blocking_send` and whether the channel took the item. -/
structure Offer where
  item : EventItem
  accepted : Bool
deriving DecidableEq

/-- The channel took the item, and the item is an event. -/
def Offer.good (offer : Offer) : Bool := offer.accepted && offer.item.isOk

namespace EventChannel

def blockingSend (tx : EventChannel) (item : EventItem) : EventChannel × Offer :=
  match tx.remaining with
  | some 0 => (tx, { item, accepted := false })
  | remaining => ({ remaining := remaining.map fun n => n - 1 }, { item, accepted := true })

/-- One `blocking_send` after the other; a refusal is only logged. -/
def sendEach (tx : EventChannel) : List EventItem → EventChannel × List Offer
  | [] => (tx, [])
  | item :: items =>
    let (tx, offer) := tx.blockingSend item
    let (tx, offers) := tx.sendEach items
    (tx, offer :: offers)

end EventChannel

def ddlSqlMaxLen : Nat := 64 * 1024

/-- The limit is compared with the bytes of the statement and cuts off characters. -/
def truncateDdl (sql : String) : String :=
  if ddlSqlMaxLen < sql.utf8ByteSize then String.ofList (sql.toList.take ddlSqlMaxLen) else sql

/-- What `process_and_send` leaves. -/
structure Processed where
  converter : EventConverter
  tx : EventChannel
  offers : List Offer
  result : Except CanalError Unit

namespace DefaultBinlogConnector

/-- The event made of a converted row. -/
def rowEvent (header : EventHeader) (currentBinlogFile : String) (gtid : Option String)
    (entryType : EventType) (change : RowChange) : CanalEvent :=
  { journalName := currentBinlogFile
    position := header.nextEventPosition.toUInt64
    serverId := header.serverId.toUInt64
    executeTime := header.timestamp.toUInt64.toInt64
    entryType
    schemaName := change.schemaName
    tableName := change.tableName
    rowChange := some change
    ddlSql := none
    gtid
    rawBytes := [] }

def sendRowEvents (floats : FloatText) (header : EventHeader) (currentBinlogFile : String)
    (entryType : EventType) (tableId : UInt64) (rows : List BinlogRow) (converter : EventConverter)
    (gtid : Option String) (tx : EventChannel) : Processed :=
  let columns := (converter.getColumns tableId).getD []
  let (tx, offers) := tx.sendEach (rows.map fun row =>
    let values := extractColumnValues floats row columns
    (converter.handleRowEvent tableId entryType values).map
      (rowEvent header currentBinlogFile gtid entryType))
  { converter, tx, offers, result := .ok () }

def sendUpdateEvents (floats : FloatText) (header : EventHeader) (currentBinlogFile : String)
    (tableId : UInt64) (rows : List UpdateRowData) (converter : EventConverter)
    (gtid : Option String) (tx : EventChannel) : Processed :=
  let columns := (converter.getColumns tableId).getD []
  let (tx, offers) := tx.sendEach (rows.map fun row =>
    let beforeValues := extractColumnValues floats row.beforeUpdate columns
    let afterValues := extractColumnValues floats row.afterUpdate columns
    (converter.handleUpdateRowEvent tableId beforeValues afterValues).map
      (rowEvent header currentBinlogFile gtid .update))
  { converter, tx, offers, result := .ok () }

def processAndSend (floats : FloatText) (header : EventHeader) (event : BinlogEvent)
    (converter : EventConverter) (currentBinlogFile : String) (gtid : Option String)
    (tx : EventChannel) : Processed :=
  match event with
  | .tableMap e =>
    let columns := buildColumnInfos e
    { converter := converter.handleTableMapEvent e.tableId e.databaseName e.tableName columns
      tx, offers := [], result := .ok () }
  | .rotate _ => { converter := converter.clearTableMap, tx, offers := [], result := .ok () }
  | .heartbeat | .xid => { converter, tx, offers := [], result := .ok () }
  | .query databaseName sqlStatement =>
    let canalEvent : CanalEvent :=
      { journalName := currentBinlogFile
        position := header.nextEventPosition.toUInt64
        serverId := header.serverId.toUInt64
        executeTime := header.timestamp.toUInt64.toInt64
        entryType := .ddl
        schemaName := databaseName
        tableName := ""
        rowChange := none
        ddlSql := some (truncateDdl sqlStatement)
        gtid
        rawBytes := [] }
    let (tx, offer) := tx.blockingSend (.ok canalEvent)
    { converter, tx, offers := [offer], result := .ok () }
  | .writeRows tableId rows =>
    sendRowEvents floats header currentBinlogFile .insert tableId rows converter gtid tx
  | .updateRows tableId rows =>
    sendUpdateEvents floats header currentBinlogFile tableId rows converter gtid tx
  | .deleteRows tableId rows =>
    sendRowEvents floats header currentBinlogFile .delete tableId rows converter gtid tx
  | .mySqlGtid _ | .mariaDbGtid _ | .other => { converter, tx, offers := [], result := .ok () }

end DefaultBinlogConnector

/-- What pulling at the stream of the decoder yields, and whether the token is cancelled when the
loop looks at it. -/
inductive Pull
  | item (header : EventHeader) (event : BinlogEvent) (cancelled : Bool := false)
  | streamError (message : String) (cancelled : Bool := false)
  | panicked (message : String)
  | done

/-- What the loop shows: a `blocking_send` or a `client.commit`. -/
inductive ReplicationNote
  | offered (offer : Offer)
  | committed (header : EventHeader) (event : BinlogEvent)

/-- The variables of the loop. -/
structure Replication where
  currentBinlogFile : String
  currentGtid : Option String := none
  lastPos : UInt64 := 0
  converter : EventConverter := .new
  consecutiveErrors : Nat := 0
  lastErrorPos : Option (String × UInt64) := none
  tx : EventChannel
  ended : Bool := false

def maxConsecutiveErrors : Nat := 3

namespace BinlogEvent

/-- The text of a GTID event. -/
def gtidText : BinlogEvent → Option String
  | .mySqlGtid gtid => some gtid
  | .mariaDbGtid gtid => some gtid
  | _ => none

/-- The file named by a Rotate event. -/
def rotateFilename : BinlogEvent → Option String
  | .rotate binlogFilename => some binlogFilename
  | _ => none

end BinlogEvent

namespace Replication

/-- The loop after `replicate` has succeeded. -/
def start (startJournal : String) (tx : EventChannel) : Replication :=
  { currentBinlogFile := startJournal, tx }

/-- The body of the loop for a decoded event. -/
def handle (floats : FloatText) (s : Replication) (header : EventHeader) (event : BinlogEvent) :
    Replication × List ReplicationNote :=
  let position := header.nextEventPosition.toUInt64
  let s := { s with
    lastPos := position
    currentGtid := event.gtidText.or s.currentGtid
    currentBinlogFile := event.rotateFilename.getD s.currentBinlogFile }
  let p := DefaultBinlogConnector.processAndSend floats header event s.converter
    s.currentBinlogFile s.currentGtid s.tx
  let s := { s with converter := p.converter, tx := p.tx }
  let offered := p.offers.map ReplicationNote.offered
  match p.result with
  | .ok () =>
    ({ s with consecutiveErrors := 0, lastErrorPos := none },
      offered ++ [.committed header event])
  | .error e =>
    let currentPos := (s.currentBinlogFile, position)
    let errors := if s.lastErrorPos = some currentPos then s.consecutiveErrors + 1 else 1
    let (tx, offer) := s.tx.blockingSend (.error e)
    let s := { s with consecutiveErrors := errors, lastErrorPos := some currentPos, tx }
    if !offer.accepted then ({ s with ended := true }, offered ++ [.offered offer])
    else if maxConsecutiveErrors ≤ errors then
      ({ s with consecutiveErrors := 0, lastErrorPos := none },
        offered ++ [.offered offer, .committed header event])
    else (s, offered ++ [.offered offer, .committed header event])

/-- One turn of the loop. -/
def step (floats : FloatText) (s : Replication) (pull : Pull) :
    Replication × List ReplicationNote :=
  if s.ended then (s, [])
  else match pull with
    | .done => ({ s with ended := true }, [])
    | .panicked message =>
      let (tx, offer) := s.tx.blockingSend (.error (.protocol ("binlog decoder panicked near " ++
        s.currentBinlogFile ++ ":" ++ toString s.lastPos ++ ": " ++ message)))
      ({ s with tx, ended := true }, [.offered offer])
    | .streamError message cancelled =>
      if cancelled then ({ s with ended := true }, [])
      else
        let (tx, offer) := s.tx.blockingSend
          (.error (.protocol ("binlog stream error: " ++ message)))
        ({ s with tx, ended := !offer.accepted }, [.offered offer])
    | .item header event cancelled =>
      if cancelled then ({ s with ended := true }, []) else s.handle floats header event

end Replication

/-- The items that arrived in the channel. -/
def arrivals (notes : List ReplicationNote) : List EventItem :=
  notes.filterMap fun
    | .offered offer => if offer.accepted then some offer.item else none
    | .committed .. => none

@[simp] theorem arrivals_append : arrivals (os ++ os') = arrivals os ++ arrivals os' :=
  List.filterMap_append ..

namespace DefaultBinlogConnector

/-- The items of one event, in the order in which they are sent. -/
def eventItems (floats : FloatText) (header : EventHeader) (event : BinlogEvent)
    (converter : EventConverter) (currentBinlogFile : String) (gtid : Option String) :
    List EventItem :=
  match event with
  | .query databaseName sqlStatement =>
    [.ok
      { journalName := currentBinlogFile
        position := header.nextEventPosition.toUInt64
        serverId := header.serverId.toUInt64
        executeTime := header.timestamp.toUInt64.toInt64
        entryType := .ddl
        schemaName := databaseName
        tableName := ""
        rowChange := none
        ddlSql := some (truncateDdl sqlStatement)
        gtid
        rawBytes := [] }]
  | .writeRows tableId rows => rows.map (insertItem tableId)
  | .updateRows tableId rows => rows.map (updateItem tableId)
  | .deleteRows tableId rows => rows.map (deleteItem tableId)
  | _ => []
where
  columns (tableId : UInt64) : List ColumnInfo := (converter.getColumns tableId).getD []
  insertItem (tableId : UInt64) (row : BinlogRow) : EventItem :=
    (converter.handleRowEvent tableId .insert
      (extractColumnValues floats row (columns tableId))).map
      (rowEvent header currentBinlogFile gtid .insert)
  updateItem (tableId : UInt64) (row : UpdateRowData) : EventItem :=
    (converter.handleUpdateRowEvent tableId
      (extractColumnValues floats row.beforeUpdate (columns tableId))
      (extractColumnValues floats row.afterUpdate (columns tableId))).map
      (rowEvent header currentBinlogFile gtid .update)
  deleteItem (tableId : UInt64) (row : BinlogRow) : EventItem :=
    (converter.handleRowEvent tableId .delete
      (extractColumnValues floats row (columns tableId))).map
      (rowEvent header currentBinlogFile gtid .delete)

/-- What an event does to the converter. -/
def converterAfter (converter : EventConverter) : BinlogEvent → EventConverter
  | .tableMap e =>
    converter.handleTableMapEvent e.tableId e.databaseName e.tableName (buildColumnInfos e)
  | .rotate _ => converter.clearTableMap
  | _ => converter

theorem processAndSend_eq (floats : FloatText) (header : EventHeader) (event : BinlogEvent)
    (converter : EventConverter) (file : String) (gtid : Option String) (tx : EventChannel) :
    processAndSend floats header event converter file gtid tx =
      { converter := converterAfter converter event
        tx := (tx.sendEach (eventItems floats header event converter file gtid)).1
        offers := (tx.sendEach (eventItems floats header event converter file gtid)).2
        result := .ok () } := by
  cases event <;> rfl

end DefaultBinlogConnector

theorem Replication.handle_eq (floats : FloatText) (s : Replication) (header : EventHeader)
    (event : BinlogEvent) :
    s.handle floats header event =
      let file := event.rotateFilename.getD s.currentBinlogFile
      let gtid := event.gtidText.or s.currentGtid
      let sends := s.tx.sendEach
        (DefaultBinlogConnector.eventItems floats header event s.converter file gtid)
      ({ s with
        currentBinlogFile := file
        currentGtid := gtid
        lastPos := header.nextEventPosition.toUInt64
        converter := DefaultBinlogConnector.converterAfter s.converter event
        consecutiveErrors := 0
        lastErrorPos := none
        tx := sends.1 },
        sends.2.map ReplicationNote.offered ++ [.committed header event]) := by
  simp only [handle, DefaultBinlogConnector.processAndSend_eq]

end Canal
