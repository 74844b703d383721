import Canal.Replication

namespace Canal
set_option autoImplicit true

/-- The file of the latest Rotate. -/
def journalAt (startJournal : String) (past : List BinlogEvent) : String :=
  (past.filterMap BinlogEvent.rotateFilename).getLast?.getD startJournal

/-- The latest GTID. -/
def gtidAt (past : List BinlogEvent) : Option String :=
  (past.filterMap BinlogEvent.gtidText).getLast?

/-- The TableMap event for a table id, if that is what the event is. -/
def BinlogEvent.tableMapOf (tableId : UInt64) : BinlogEvent → Option TableMapEvent
  | .tableMap e => if e.tableId = tableId then some e else none
  | _ => none

/-- The latest TableMap for the table id since the last Rotate. -/
def tableMapAt (past : List BinlogEvent) (tableId : UInt64) : Option TableMapEvent :=
  (past.reverse.takeWhile fun e => e.rotateFilename.isNone).findSome?
    (BinlogEvent.tableMapOf tableId)

namespace TableMapEvent

/-- The name of column `i`: the one of the metadata, or a generated one. -/
def columnName (tm : TableMapEvent) (i : Nat) : String :=
  ((tm.tableMetadata.bind TableMetadata.columnNames).bind fun names => names[i]?).getD
    (generatedName i)

def isKeyColumn (tm : TableMapEvent) (i : Nat) : Bool :=
  tm.tableMetadata.any fun metadata =>
    (metadata.simplePrimaryKeys.getD []).any (fun idx => idx.toNat = i) ||
      (metadata.primaryKeysWithPrefix.getD []).any fun idx => idx.1.toNat = i

/-- A cell of column `i`; the table may have fewer columns than the row has cells. -/
def cellValue (floats : FloatText) (tm : TableMapEvent) (i : Nat) (cell : Option MySqlValue) :
    ColumnValue :=
  match tm.columnTypes[i]? with
  | some columnType =>
    { name := tm.columnName i, value := cell.map (mySqlValueToString floats)
      columnType := columnType.toUInt32.toInt32, isKey := tm.isKeyColumn i, updated := false }
  | none =>
    { name := generatedName i, value := cell.map (mySqlValueToString floats)
      columnType := 0, isKey := false, updated := false }

def rowValues (floats : FloatText) (tm : TableMapEvent) (row : BinlogRow) : List ColumnValue :=
  row.cells.mapIdx (tm.cellValue floats)

end TableMapEvent

/-- The items an event should come to after the events of `past`, of which it is the last. -/
def attributedItems (floats : FloatText) (startJournal : String) (past : List BinlogEvent)
    (header : EventHeader) (event : BinlogEvent) : List EventItem :=
  match event with
  | .query databaseName sqlStatement =>
    [.ok (item .ddl databaseName "" none (some (truncateDdl sqlStatement)))]
  | .writeRows tableId rows => rows.map fun row =>
    rowItem tableId .insert .insert fun tm => (none, some { columns := tm.rowValues floats row })
  | .updateRows tableId rows => rows.map fun row =>
    rowItem tableId .update .update fun tm =>
      let before := tm.rowValues floats row.beforeUpdate
      let after := tm.rowValues floats row.afterUpdate
      (some { columns := before }, some { columns := EventConverter.markUpdated before after })
  | .deleteRows tableId rows => rows.map fun row =>
    rowItem tableId .delete .delete fun tm => (some { columns := tm.rowValues floats row }, none)
  | _ => []
where
  item (entryType : EventType) (schemaName tableName : String) (rowChange : Option RowChange)
      (ddlSql : Option String) : CanalEvent :=
    { journalName := journalAt startJournal past
      position := header.nextEventPosition.toUInt64
      serverId := header.serverId.toUInt64
      executeTime := header.timestamp.toUInt64.toInt64
      entryType, schemaName, tableName, rowChange, ddlSql
      gtid := gtidAt past
      rawBytes := [] }
  rowItem (tableId : UInt64) (entryType : EventType) (dmlType : DmlType)
      (images : TableMapEvent → Option RowData × Option RowData) : EventItem :=
    match tableMapAt past tableId with
    | none => .error (EventConverter.notInTableMap tableId)
    | some tm =>
      .ok (item entryType tm.databaseName tm.tableName
        (some { tableName := tm.tableName, schemaName := tm.databaseName
                before := (images tm).1, after := (images tm).2, dmlType }) none)

/-- The items a stream should come to. -/
def attributedStream (floats : FloatText) (startJournal : String) (past : List BinlogEvent) :
    List (EventHeader × BinlogEvent) → List EventItem
  | [] => []
  | (header, event) :: events =>
    attributedItems floats startJournal (past ++ [event]) header event ++
      attributedStream floats startJournal (past ++ [event]) events

theorem journalAt_concat (startJournal : String) (past : List BinlogEvent) (event : BinlogEvent) :
    journalAt startJournal (past ++ [event]) =
      event.rotateFilename.getD (journalAt startJournal past) := by
  cases h : event.rotateFilename with
  | none => simp [journalAt, List.filterMap_append, h]
  | some name => simp [journalAt, List.filterMap_append, h]

theorem gtidAt_concat (past : List BinlogEvent) (event : BinlogEvent) :
    gtidAt (past ++ [event]) = event.gtidText.or (gtidAt past) := by
  cases h : event.gtidText with
  | none => simp [gtidAt, List.filterMap_append, h]
  | some gtid => simp [gtidAt, List.filterMap_append, h]

theorem tableMapAt_concat (past : List BinlogEvent) (event : BinlogEvent) (tableId : UInt64) :
    tableMapAt (past ++ [event]) tableId =
      if event.rotateFilename.isNone then (event.tableMapOf tableId).or (tableMapAt past tableId)
      else none := by
  rw [tableMapAt, List.reverse_append, List.reverse_singleton, List.singleton_append,
    List.takeWhile_cons]
  cases event.rotateFilename with
  | none =>
    simp only [Option.isNone_none, if_true, List.findSome?_cons]
    cases event.tableMapOf tableId <;> rfl
  | some name => rfl

theorem length_markKeys (keys : List Bool) (indexes : List UInt32) :
    (markKeys keys indexes).length = keys.length := by
  unfold markKeys
  induction indexes generalizing keys with
  | nil => rfl
  | cons idx indexes ih =>
    rw [List.foldl_cons, ih, List.length_set]

theorem getElem?_markKeys (keys : List Bool) (indexes : List UInt32) (hi : i < keys.length) :
    (markKeys keys indexes)[i]? =
      some (keys[i]?.getD false || indexes.any fun idx => idx.toNat = i) := by
  unfold markKeys
  induction indexes generalizing keys with
  | nil =>
    rw [List.foldl_nil, List.getElem?_eq_getElem hi]
    simp
  | cons idx indexes ih =>
    rw [List.foldl_cons, ih _ (by rwa [List.length_set]), List.getElem?_set]
    by_cases hidx : idx.toNat = i
    · simp [hidx, hi]
    · simp [hidx]

theorem getElem?_buildColumnInfos (tm : TableMapEvent) (i : Nat) :
    (buildColumnInfos tm)[i]? = tm.columnTypes[i]?.map fun columnType =>
      { name := tm.columnName i
        columnType := columnType.toUInt32.toInt32
        isKey := tm.isKeyColumn i
        isNullable := tm.nullBitmap[i]?.getD true } := by
  by_cases hi : i < tm.columnTypes.length
  · have hrange : (List.range tm.columnTypes.length)[i]? = some i := List.getElem?_range hi
    have hname : ((tm.tableMetadata.bind TableMetadata.columnNames).getD
        ((List.range tm.columnTypes.length).map generatedName))[i]?.getD (generatedName i) =
        tm.columnName i := by
      unfold TableMapEvent.columnName
      cases tm.tableMetadata.bind TableMetadata.columnNames with
      | none => simp only [Option.getD_none, List.getElem?_map, hrange, Option.map_some,
          Option.getD_some, Option.bind_none]
      | some names => rfl
    have hfalse : (List.replicate tm.columnTypes.length false)[i]? = some false := by
      rw [List.getElem?_replicate, if_pos hi]
    simp only [buildColumnInfos, List.getElem?_map, hrange, hname, Option.map_some,
      List.getElem?_eq_getElem hi, Option.getD_some]
    congr 2
    unfold TableMapEvent.isKeyColumn
    cases tm.tableMetadata with
    | none => simp only [hfalse, Option.getD_some, Option.any_none]
    | some metadata =>
      simp only [Option.any_some]
      rw [getElem?_markKeys, getElem?_markKeys, hfalse]
      · simp [List.any_map, Function.comp_def]
      · rwa [List.length_replicate]
      · rwa [length_markKeys, List.length_replicate]
  · rw [List.getElem?_eq_none (not_lt.1 hi), List.getElem?_eq_none]
    · rfl
    · rw [buildColumnInfos, List.length_map, List.length_range]
      exact not_lt.1 hi

theorem extractColumnValues_buildColumnInfos (floats : FloatText) (tm : TableMapEvent)
    (row : BinlogRow) :
    extractColumnValues floats row (buildColumnInfos tm) = tm.rowValues floats row := by
  unfold extractColumnValues TableMapEvent.rowValues
  congr 1
  funext i cell
  rw [getElem?_buildColumnInfos]
  unfold TableMapEvent.cellValue
  cases tm.columnTypes[i]? <;> rfl

/-- The loop knows what the events so far say, and its channel is open. -/
structure Replication.Follows (startJournal : String) (past : List BinlogEvent)
    (s : Replication) : Prop where
  file : s.currentBinlogFile = journalAt startJournal past
  gtid : s.currentGtid = gtidAt past
  names : ∀ tableId, s.converter.tableMap.get tableId =
    (tableMapAt past tableId).map fun tm => (tm.databaseName, tm.tableName)
  columns : ∀ tableId, s.converter.getColumns tableId =
    (tableMapAt past tableId).map buildColumnInfos
  channel : s.tx.remaining = none
  running : s.ended = false

theorem EventChannel.sendEach_open (tx : EventChannel) (h : tx.remaining = none)
    (items : List EventItem) :
    tx.sendEach items = (tx, items.map fun item => { item, accepted := true }) := by
  obtain ⟨remaining⟩ := tx
  cases h
  induction items with
  | nil => rfl
  | cons item items ih =>
    simp only [sendEach, blockingSend, Option.map_none, ih, List.map_cons]

theorem converterAfter_tables (converter : EventConverter) (past : List BinlogEvent)
    (hn : ∀ tableId, converter.tableMap.get tableId =
      (tableMapAt past tableId).map fun tm => (tm.databaseName, tm.tableName))
    (hc : ∀ tableId, converter.getColumns tableId =
      (tableMapAt past tableId).map buildColumnInfos)
    (event : BinlogEvent) (tableId : UInt64) :
    (DefaultBinlogConnector.converterAfter converter event).tableMap.get tableId =
      (tableMapAt (past ++ [event]) tableId).map (fun tm => (tm.databaseName, tm.tableName)) ∧
    (DefaultBinlogConnector.converterAfter converter event).getColumns tableId =
      (tableMapAt (past ++ [event]) tableId).map buildColumnInfos := by
  rw [tableMapAt_concat]
  cases event with
  | tableMap e =>
    simp only [DefaultBinlogConnector.converterAfter, EventConverter.handleTableMapEvent,
      EventConverter.getColumns, TableMapCache.putWithColumns, TableMapCache.get,
      TableMapCache.getColumns, BinlogEvent.rotateFilename, BinlogEvent.tableMapOf,
      Option.isNone_none, if_true]
    by_cases hid : e.tableId = tableId
    · simp [hid]
    · simp only [if_neg (Ne.symm hid), if_neg hid, Option.none_or]
      exact ⟨hn tableId, hc tableId⟩
  | rotate name => exact ⟨rfl, rfl⟩
  | _ => exact ⟨hn tableId, hc tableId⟩

theorem eventItems_eq (floats : FloatText) (startJournal : String) (header : EventHeader)
    (converter : EventConverter) (past : List BinlogEvent)
    (hn : ∀ tableId, converter.tableMap.get tableId =
      (tableMapAt past tableId).map fun tm => (tm.databaseName, tm.tableName))
    (hc : ∀ tableId, converter.getColumns tableId =
      (tableMapAt past tableId).map buildColumnInfos)
    (event : BinlogEvent) :
    DefaultBinlogConnector.eventItems floats header event converter
        (journalAt startJournal (past ++ [event])) (gtidAt (past ++ [event])) =
      attributedItems floats startJournal (past ++ [event]) header event := by
  cases event with
  | query => rfl
  | writeRows tableId rows | deleteRows tableId rows =>
    have htm := tableMapAt_concat past (.writeRows tableId rows) tableId
    have htm' := tableMapAt_concat past (.deleteRows tableId rows) tableId
    simp only [BinlogEvent.rotateFilename, BinlogEvent.tableMapOf, Option.isNone_none, if_true,
      Option.none_or] at htm htm'
    simp only [DefaultBinlogConnector.eventItems, attributedItems]
    apply List.map_congr_left
    intro row _
    simp only [DefaultBinlogConnector.eventItems.insertItem,
      DefaultBinlogConnector.eventItems.deleteItem, DefaultBinlogConnector.eventItems.columns,
      attributedItems.rowItem, EventConverter.handleRowEvent, hn, hc, htm, htm']
    cases tableMapAt past tableId with
    | none => rfl
    | some tm =>
      simp only [Option.map_some, Option.getD_some, extractColumnValues_buildColumnInfos]
      rfl
  | updateRows tableId rows =>
    have htm := tableMapAt_concat past (.updateRows tableId rows) tableId
    simp only [BinlogEvent.rotateFilename, BinlogEvent.tableMapOf, Option.isNone_none, if_true,
      Option.none_or] at htm
    simp only [DefaultBinlogConnector.eventItems, attributedItems]
    apply List.map_congr_left
    intro row _
    simp only [DefaultBinlogConnector.eventItems.updateItem,
      DefaultBinlogConnector.eventItems.columns, attributedItems.rowItem,
      EventConverter.handleUpdateRowEvent, hn, hc, htm]
    cases tableMapAt past tableId with
    | none => rfl
    | some tm =>
      simp only [Option.map_some, Option.getD_some, extractColumnValues_buildColumnInfos]
      rfl
  | _ => rfl

theorem arrivals_accepted (items : List EventItem) (header : EventHeader) (event : BinlogEvent) :
    arrivals ((items.map fun item => ({ item, accepted := true } : Offer)).map
      ReplicationNote.offered ++ [.committed header event]) = items := by
  rw [arrivals_append]
  induction items with
  | nil => rfl
  | cons item items ih =>
    rw [List.map_cons, List.map_cons]
    exact congrArg (List.cons item) ih

theorem Replication.Follows.step (h : Follows startJournal past s) (floats : FloatText)
    (header : EventHeader) (event : BinlogEvent) :
    Follows startJournal (past ++ [event]) (s.step floats (.item header event)).1 ∧
      arrivals (s.step floats (.item header event)).2 =
        attributedItems floats startJournal (past ++ [event]) header event := by
  have hfile : event.rotateFilename.getD s.currentBinlogFile =
      journalAt startJournal (past ++ [event]) := by rw [h.file, journalAt_concat]
  have hgtid : event.gtidText.or s.currentGtid = gtidAt (past ++ [event]) := by
    rw [h.gtid, gtidAt_concat]
  have hitems := eventItems_eq floats startJournal header s.converter past h.names h.columns event
  have hstep : s.step floats (.item header event) = s.handle floats header event := by
    simp only [Replication.step, h.running, Bool.false_eq_true, if_false]
  rw [hstep, s.handle_eq]
  simp only [hfile, hgtid, hitems, EventChannel.sendEach_open s.tx h.channel]
  constructor
  · constructor
    · rfl
    · rfl
    · exact fun tableId =>
        (converterAfter_tables s.converter past h.names h.columns event tableId).1
    · exact fun tableId =>
        (converterAfter_tables s.converter past h.names h.columns event tableId).2
    · exact h.channel
    · exact h.running
  · exact arrivals_accepted ..

theorem Replication.Follows.run (h : Follows startJournal past s) (floats : FloatText)
    (events : List (EventHeader × BinlogEvent)) :
    arrivals (Run.outputs (Replication.step floats) s
      (events.map fun e => Pull.item e.1 e.2)) =
      attributedStream floats startJournal past events := by
  induction events generalizing past s with
  | nil => rfl
  | cons e events ih =>
    obtain ⟨hnext, hitems⟩ := h.step floats e.1 e.2
    rw [List.map_cons, Run.outputs, arrivals_append, hitems, ih hnext]
    rfl

end Canal
