import Canal.Types

namespace Canal
set_option autoImplicit true

/-- `MySqlValue`; a floating point number is known by its bits. -/
inductive MySqlValue
  | tinyInt (n : UInt8)
  | smallInt (n : UInt16)
  | mediumInt (n : UInt32)
  | int (n : UInt32)
  | bigInt (n : UInt64)
  | float (bits : UInt32)
  | double (bits : UInt64)
  | decimal (s : String)
  | string (s : String)
  | blob (bytes : List UInt8)
  | bit (bits : List Bool)
  | enum (n : UInt32)
  | set (n : UInt64)
  | year (n : UInt16)
  | date (year : UInt16) (month day : UInt8)
  | time (hour : Int16) (minute second : UInt8) (millis : UInt32)
  | dateTime (year : UInt16) (month day hour minute second : UInt8) (millis : UInt32)
  | timestamp (n : UInt64)
deriving DecidableEq

/-- The row data of the decoder: a cell without a value is NULL. -/
structure BinlogRow where
  cells : List (Option MySqlValue)
deriving DecidableEq

structure UpdateRowData where
  beforeUpdate : BinlogRow
  afterUpdate : BinlogRow
deriving DecidableEq

structure TableMetadata where
  columnNames : Option (List String)
  simplePrimaryKeys : Option (List UInt32)
  primaryKeysWithPrefix : Option (List (UInt32 × UInt32))
deriving DecidableEq

structure TableMapEvent where
  tableId : UInt64
  databaseName : String
  tableName : String
  columnTypes : List UInt8
  nullBitmap : List Bool
  tableMetadata : Option TableMetadata
deriving DecidableEq

structure EventHeader where
  timestamp : UInt32
  serverId : UInt32
  nextEventPosition : UInt32
deriving DecidableEq

/-- A decoded event; a GTID is known by its text. -/
inductive BinlogEvent
  | tableMap (e : TableMapEvent)
  | rotate (binlogFilename : String)
  | heartbeat
  | xid
  | query (databaseName sqlStatement : String)
  | writeRows (tableId : UInt64) (rows : List BinlogRow)
  | updateRows (tableId : UInt64) (rows : List UpdateRowData)
  | deleteRows (tableId : UInt64) (rows : List BinlogRow)
  | mySqlGtid (gtid : String)
  | mariaDbGtid (gtid : String)
  | other
deriving DecidableEq

structure ColumnInfo where
  name : String
  columnType : Int32
  isKey : Bool
  isNullable : Bool
deriving DecidableEq

structure TableMapCache where
  names : UInt64 → Option (String × String)
  columns : UInt64 → Option (List ColumnInfo)

namespace TableMapCache

def new : TableMapCache := { names := fun _ => none, columns := fun _ => none }

def put (cache : TableMapCache) (tableId : UInt64) (schema table : String) : TableMapCache :=
  { columns := fun id => if id = tableId then none else cache.columns id
    names := fun id => if id = tableId then some (schema, table) else cache.names id }

def putWithColumns (cache : TableMapCache) (tableId : UInt64) (schema table : String)
    (cols : List ColumnInfo) : TableMapCache :=
  { columns := fun id => if id = tableId then some cols else cache.columns id
    names := fun id => if id = tableId then some (schema, table) else cache.names id }

def get (cache : TableMapCache) (tableId : UInt64) : Option (String × String) :=
  cache.names tableId

def getColumns (cache : TableMapCache) (tableId : UInt64) : Option (List ColumnInfo) :=
  cache.columns tableId

def clear (_ : TableMapCache) : TableMapCache := new

end TableMapCache

/-- `format!("col_{}", i)`. -/
def generatedName (i : Nat) : String := "col_" ++ toString i

/-- `is_key[idx] = true` where the index is within the vector. -/
def markKeys (isKey : List Bool) (indexes : List UInt32) : List Bool :=
  indexes.foldl (fun keys idx => keys.set idx.toNat true) isKey

def buildColumnInfos (tm : TableMapEvent) : List ColumnInfo :=
  let numCols := tm.columnTypes.length
  let columnNames := (tm.tableMetadata.bind TableMetadata.columnNames).getD
    ((List.range numCols).map generatedName)
  let isKey := List.replicate numCols false
  let isKey := match tm.tableMetadata with
    | some metadata =>
      let isKey := markKeys isKey (metadata.simplePrimaryKeys.getD [])
      markKeys isKey ((metadata.primaryKeysWithPrefix.getD []).map Prod.fst)
    | none => isKey
  (List.range numCols).map fun i =>
    { name := columnNames[i]?.getD (generatedName i)
      columnType := (tm.columnTypes[i]?.getD 0).toUInt32.toInt32
      isKey := isKey[i]?.getD false
      isNullable := tm.nullBitmap[i]?.getD true }

/-- How the standard library prints floating point numbers. -/
structure FloatText where
  float : UInt32 → String
  double : UInt64 → String

/-- `{:0width}` of an integer. -/
def zeroPadded (width : Nat) (n : Int) : String :=
  let sign := if n < 0 then "-" else ""
  let digits := toString n.natAbs
  sign ++ String.ofList (List.replicate (width - sign.length - digits.length) '0') ++ digits

/-- `{:02x}` of a byte. -/
def hexByte (b : UInt8) : String :=
  String.ofList [Nat.digitChar (b.toNat / 16), Nat.digitChar (b.toNat % 16)]

def mySqlValueToString (floats : FloatText) : MySqlValue → String
  | .tinyInt n => toString n
  | .smallInt n => toString n
  | .mediumInt n => toString n
  | .int n => toString n
  | .bigInt n => toString n
  | .float bits => floats.float bits
  | .double bits => floats.double bits
  | .decimal s => s
  | .string s => s
  | .blob b =>
    match String.fromUTF8? ⟨b.toArray⟩ with
    | some s => s
    | none => String.join (b.map hexByte)
  | .bit bits => String.ofList (bits.map fun b => if b then '1' else '0')
  | .enum n => toString n
  | .set n => toString n
  | .year n => toString n
  | .date year month day =>
    zeroPadded 4 year.toNat ++ "-" ++ zeroPadded 2 month.toNat ++ "-" ++ zeroPadded 2 day.toNat
  | .time hour minute second _ =>
    zeroPadded 2 hour.toInt ++ ":" ++ zeroPadded 2 minute.toNat ++ ":" ++
      zeroPadded 2 second.toNat
  | .dateTime year month day hour minute second _ =>
    zeroPadded 4 year.toNat ++ "-" ++ zeroPadded 2 month.toNat ++ "-" ++ zeroPadded 2 day.toNat ++
      " " ++ zeroPadded 2 hour.toNat ++ ":" ++ zeroPadded 2 minute.toNat ++ ":" ++
      zeroPadded 2 second.toNat
  | .timestamp n => toString n

def extractColumnValues (floats : FloatText) (row : BinlogRow) (columnInfos : List ColumnInfo) :
    List ColumnValue :=
  row.cells.mapIdx fun i cell =>
    let info := columnInfos[i]?
    { name := (info.map ColumnInfo.name).getD (generatedName i)
      value := cell.map (mySqlValueToString floats)
      columnType := (info.map ColumnInfo.columnType).getD 0
      isKey := info.any ColumnInfo.isKey
      updated := false }

structure EventConverter where
  tableMap : TableMapCache

namespace EventConverter

def new : EventConverter := { tableMap := .new }

def handleTableMapEvent (c : EventConverter) (tableId : UInt64) (schema table : String)
    (columns : List ColumnInfo) : EventConverter :=
  { tableMap := c.tableMap.putWithColumns tableId schema table columns }

def getColumns (c : EventConverter) (tableId : UInt64) : Option (List ColumnInfo) :=
  c.tableMap.getColumns tableId

def clearTableMap (c : EventConverter) : EventConverter := { tableMap := c.tableMap.clear }

def notInTableMap (tableId : UInt64) : CanalError :=
  .notFound ("table_id " ++ toString tableId ++
    " not found in TableMap — did you call handle_table_map_event?")

/-- `Debug for EventType`. -/
def eventTypeDebug : EventType → String
  | .insert => "Insert"
  | .update => "Update"
  | .delete => "Delete"
  | .ddl => "Ddl"
  | .query => "Query"
  | .rotate => "Rotate"
  | .xid => "Xid"
  | .heartbeat => "Heartbeat"
  | .unknown value => "Unknown(" ++ toString value ++ ")"

def handleRowEvent (c : EventConverter) (tableId : UInt64) (eventType : EventType)
    (columns : List ColumnValue) : Except CanalError RowChange :=
  match c.tableMap.get tableId with
  | none => .error (notInTableMap tableId)
  | some (schema, table) =>
    match eventType with
    | .insert =>
      .ok { tableName := table, schemaName := schema, before := none, after := some { columns }
            dmlType := .insert }
    | .delete =>
      .ok { tableName := table, schemaName := schema, before := some { columns }, after := none
            dmlType := .delete }
    | other =>
      .error (.internal ("handle_row_event does not support " ++ eventTypeDebug other ++
        "; use handle_update_row_event"))

/-- A column of the after image counts as updated unless the before image has the same value
there. -/
def markUpdated (before after : List ColumnValue) : List ColumnValue :=
  after.mapIdx fun i col =>
    { col with updated := before[i]?.all fun b => decide (b.value ≠ col.value) }

def handleUpdateRowEvent (c : EventConverter) (tableId : UInt64)
    (beforeColumns afterColumns : List ColumnValue) : Except CanalError RowChange :=
  match c.tableMap.get tableId with
  | none => .error (notInTableMap tableId)
  | some (schema, table) =>
    .ok { tableName := table, schemaName := schema
          before := some { columns := beforeColumns }
          after := some { columns := markUpdated beforeColumns afterColumns }
          dmlType := .update }

end EventConverter

end Canal
