import Canal.Lib.Protobuf
import Canal.Messages

namespace Canal
set_option autoImplicit true

open Protobuf

namespace Proto

/-- `Packet`: its type and its encoded body. -/
structure RawPacket where
  type : Int32 := 0
  body : List UInt8 := []
deriving DecidableEq

/-- `Messages` with its entries as they travel, each encoded by itself. -/
structure RawMessages where
  batchId : Int64 := 0
  messages : List (List UInt8) := []
deriving DecidableEq

/-- `PacketType::Messages`. -/
def packetTypeMessages : Int32 := 7

end Proto

/-- The third-party code of both sides: the crates of the server and the coders `prost` generates
for the other messages. -/
structure WireCrates extends Crates where
  decodeRowChange : List UInt8 → Decoded Proto.RowChange
  encodeEntry : Proto.Entry → List UInt8
  decodeEntry : List UInt8 → Decoded Proto.Entry
  encodeMessages : Proto.RawMessages → List UInt8
  encodePacket : Proto.RawPacket → List UInt8

namespace Schema

/-- A schema lists the fields of a message by their numbers in `canal-proto`. -/
def column : Protobuf.Schema Proto.Column where
  empty :=
    { sqlType := 0, name := "", isKey := false, updated := false, isNullPresent := none,
      value := "", mysqlType := "" }
  fields m :=
    scalar (m.sqlType = 0) 2 (ofInt32 m.sqlType) ++ (scalar (m.name = "") 3 (ofString m.name) ++
    (scalar (!m.isKey) 4 (ofBool m.isKey) ++ (scalar (!m.updated) 5 (ofBool m.updated) ++
    (optional (m.isNullPresent.map ofBool) 6 ++ (scalar (m.value = "") 8 (ofString m.value) ++
    scalar (m.mysqlType = "") 10 (ofString m.mysqlType))))))
  merge m f :=
    match f.number, f.value with
    | 2, .varint n => some { m with sqlType := toInt32 n }
    | 3, .bytes b => (readString b).map fun s => { m with name := s }
    | 4, .varint n => some { m with isKey := toBool n }
    | 5, .varint n => some { m with updated := toBool n }
    | 6, .varint n => some { m with isNullPresent := some (toBool n) }
    | 8, .bytes b => (readString b).map fun s => { m with value := s }
    | 10, .bytes b => (readString b).map fun s => { m with mysqlType := s }
    | _, _ => if f.number ∈ [2, 3, 4, 5, 6, 8, 10] then none else some m

theorem column_lawful : column.Lawful := by
  intro m
  apply foldlM_append_some { column.empty with sqlType := m.sqlType }
  · apply foldlM_scalar <;> simp +contextual [column, ofInt32, ofInt64]
  apply foldlM_append_some { column.empty with sqlType := m.sqlType, name := m.name }
  · apply foldlM_scalar <;> simp +contextual [column, ofString]
  apply foldlM_append_some { column.empty with
    sqlType := m.sqlType, name := m.name, isKey := m.isKey }
  · apply foldlM_scalar <;> simp +contextual [column, ofBool]
  apply foldlM_append_some { column.empty with
    sqlType := m.sqlType, name := m.name, isKey := m.isKey, updated := m.updated }
  · apply foldlM_scalar <;> simp +contextual [column, ofBool]
  apply foldlM_append_some { m with value := "", mysqlType := "" }
  · apply foldlM_optional <;> simp +contextual [column, ofBool]
  apply foldlM_append_some { m with mysqlType := "" }
  · apply foldlM_scalar <;> simp +contextual [column, ofString]
  · apply foldlM_scalar
    · intro h
      rw [← of_decide_eq_true h]
    · simp [column, ofString]

def header : Protobuf.Schema Proto.Header where
  empty :=
    { logfileName := "", logfileOffset := 0, serverId := 0, executeTime := 0,
      sourceTypePresent := none, schemaName := "", tableName := "", eventLength := 0,
      eventTypePresent := none, gtid := "" }
  fields m :=
    scalar (m.logfileName = "") 2 (ofString m.logfileName) ++
    (scalar (m.logfileOffset = 0) 3 (ofInt64 m.logfileOffset) ++
    (scalar (m.serverId = 0) 4 (ofInt64 m.serverId) ++
    (scalar (m.executeTime = 0) 6 (ofInt64 m.executeTime) ++
    (optional (m.sourceTypePresent.map ofInt32) 7 ++
    (scalar (m.schemaName = "") 8 (ofString m.schemaName) ++
    (scalar (m.tableName = "") 9 (ofString m.tableName) ++
    (scalar (m.eventLength = 0) 10 (ofInt64 m.eventLength) ++
    (optional (m.eventTypePresent.map ofInt32) 11 ++
    scalar (m.gtid = "") 13 (ofString m.gtid)))))))))
  merge m f :=
    match f.number, f.value with
    | 2, .bytes b => (readString b).map fun s => { m with logfileName := s }
    | 3, .varint n => some { m with logfileOffset := toInt64 n }
    | 4, .varint n => some { m with serverId := toInt64 n }
    | 6, .varint n => some { m with executeTime := toInt64 n }
    | 7, .varint n => some { m with sourceTypePresent := some (toInt32 n) }
    | 8, .bytes b => (readString b).map fun s => { m with schemaName := s }
    | 9, .bytes b => (readString b).map fun s => { m with tableName := s }
    | 10, .varint n => some { m with eventLength := toInt64 n }
    | 11, .varint n => some { m with eventTypePresent := some (toInt32 n) }
    | 13, .bytes b => (readString b).map fun s => { m with gtid := s }
    | _, _ => if f.number ∈ [2, 3, 4, 6, 7, 8, 9, 10, 11, 13] then none else some m

theorem header_lawful : header.Lawful := by
  intro m
  apply foldlM_append_some { header.empty with logfileName := m.logfileName }
  · apply foldlM_scalar <;> simp +contextual [header, ofString]
  apply foldlM_append_some { header.empty with
    logfileName := m.logfileName, logfileOffset := m.logfileOffset }
  · apply foldlM_scalar <;> simp +contextual [header, ofInt64]
  apply foldlM_append_some { header.empty with
    logfileName := m.logfileName, logfileOffset := m.logfileOffset, serverId := m.serverId }
  · apply foldlM_scalar <;> simp +contextual [header, ofInt64]
  apply foldlM_append_some { header.empty with
    logfileName := m.logfileName, logfileOffset := m.logfileOffset, serverId := m.serverId
    executeTime := m.executeTime }
  · apply foldlM_scalar <;> simp +contextual [header, ofInt64]
  apply foldlM_append_some { m with
    schemaName := "", tableName := "", eventLength := 0, eventTypePresent := none, gtid := "" }
  · apply foldlM_optional <;> simp +contextual [header, ofInt32, ofInt64]
  apply foldlM_append_some { m with
    tableName := "", eventLength := 0, eventTypePresent := none, gtid := "" }
  · apply foldlM_scalar <;> simp +contextual [header, ofString]
  apply foldlM_append_some { m with
    eventLength := 0, eventTypePresent := none, gtid := "" }
  · apply foldlM_scalar <;> simp +contextual [header, ofString]
  apply foldlM_append_some { m with eventTypePresent := none, gtid := "" }
  · apply foldlM_scalar <;> simp +contextual [header, ofInt64]
  apply foldlM_append_some { m with gtid := "" }
  · apply foldlM_optional <;> simp +contextual [header, ofInt32, ofInt64]
  · apply foldlM_scalar
    · intro h
      rw [← of_decide_eq_true h]
    · simp [header, ofString]

def rowData : Protobuf.Schema Proto.RowData where
  empty := {}
  fields m :=
    repeated (m.beforeColumns.map fun c => .bytes (column.encode c)) 1 ++
    repeated (m.afterColumns.map fun c => .bytes (column.encode c)) 2
  merge m f :=
    match f.number, f.value with
    | 1, .bytes b => (column.decode b).map fun c =>
      { m with beforeColumns := m.beforeColumns ++ [c] }
    | 2, .bytes b => (column.decode b).map fun c =>
      { m with afterColumns := m.afterColumns ++ [c] }
    | _, _ => if f.number ∈ [1, 2] then none else some m

theorem rowData_lawful : rowData.Lawful := by
  intro m
  apply foldlM_append_some { rowData.empty with beforeColumns := m.beforeColumns }
  · apply foldlM_repeated (fun l => ({ beforeColumns := l } : Proto.RowData)) rfl rfl
    intro l c
    simp [rowData, column_lawful.decode_encode]
  · apply foldlM_repeated (fun l => ({ m with afterColumns := l } : Proto.RowData)) rfl rfl
    intro l c
    simp [rowData, column_lawful.decode_encode]

def rowChange : Protobuf.Schema Proto.RowChange where
  empty := {}
  fields m :=
    optional (m.eventTypePresent.map ofInt32) 2 ++ (optional (m.isDdlPresent.map ofBool) 10 ++
    (scalar (m.sql = "") 11 (ofString m.sql) ++
    (repeated (m.rowDatas.map fun d => .bytes (rowData.encode d)) 12 ++
    scalar (m.ddlSchemaName = "") 14 (ofString m.ddlSchemaName))))
  merge m f :=
    match f.number, f.value with
    | 2, .varint n => some { m with eventTypePresent := some (toInt32 n) }
    | 10, .varint n => some { m with isDdlPresent := some (toBool n) }
    | 11, .bytes b => (readString b).map fun s => { m with sql := s }
    | 12, .bytes b => (rowData.decode b).map fun d => { m with rowDatas := m.rowDatas ++ [d] }
    | 14, .bytes b => (readString b).map fun s => { m with ddlSchemaName := s }
    | _, _ => if f.number ∈ [2, 10, 11, 12, 14] then none else some m

theorem rowChange_lawful : rowChange.Lawful := by
  intro m
  apply foldlM_append_some { rowChange.empty with eventTypePresent := m.eventTypePresent }
  · apply foldlM_optional <;> simp +contextual [rowChange, ofInt32, ofInt64]
  apply foldlM_append_some { m with sql := "", rowDatas := [], ddlSchemaName := "" }
  · apply foldlM_optional <;> simp +contextual [rowChange, ofBool]
  apply foldlM_append_some { m with rowDatas := [], ddlSchemaName := "" }
  · apply foldlM_scalar <;> simp +contextual [rowChange, ofString]
  apply foldlM_append_some { m with ddlSchemaName := "" }
  · apply foldlM_repeated
      (fun l => ({ m with rowDatas := l, ddlSchemaName := "" } : Proto.RowChange)) rfl rfl
    intro l d
    simp [rowChange, rowData_lawful.decode_encode]
  · apply foldlM_scalar
    · intro h
      rw [← of_decide_eq_true h]
    · simp [rowChange, ofString]

def entry : Protobuf.Schema Proto.Entry where
  empty := { header := none, storeValue := [] }
  fields m :=
    optional (m.header.map fun h => .bytes (header.encode h)) 1 ++
    scalar m.storeValue.isEmpty 3 (.bytes m.storeValue)
  merge m f :=
    match f.number, f.value with
    | 1, .bytes b => (header.mergeInto (m.header.getD header.empty) b).map fun h =>
      { m with header := some h }
    | 3, .bytes b => some { m with storeValue := b }
    | _, _ => if f.number ∈ [1, 3] then none else some m

theorem entry_lawful : entry.Lawful := by
  intro m
  apply foldlM_append_some { m with storeValue := [] }
  · apply foldlM_optional
    · intro h
      rw [h]
      rfl
    · intro h hh
      have hd : header.mergeInto header.empty (header.encode h) = some h :=
        header_lawful.decode_encode h
      simp [entry, hd, hh]
  · apply foldlM_scalar
    · intro h
      rw [← List.isEmpty_iff.1 h]
    · simp [entry]

def messages : Protobuf.Schema Proto.RawMessages where
  empty := {}
  fields m :=
    scalar (m.batchId = 0) 1 (ofInt64 m.batchId) ++ repeated (m.messages.map .bytes) 2
  merge m f :=
    match f.number, f.value with
    | 1, .varint n => some { m with batchId := toInt64 n }
    | 2, .bytes b => some { m with messages := m.messages ++ [b] }
    | _, _ => if f.number ∈ [1, 2] then none else some m

def packet : Protobuf.Schema Proto.RawPacket where
  empty := {}
  fields m :=
    scalar (m.type = 0) 3 (ofInt32 m.type) ++ scalar m.body.isEmpty 5 (.bytes m.body)
  merge m f :=
    match f.number, f.value with
    | 3, .varint n => some { m with type := toInt32 n }
    | 5, .bytes b => some { m with body := b }
    | _, _ => if f.number ∈ [3, 5] then none else some m

end Schema

/-- What the callers of `prost` rely on: decoding undoes encoding, and a set oneof field is always
written. -/
structure WireCrates.Lawful (lib : WireCrates) : Prop where
  entry : ∀ m, lib.decodeEntry (lib.encodeEntry m) = .ok m
  rowChange : ∀ m, lib.decodeRowChange (lib.encodeRowChange m) = .ok m
  oneof : ∀ m : Proto.RowChange, m.eventTypePresent.isSome → lib.encodeRowChange m ≠ []

/-- `T::decode` by a schema. -/
def Schema.decoded (S : Protobuf.Schema M) (src : List UInt8) : Decoded M :=
  (S.decode src).elim (.error "failed to decode Protobuf message") .ok

theorem Schema.decoded_encode {S : Protobuf.Schema M} (h : S.Lawful) (m : M) :
    Schema.decoded S (S.encode m) = .ok m := by
  rw [decoded, h.decode_encode]
  rfl

/-- The crates with the coders of the schemas. -/
def WireCrates.protobuf : WireCrates :=
  { Crates.literal with
    encodeRowChange := Schema.rowChange.encode
    decodeRowChange := Schema.decoded Schema.rowChange
    encodeEntry := Schema.entry.encode
    decodeEntry := Schema.decoded Schema.entry
    encodeMessages := Schema.messages.encode
    encodePacket := Schema.packet.encode }

theorem WireCrates.protobuf_lawful : WireCrates.protobuf.Lawful where
  entry := Schema.decoded_encode Schema.entry_lawful
  rowChange := Schema.decoded_encode Schema.rowChange_lawful
  oneof m h := by
    obtain ⟨type, ht⟩ := Option.isSome_iff_exists.1 h
    intro hnil
    have hf : some (Schema.rowChange.fields m) = some [] :=
      (Protobuf.decode_encode _).symm.trans (congrArg Protobuf.decode hnil)
    simp [Schema.rowChange, ht, Protobuf.optional] at hf

end Canal
