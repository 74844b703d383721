import Canal.Wire

namespace Canal
set_option autoImplicit true

/-- `EventType::from_proto`. -/
def EventType.fromProto (v : Int32) : EventType :=
  if v = 1 then .insert
  else if v = 2 then .update
  else if v = 3 then .delete
  else if v = 4 then .ddl
  else if v = 5 then .query
  else if v = 7 then .ddl
  else if v = 13 then .xid
  else if v = 15 then .heartbeat
  else .unknown v

/-- An absent or foreign number stands for an insert. -/
def dmlTypeFromProto (eventTypePresent : Option Int32) : DmlType :=
  match eventTypePresent with
  | some v => if v = 1 then .insert else if v = 2 then .update else if v = 3 then .delete
    else .insert
  | none => .insert

def columnFromProto (c : Proto.Column) : ColumnValue :=
  { name := c.name
    value := if c.value.isEmpty && c.isNullPresent.isSome then none else some c.value
    columnType := c.sqlType
    isKey := c.isKey
    updated := c.updated }

/-- An image without columns is no image. -/
def rowDataFromProto (columns : List Proto.Column) : Option RowData :=
  if columns.isEmpty then none else some { columns := columns.map columnFromProto }

/-- The row change and the DDL text of a decoded `RowChange`. -/
def rowChangeFromProto (hdr : Proto.Header) (rc : Proto.RowChange) :
    Option RowChange × Option String :=
  let ddl := if rc.isDdlPresent = some true then some rc.sql else none
  let change := match ddl, rc.rowDatas with
    | none, rd :: _ => some {
        tableName := hdr.tableName
        schemaName := hdr.schemaName
        before := rowDataFromProto rd.beforeColumns
        after := rowDataFromProto rd.afterColumns
        dmlType := dmlTypeFromProto rc.eventTypePresent }
    | _, _ => none
  (change, ddl)

/-- `entry_bytes_to_event`. -/
def entryBytesToEvent (lib : WireCrates) (data : List UInt8) : Except CanalError CanalEvent :=
  match lib.decodeEntry data with
  | .error e => .error (.protocol
      ("Failed to decode Entry from " ++ toString data.length ++ " bytes: " ++ e))
  | .ok entry =>
    match entry.header with
    | none => .error (.protocol "Entry missing header")
    | some hdr =>
      -- a row change that does not decode leaves the event without one
      let (rowChange, ddlSql) := if !entry.storeValue.isEmpty then
        match lib.decodeRowChange entry.storeValue with
        | .ok rc => rowChangeFromProto hdr rc
        | .error _ => (none, none)
        else (none, none)
      .ok {
        journalName := hdr.logfileName
        position := hdr.logfileOffset.toUInt64
        serverId := hdr.serverId.toUInt64
        executeTime := hdr.executeTime
        entryType := .fromProto (hdr.eventTypePresent.getD 0)
        schemaName := hdr.schemaName
        tableName := hdr.tableName
        rowChange
        ddlSql
        gtid := if hdr.gtid.isEmpty then none else some hdr.gtid
        rawBytes := entry.storeValue }

/-- A row change as the converter makes it for an event. -/
structure RowChange.FromConnector (change : RowChange) (event : CanalEvent) : Prop where
  schemaName : change.schemaName = event.schemaName
  tableName : change.tableName = event.tableName
  before : ∀ row, change.before = some row →
    row.columns ≠ [] ∧ ∀ col ∈ row.columns, col.updated = false
  after : ∀ row, change.after = some row → row.columns ≠ []

structure CanalEvent.FromConnector (event : CanalEvent) : Prop where
  entryType : event.entryType ∈ [.insert, .update, .delete, .ddl]
  body : (∃ change, event.rowChange = some change ∧ event.ddlSql = none ∧
      change.FromConnector event) ∨
    ∃ sql, event.rowChange = none ∧ event.ddlSql = some sql
  gtid : event.gtid ≠ some ""

theorem columnFromProto_columnValueToProto (col : ColumnValue) (updated : Bool) :
    columnFromProto (columnValueToProto col updated) = { col with updated } := by
  cases hv : col.value with
  | none => simp [columnFromProto, columnValueToProto, hv]
  | some v => simp [columnFromProto, columnValueToProto, hv]

theorem rowDataFromProto_map {image : Option RowData} (f : ColumnValue → Proto.Column)
    (hne : ∀ row, image = some row → row.columns ≠ [])
    (hf : ∀ row, image = some row → ∀ col ∈ row.columns, columnFromProto (f col) = col) :
    rowDataFromProto ((image.elim [] RowData.columns).map f) = image := by
  cases image with
  | none => rfl
  | some row =>
    have hmap : row.columns.map (columnFromProto ∘ f) = row.columns :=
      (List.map_congr_left (hf row rfl)).trans (List.map_id' _)
    rw [Option.elim_some, rowDataFromProto, if_neg (by simpa using hne row rfl), List.map_map,
      hmap]

theorem dmlTypeFromProto_dmlTypeToProto (t : DmlType) :
    dmlTypeFromProto (some (dmlTypeToProto t)) = t := by
  cases t <;> rfl

theorem fromProto_eventTypeToProto (h : t ∈ [EventType.insert, .update, .delete, .ddl]) :
    ∃ v, eventTypeToProto t = .ok v ∧ EventType.fromProto v = t := by
  simp only [List.mem_cons, List.not_mem_nil, or_false] at h
  rcases h with rfl | rfl | rfl | rfl
  · exact ⟨_, rfl, rfl⟩
  · exact ⟨_, rfl, rfl⟩
  · exact ⟨_, rfl, rfl⟩
  · exact ⟨_, rfl, rfl⟩

theorem rowChangeOf_eventTypePresent (event : CanalEvent) (v : Int32) :
    (rowChangeOf event v).eventTypePresent.isSome := by
  unfold rowChangeOf
  split <;> rfl

theorem rowChangeFromProto_rowChangeOf {event : CanalEvent} {hdr : Proto.Header}
    (he : event.FromConnector) (hs : hdr.schemaName = event.schemaName)
    (ht : hdr.tableName = event.tableName) (v : Int32) :
    rowChangeFromProto hdr (rowChangeOf event v) = (event.rowChange, event.ddlSql) := by
  rcases he.body with ⟨change, hr, hd, hc⟩ | ⟨sql, hr, hd⟩
  · have hbefore : rowDataFromProto
        ((change.before.elim [] RowData.columns).map (columnValueToProto · false)) =
          change.before := by
      apply rowDataFromProto_map
      · intro row hrow
        exact (hc.before row hrow).1
      · intro row hrow col hcol
        rw [columnFromProto_columnValueToProto, ← (hc.before row hrow).2 col hcol]
    have hafter : rowDataFromProto ((change.after.elim [] RowData.columns).map fun col =>
        columnValueToProto col col.updated) = change.after := by
      apply rowDataFromProto_map _ hc.after
      intro row hrow col hcol
      rw [columnFromProto_columnValueToProto]
    rw [rowChangeOf, hr]
    simp only [rowChangeFromProto, reduceCtorEq, ↓reduceIte, hbefore, hafter,
      dmlTypeFromProto_dmlTypeToProto, hs, ht, ← hc.schemaName, ← hc.tableName, hd]
  · rw [rowChangeOf, hr, hd]
    rfl

theorem gtid_getD (h : gtid ≠ some "") :
    (if gtid.getD "" = "" then none else some (gtid.getD "")) = gtid := by
  cases gtid with
  | none => rfl
  | some g => simpa using h

/-- The client gets back the event that the server stored, but for the raw bytes, which are now
those of its row change. -/
theorem entryBytesToEvent_canalEventToEntry {lib : WireCrates} (hlib : lib.Lawful)
    {event : CanalEvent} (he : event.FromConnector) :
    ∃ entry, canalEventToEntry lib.toCrates event = .ok entry ∧
      entryBytesToEvent lib (lib.encodeEntry entry) =
        .ok { event with rawBytes := entry.storeValue } := by
  obtain ⟨v, hv, hp⟩ := fromProto_eventTypeToProto he.entryType
  have hne : (lib.encodeRowChange (rowChangeOf event v)).isEmpty = false :=
    List.isEmpty_eq_false_iff.2 (hlib.oneof _ (rowChangeOf_eventTypePresent event v))
  refine ⟨_, by rw [canalEventToEntry, hv], ?_⟩
  simp [entryBytesToEvent, hlib.entry, hlib.rowChange, hne, hp, gtid_getD he.gtid,
    rowChangeFromProto_rowChangeOf he]

/-- An update that empties one column and sets another to NULL. -/
theorem entryBytesToEvent_canalEventToEntry_update :
    let event : CanalEvent :=
      { storedEvent 0xFFFFFFFFFFFFFFFF with
        entryType := .update
        gtid := some "3e11fa47:23"
        rowChange := some {
          tableName := "t"
          schemaName := "db"
          before := some { columns := [
            { name := "a", value := some "x", columnType := -1, isKey := true, updated := false },
            { name := "b", value := some "y", columnType := 15, isKey := false,
              updated := false }] }
          after := some { columns := [
            { name := "a", value := some "", columnType := -1, isKey := true, updated := true },
            { name := "b", value := none, columnType := 15, isKey := false, updated := true }] }
          dmlType := .update } }
    ∃ entry, canalEventToEntry WireCrates.protobuf.toCrates event = .ok entry ∧
      entryBytesToEvent .protobuf (WireCrates.protobuf.encodeEntry entry) =
        .ok { event with rawBytes := entry.storeValue } := by
  apply entryBytesToEvent_canalEventToEntry WireCrates.protobuf_lawful
  refine ⟨by decide, .inl ⟨_, rfl, rfl, rfl, rfl, ?_, ?_⟩, by decide⟩
  · rintro row ⟨⟩
    decide
  · rintro row ⟨⟩
    decide

end Canal
