import Canal.Client

namespace Canal
set_option autoImplicit true

/-- The bytes are those of an entry with the row change `rc`, which is no DDL. -/
structure Carries (lib : WireCrates) (data : List UInt8) (entry : Proto.Entry)
    (rc : Proto.RowChange) : Prop where
  decodeEntry : lib.decodeEntry data = .ok entry
  decodeRowChange : lib.decodeRowChange entry.storeValue = .ok rc
  dml : rc.isDdlPresent ≠ some true

/-- The local form of one row. -/
def Proto.RowData.toChange (hdr : Proto.Header) (rc : Proto.RowChange) (rd : Proto.RowData) :
    Canal.RowChange :=
  { tableName := hdr.tableName
    schemaName := hdr.schemaName
    before := rowDataFromProto rd.beforeColumns
    after := rowDataFromProto rd.afterColumns
    dmlType := dmlTypeFromProto rc.eventTypePresent }

theorem rowChangeFromProto_dml (h : rc.isDdlPresent ≠ some true) :
    rowChangeFromProto hdr rc = (rc.rowDatas.head?.map (Proto.RowData.toChange hdr rc), none) := by
  rw [rowChangeFromProto, if_neg h]
  cases hr : rc.rowDatas with
  | nil => rfl
  | cons rd rest => rfl

/-- The event of an entry: of the rows, the first. The bytes of the row change go along as they
are. An empty `store_value` is not decoded, which makes no difference. -/
theorem Carries.event (h : Carries lib data entry rc) (hlib : lib.decodeRowChange [] = .ok {})
    (hh : entry.header = some hdr) :
    ∃ event, entryBytesToEvent lib data = .ok event ∧
      event.rowChange = rc.rowDatas.head?.map (Proto.RowData.toChange hdr rc) ∧
      event.ddlSql = none ∧ event.rawBytes = entry.storeValue := by
  rw [entryBytesToEvent, h.decodeEntry]
  cases hs : entry.storeValue.isEmpty with
  | true =>
    have hrc := h.decodeRowChange
    rw [List.isEmpty_iff.mp hs, hlib, Except.ok.injEq] at hrc
    subst hrc
    simp only [hh, hs]
    exact ⟨_, rfl, rfl, rfl, rfl⟩
  | false =>
    simp only [hh, hs, h.decodeRowChange, rowChangeFromProto_dml h.dml]
    exact ⟨_, rfl, rfl, rfl, rfl⟩

theorem entryBytesToEvent_no_header (he : lib.decodeEntry data = .ok entry)
    (hh : entry.header = none) :
    entryBytesToEvent lib data = .error (.protocol "Entry missing header") := by
  rw [entryBytesToEvent, he]
  simp only [hh]

/-- The before and after images of a row. -/
abbrev Images := Option RowData × Option RowData

/-- The rows that can be read from an event. -/
def CanalEvent.images (event : CanalEvent) : List Images :=
  event.rowChange.toList.map fun change => (change.before, change.after)

def Proto.RowData.images (rd : Proto.RowData) : Images :=
  (rowDataFromProto rd.beforeColumns, rowDataFromProto rd.afterColumns)

theorem Carries.images (h : Carries lib data entry rc) (hlib : lib.decodeRowChange [] = .ok {})
    (hh : entry.header = some hdr) :
    ∃ event, entryBytesToEvent lib data = .ok event ∧
      event.images = (rc.rowDatas.take 1).map Proto.RowData.images := by
  obtain ⟨event, hok, hc, _⟩ := h.event hlib hh
  refine ⟨event, hok, ?_⟩
  rw [CanalEvent.images, hc]
  cases rc.rowDatas with
  | nil => rfl
  | cons rd rest => rfl

/-- An entry is refused, or all its rows can be read from the event, if and only if it has no
header or at most one row. -/
theorem rows_readable_iff (h : Carries lib data entry rc)
    (hlib : lib.decodeRowChange [] = .ok {}) :
    ((∃ e, entryBytesToEvent lib data = .error e) ∨
      ∃ event, entryBytesToEvent lib data = .ok event ∧
        event.images = rc.rowDatas.map Proto.RowData.images) ↔
    entry.header = none ∨ rc.rowDatas.length ≤ 1 := by
  cases hh : entry.header with
  | none =>
    have he := entryBytesToEvent_no_header h.decodeEntry hh
    exact ⟨fun _ => .inl rfl, fun _ => .inl ⟨_, he⟩⟩
  | some hdr =>
    obtain ⟨event, hok, hi⟩ := h.images hlib hh
    simp only [hok, reduceCtorEq, exists_false, false_or, Except.ok.injEq, exists_eq_left', hi]
    constructor
    · intro heq
      have hl := congrArg List.length heq
      rw [List.length_map, List.length_map, List.length_take] at hl
      omega
    · intro hl
      rw [List.take_of_length_le hl]

/-- The entry that a server makes of a row change of `db.t`. -/
def sentEntry (lib : WireCrates) (rc : Proto.RowChange) : Proto.Entry :=
  { header := some
      { logfileName := "mysql-bin.000001", logfileOffset := 4, serverId := 1, executeTime := 0,
        sourceTypePresent := some Proto.typeMysql, schemaName := "db", tableName := "t",
        eventLength := 0, eventTypePresent := rc.eventTypePresent, gtid := "" }
    storeValue := lib.encodeRowChange rc }

theorem WireCrates.Lawful.carries {lib : WireCrates} (h : lib.Lawful) (rc : Proto.RowChange)
    (hd : rc.isDdlPresent ≠ some true) :
    Carries lib (lib.encodeEntry (sentEntry lib rc)) (sentEntry lib rc) rc :=
  { decodeEntry := h.entry _, decodeRowChange := h.rowChange rc, dml := hd }

/-- A column of a `varchar`. -/
def sentColumn (isNullPresent : Option Bool) (value : String) : Proto.Column :=
  { sqlType := 12, name := "name", isKey := false, updated := false, isNullPresent, value,
    mysqlType := "varchar" }

/-- An insert of one row for each text. -/
def sentInserts (texts : List String) : Proto.RowChange :=
  { eventTypePresent := some Proto.eventTypeInsert
    rowDatas := texts.map fun text => { afterColumns := [sentColumn none text] } }

theorem protobuf_decodeRowChange_nil : WireCrates.protobuf.decodeRowChange [] = .ok {} := rfl

/-- Of two inserted rows the event has the first one. -/
theorem second_row_dropped :
    let lib := WireCrates.protobuf
    let rc := sentInserts ["a", "b"]
    Carries lib (lib.encodeEntry (sentEntry lib rc)) (sentEntry lib rc) rc ∧
      ∃ event, entryBytesToEvent lib (lib.encodeEntry (sentEntry lib rc)) = .ok event ∧
        event.images = (sentInserts ["a"]).rowDatas.map Proto.RowData.images ∧
        event.images ≠ rc.rowDatas.map Proto.RowData.images := by
  intro lib rc
  have h := WireCrates.protobuf_lawful.carries rc (by decide)
  obtain ⟨event, hok, hi⟩ := h.images protobuf_decodeRowChange_nil rfl
  refine ⟨h, event, hok, hi, ?_⟩
  rw [hi]
  decide

theorem rows_readable_one :
    let lib := WireCrates.protobuf
    let rc := sentInserts ["a"]
    (∃ e, entryBytesToEvent lib (lib.encodeEntry (sentEntry lib rc)) = .error e) ∨
      ∃ event, entryBytesToEvent lib (lib.encodeEntry (sentEntry lib rc)) = .ok event ∧
        event.images = rc.rowDatas.map Proto.RowData.images := by
  intro lib rc
  have h := WireCrates.protobuf_lawful.carries rc (by decide)
  exact (rows_readable_iff h protobuf_decodeRowChange_nil).mpr (.inr (by decide))

/-- What the protocol says a column's value is. -/
def Proto.Column.flagged (c : Proto.Column) : Option String :=
  if c.isNullPresent = some true then none else some c.value

/-- The flag says whether the text is empty: set with no text, or cleared with one, or left out. -/
def Proto.Column.FlagFitsText (c : Proto.Column) : Prop :=
  (c.isNullPresent = some true → c.value = "") ∧ (c.isNullPresent = some false → c.value ≠ "")

theorem columnFromProto_value_iff (c : Proto.Column) :
    (columnFromProto c).value = c.flagged ↔ c.FlagFitsText := by
  rw [columnFromProto, Proto.Column.flagged, Proto.Column.FlagFitsText]
  cases hn : c.isNullPresent with
  | none => simp
  | some flag =>
    cases flag with
    | false => simp
    | true => simp

/-- The values of an image. -/
def imageValues (image : Option RowData) : List (Option String) :=
  (image.elim [] RowData.columns).map ColumnValue.value

theorem imageValues_rowDataFromProto (columns : List Proto.Column) :
    imageValues (rowDataFromProto columns) =
      columns.map fun c => (columnFromProto c).value := by
  rw [rowDataFromProto]
  cases columns with
  | nil => rfl
  | cons c cs => rw [List.isEmpty_cons, if_neg Bool.false_ne_true, imageValues, Option.elim_some,
      List.map_map, Function.comp_def]

theorem imageValues_flagged_iff (columns : List Proto.Column) :
    imageValues (rowDataFromProto columns) = columns.map Proto.Column.flagged ↔
      ∀ c ∈ columns, c.FlagFitsText := by
  rw [imageValues_rowDataFromProto, List.map_inj_left]
  exact forall₂_congr fun c _ => columnFromProto_value_iff c

/-- The values of the row of an event are those of the protocol if and only if the flag of every
column, where present, fits its text. -/
theorem null_by_flag_iff (h : Carries lib data entry rc) (hlib : lib.decodeRowChange [] = .ok {})
    (hh : entry.header = some hdr) (hr : rc.rowDatas = rd :: rest) :
    (∃ event change, entryBytesToEvent lib data = .ok event ∧ event.rowChange = some change ∧
      imageValues change.before = rd.beforeColumns.map Proto.Column.flagged ∧
      imageValues change.after = rd.afterColumns.map Proto.Column.flagged) ↔
    ∀ c ∈ rd.beforeColumns ++ rd.afterColumns, c.FlagFitsText := by
  obtain ⟨event, hok, hc, _⟩ := h.event hlib hh
  rw [hr, List.head?_cons, Option.map_some] at hc
  rw [List.forall_mem_append, ← imageValues_flagged_iff, ← imageValues_flagged_iff]
  constructor
  · intro ⟨event', change, hok', hc', hb, ha⟩
    rw [hok, Except.ok.injEq] at hok'
    subst hok'
    rw [hc, Option.some.injEq] at hc'
    subst hc'
    exact ⟨hb, ha⟩
  · intro ⟨hb, ha⟩
    exact ⟨event, _, hok, hc, hb, ha⟩

/-- An insert of a row of one column. -/
def sentInsert (c : Proto.Column) : Proto.RowChange :=
  { eventTypePresent := some Proto.eventTypeInsert, rowDatas := [{ afterColumns := [c] }] }

/-- A cleared flag beside an empty text comes out as NULL. -/
theorem cleared_flag_becomes_null :
    let lib := WireCrates.protobuf
    let c := sentColumn (some false) ""
    let data := lib.encodeEntry (sentEntry lib (sentInsert c))
    Carries lib data (sentEntry lib (sentInsert c)) (sentInsert c) ∧ c.flagged = some "" ∧
      ∃ event change, entryBytesToEvent lib data = .ok event ∧ event.rowChange = some change ∧
        imageValues change.after = [none] := by
  intro lib c data
  have h := WireCrates.protobuf_lawful.carries (sentInsert c) (by decide)
  obtain ⟨event, hok, hc, _⟩ := h.event protobuf_decodeRowChange_nil rfl
  exact ⟨h, rfl, event, _, hok, hc, by decide⟩

theorem null_by_flag_set :
    let lib := WireCrates.protobuf
    let c := sentColumn (some true) ""
    let data := lib.encodeEntry (sentEntry lib (sentInsert c))
    ∃ event change, entryBytesToEvent lib data = .ok event ∧ event.rowChange = some change ∧
      imageValues change.before = [] ∧ imageValues change.after = [c.flagged] := by
  intro lib c data
  have h := WireCrates.protobuf_lawful.carries (sentInsert c) (by decide)
  exact (null_by_flag_iff h protobuf_decodeRowChange_nil rfl rfl).mpr (by
    intro c' hc
    rw [List.nil_append, List.mem_singleton] at hc
    rw [hc]
    exact ⟨fun _ => rfl, fun hf => absurd hf (by decide)⟩)

end Canal
