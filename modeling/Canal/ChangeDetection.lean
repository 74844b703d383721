import Canal.Binlog
import Canal.Lib.Rendering

namespace Canal
set_option autoImplicit true

open Rendering

theorem toList_zeroPadded (width : Nat) (n : Int) :
    ∃ zeros, (zeroPadded width n).toList = signed zeros n := by
  refine ⟨width - (if n < 0 then "-" else "").length - (toString n.natAbs).length, ?_⟩
  rw [zeroPadded, String.toList_append, String.toList_append, String.toList_ofList,
    Nat.toString_eq_repr, Nat.toList_repr, List.append_assoc, signed]
  by_cases hn : n < 0
  · rw [if_pos hn, if_pos hn]
    rfl
  · rw [if_neg hn, if_neg hn]
    rfl

theorem zeroPadded_inj : zeroPadded width n = zeroPadded width m ↔ n = m := by
  constructor
  · intro h
    obtain ⟨zeros, hz⟩ := toList_zeroPadded width n
    obtain ⟨zeros', hz'⟩ := toList_zeroPadded width m
    have hl := congrArg String.toList h
    rw [hz, hz'] at hl
    exact signed_inj hl
  · intro h
    rw [h]

theorem not_mem_zeroPadded (hc : c.isDigit = false) (hs : c = '-' → 0 ≤ n) :
    c ∉ (zeroPadded width n).toList := by
  intro h
  obtain ⟨zeros, hz⟩ := toList_zeroPadded width n
  rw [hz] at h
  rcases mem_signed h with hd | ⟨rfl, hn⟩
  · rw [hc] at hd
    exact Bool.false_ne_true hd
  · exact Int.not_lt.mpr (hs rfl) hn

/-- The text of a date. -/
def dateText (year : UInt16) (month day : UInt8) : String :=
  zeroPadded 4 year.toNat ++ ("-" ++ (zeroPadded 2 month.toNat ++
    ("-" ++ zeroPadded 2 day.toNat)))

/-- The text of a time of day. -/
def clockText (hour : Int) (minute second : UInt8) : String :=
  zeroPadded 2 hour ++ (":" ++ (zeroPadded 2 minute.toNat ++ (":" ++ zeroPadded 2 second.toNat)))

theorem dateText_inj : dateText year month day = dateText year' month' day' ↔
    year = year' ∧ month = month' ∧ day = day' := by
  have hdash (width n : Nat) : '-' ∉ (zeroPadded width n).toList :=
    not_mem_zeroPadded rfl fun _ => Int.natCast_nonneg n
  rw [dateText, dateText, append_mark_inj rfl (hdash _ _) (hdash _ _),
    append_mark_inj rfl (hdash _ _) (hdash _ _), zeroPadded_inj, zeroPadded_inj, zeroPadded_inj,
    Int.natCast_inj, Int.natCast_inj, Int.natCast_inj, UInt16.toNat_inj, UInt8.toNat_inj,
    UInt8.toNat_inj]

theorem clockText_inj : clockText hour minute second = clockText hour' minute' second' ↔
    hour = hour' ∧ minute = minute' ∧ second = second' := by
  have hcolon (width : Nat) (n : Int) : ':' ∉ (zeroPadded width n).toList :=
    not_mem_zeroPadded rfl fun h => absurd h (by decide)
  rw [clockText, clockText, append_mark_inj rfl (hcolon _ _) (hcolon _ _),
    append_mark_inj rfl (hcolon _ _) (hcolon _ _), zeroPadded_inj, zeroPadded_inj, zeroPadded_inj,
    Int.natCast_inj, Int.natCast_inj, UInt8.toNat_inj, UInt8.toNat_inj]

theorem blank_not_mem_dateText : ' ' ∉ (dateText year month day).toList := by
  have hblank (width n : Nat) : ' ' ∉ (zeroPadded width n).toList :=
    not_mem_zeroPadded rfl fun h => absurd h (by decide)
  have hmark : ' ' ∉ "-".toList := by decide
  simp only [dateText, String.toList_append, List.mem_append, hblank, hmark, or_self,
    not_false_eq_true]

/-- `{:02x}` of every byte. -/
def hexText (bytes : List UInt8) : String := String.join (bytes.map hexByte)

theorem toList_hexText (bytes : List UInt8) :
    (hexText bytes).toList = bytes.flatMap fun b => hexPair b.toNat := by
  rw [hexText, String.toList_join, List.flatMap_map]
  simp only [hexByte, String.toList_ofList, hexPair]

theorem hexText_inj : hexText bytes = hexText bytes' ↔ bytes = bytes' := by
  constructor
  · intro h
    have hl := congrArg String.toList h
    rw [toList_hexText, toList_hexText] at hl
    apply flatMap_injective _ (fun _ _ => rfl) (fun _ => List.cons_ne_nil _ _) hl
    intro b b' hb
    exact UInt8.toNat_inj.mp (hexPair_inj b.toNat_lt b'.toNat_lt hb)
  · intro h
    rw [h]

/-- `from_utf8` accepts the bytes. -/
abbrev IsText (bytes : List UInt8) : Prop := ByteArray.IsValidUTF8 ⟨bytes.toArray⟩

/-- The bytes are those of the text. -/
def BytesOf (text : String) (bytes : List UInt8) : Prop := text.toByteArray = ⟨bytes.toArray⟩

theorem BytesOf.isText (h : BytesOf text bytes) : IsText bytes := by
  rw [IsText, ← h]
  exact text.isValidUTF8

theorem BytesOf.bytes_inj (h : BytesOf text bytes) (h' : BytesOf text bytes') :
    bytes = bytes' :=
  List.toArray_inj (ByteArray.mk.inj (h.symm.trans h'))

theorem BytesOf.text_inj (h : BytesOf text bytes) (h' : BytesOf text' bytes) : text = text' :=
  String.toByteArray_inj.mp (h.trans h'.symm)

theorem IsText.blob_text (h : IsText bytes) (floats : FloatText) :
    BytesOf (mySqlValueToString floats (.blob bytes)) bytes := by
  rw [mySqlValueToString, String.fromUTF8?, dif_pos h]
  rfl

theorem blob_hex (h : ¬ IsText bytes) :
    mySqlValueToString floats (.blob bytes) = hexText bytes := by
  rw [mySqlValueToString, String.fromUTF8?, dif_neg h]
  rfl

/-- Two values of one variant, which is not floating. -/
inductive SameVariant : MySqlValue → MySqlValue → Prop
  | tinyInt : SameVariant (.tinyInt n) (.tinyInt m)
  | smallInt : SameVariant (.smallInt n) (.smallInt m)
  | mediumInt : SameVariant (.mediumInt n) (.mediumInt m)
  | int : SameVariant (.int n) (.int m)
  | bigInt : SameVariant (.bigInt n) (.bigInt m)
  | decimal : SameVariant (.decimal s) (.decimal t)
  | string : SameVariant (.string s) (.string t)
  | blob : SameVariant (.blob bytes) (.blob bytes')
  | bit : SameVariant (.bit bits) (.bit bits')
  | enum : SameVariant (.enum n) (.enum m)
  | set : SameVariant (.set n) (.set m)
  | year : SameVariant (.year n) (.year m)
  | date : SameVariant (.date year month day) (.date year' month' day')
  | time : SameVariant (.time hour minute second millis) (.time hour' minute' second' millis')
  | dateTime : SameVariant (.dateTime year month day hour minute second millis)
      (.dateTime year' month' day' hour' minute' second' millis')
  | timestamp : SameVariant (.timestamp n) (.timestamp m)

/-- Different values that only the sub-second part tells apart, and bytes that are no text beside
the text of their hexadecimal digits. -/
inductive Collide : MySqlValue → MySqlValue → Prop
  | time (h : millis ≠ millis') :
    Collide (.time hour minute second millis) (.time hour minute second millis')
  | dateTime (h : millis ≠ millis') :
    Collide (.dateTime year month day hour minute second millis)
      (.dateTime year month day hour minute second millis')
  | hexBefore (h : ¬ IsText bytes) (ht : BytesOf (hexText bytes) text) :
    Collide (.blob bytes) (.blob text)
  | hexAfter (h : ¬ IsText bytes) (ht : BytesOf (hexText bytes) text) :
    Collide (.blob text) (.blob bytes)

theorem Collide.ne (h : Collide a b) : a ≠ b := by
  intro he
  cases h with
  | time hm => exact hm (MySqlValue.time.inj he).2.2.2
  | dateTime hm => exact hm (MySqlValue.dateTime.inj he).2.2.2.2.2.2
  | hexBefore hn ht =>
    rw [MySqlValue.blob.inj he] at hn
    exact hn ht.isText
  | hexAfter hn ht =>
    rw [← MySqlValue.blob.inj he] at hn
    exact hn ht.isText

theorem Collide.text_eq (floats : FloatText) (h : Collide a b) :
    mySqlValueToString floats a = mySqlValueToString floats b := by
  cases h with
  | time hm => rfl
  | dateTime hm => rfl
  | hexBefore hn ht =>
    rw [blob_hex hn]
    exact ht.text_inj (ht.isText.blob_text floats)
  | hexAfter hn ht =>
    rw [blob_hex hn]
    exact (ht.isText.blob_text floats).text_inj ht

/-- Bytes that are text go out as they are and other bytes in hexadecimal, so a text has at most
one origin of each kind. -/
theorem blob_eq_or_collide
    (h : mySqlValueToString floats (.blob bytes) = mySqlValueToString floats (.blob bytes')) :
    bytes = bytes' ∨ Collide (.blob bytes) (.blob bytes') := by
  by_cases hb : IsText bytes
  · have ht := hb.blob_text floats
    by_cases hb' : IsText bytes'
    · rw [h] at ht
      exact .inl (ht.bytes_inj (hb'.blob_text floats))
    · rw [h, blob_hex hb'] at ht
      exact .inr (.hexAfter hb' ht)
  · by_cases hb' : IsText bytes'
    · have ht := hb'.blob_text floats
      rw [← h, blob_hex hb] at ht
      exact .inr (.hexBefore hb ht)
    · rw [blob_hex hb, blob_hex hb'] at h
      exact .inl (hexText_inj.mp h)

theorem bit_inj
    (h : mySqlValueToString floats (.bit bits) = mySqlValueToString floats (.bit bits')) :
    bits = bits' := by
  have hl := String.ofList_inj.mp h
  apply List.map_injective_iff.mpr _ hl
  intro b b' hb
  cases b <;> cases b' <;> first | rfl | exact absurd hb (by decide)

theorem date_text (floats : FloatText) : mySqlValueToString floats (.date year month day) =
    dateText year month day := by
  rw [mySqlValueToString, dateText, String.append_assoc, String.append_assoc, String.append_assoc]

theorem time_text (floats : FloatText) :
    mySqlValueToString floats (.time hour minute second millis) =
      clockText hour.toInt minute second := by
  rw [mySqlValueToString, clockText, String.append_assoc, String.append_assoc, String.append_assoc]

theorem dateTime_text (floats : FloatText) :
    mySqlValueToString floats (.dateTime year month day hour minute second millis) =
      dateText year month day ++ (" " ++ clockText hour.toNat minute second) := by
  simp only [mySqlValueToString, dateText, clockText, String.append_assoc]

theorem text_eq_iff (floats : FloatText) (h : SameVariant a b) :
    mySqlValueToString floats a = mySqlValueToString floats b ↔ a = b ∨ Collide a b := by
  constructor
  · intro ht
    cases h with
    | tinyInt => exact .inl (congrArg _ (UInt8.toNat_inj.mp (toString_nat_inj ht)))
    | smallInt => exact .inl (congrArg _ (UInt16.toNat_inj.mp (toString_nat_inj ht)))
    | mediumInt => exact .inl (congrArg _ (UInt32.toNat_inj.mp (toString_nat_inj ht)))
    | int => exact .inl (congrArg _ (UInt32.toNat_inj.mp (toString_nat_inj ht)))
    | bigInt => exact .inl (congrArg _ (UInt64.toNat_inj.mp (toString_nat_inj ht)))
    | decimal => exact .inl (congrArg _ ht)
    | string => exact .inl (congrArg _ ht)
    | blob =>
      rcases blob_eq_or_collide ht with he | hc
      · exact .inl (congrArg _ he)
      · exact .inr hc
    | bit => exact .inl (congrArg _ (bit_inj ht))
    | enum => exact .inl (congrArg _ (UInt32.toNat_inj.mp (toString_nat_inj ht)))
    | set => exact .inl (congrArg _ (UInt64.toNat_inj.mp (toString_nat_inj ht)))
    | year => exact .inl (congrArg _ (UInt16.toNat_inj.mp (toString_nat_inj ht)))
    | date =>
      rw [date_text, date_text] at ht
      obtain ⟨hy, hm, hd⟩ := dateText_inj.mp ht
      rw [hy, hm, hd]
      exact .inl rfl
    | @time hour minute second millis hour' minute' second' millis' =>
      rw [time_text, time_text] at ht
      obtain ⟨hh, hm, hs⟩ := clockText_inj.mp ht
      rw [Int16.toInt_inj.mp hh, hm, hs]
      by_cases hmillis : millis = millis'
      · exact .inl (by rw [hmillis])
      · exact .inr (.time hmillis)
    | @dateTime year month day hour minute second millis _ _ _ _ _ _ millis' =>
      rw [dateTime_text, dateTime_text,
        append_mark_inj rfl blank_not_mem_dateText blank_not_mem_dateText] at ht
      obtain ⟨hy, hm, hd⟩ := dateText_inj.mp ht.1
      obtain ⟨hh, hmin, hs⟩ := clockText_inj.mp ht.2
      rw [hy, hm, hd, UInt8.toNat_inj.mp (Int.natCast_inj.mp hh), hmin, hs]
      by_cases hmillis : millis = millis'
      · exact .inl (by rw [hmillis])
      · exact .inr (.dateTime hmillis)
    | timestamp => exact .inl (congrArg _ (UInt64.toNat_inj.mp (toString_nat_inj ht)))
  · intro hor
    rcases hor with he | hc
    · rw [he]
    · exact hc.text_eq floats

/-- The name and the text of every column of a row. -/
def BinlogRow.shown (floats : FloatText) (columnInfos : List ColumnInfo) (row : BinlogRow) :
    List (String × Option String) :=
  row.cells.mapIdx fun i cell =>
    ((columnInfos[i]?.map ColumnInfo.name).getD (generatedName i),
      cell.map (mySqlValueToString floats))

/-- Both images of the change have the columns of the row in order, and a column of the after image
is flagged where the two cells differ. -/
structure Reported (floats : FloatText) (columnInfos : List ColumnInfo) (row : UpdateRowData)
    (change : RowChange) : Prop where
  before : ∃ columns, change.before = some { columns } ∧
    columns.map (fun col => (col.name, col.value)) = row.beforeUpdate.shown floats columnInfos
  after : ∃ columns, change.after = some { columns } ∧
    columns.map (fun col => (col.name, col.value)) = row.afterUpdate.shown floats columnInfos ∧
    ∀ (i : Nat) (col : ColumnValue), columns[i]? = some col →
      (col.updated = true ↔ row.beforeUpdate.cells[i]? ≠ row.afterUpdate.cells[i]?)

/-- The images have the same columns; a NULL goes with every value. -/
structure UpdateRowData.Comparable (row : UpdateRowData) : Prop where
  length_eq : row.beforeUpdate.cells.length = row.afterUpdate.cells.length
  sameVariant : ∀ (i : Nat) a b, row.beforeUpdate.cells[i]? = some (some a) →
    row.afterUpdate.cells[i]? = some (some b) → SameVariant a b

/-- Column `i` went from one of two colliding values to the other. -/
def UpdateRowData.CollideAt (row : UpdateRowData) (i : Nat) : Prop :=
  ∃ a b, row.beforeUpdate.cells[i]? = some (some a) ∧
    row.afterUpdate.cells[i]? = some (some b) ∧ Collide a b

theorem shown_extractColumnValues (floats : FloatText) (columnInfos : List ColumnInfo)
    (row : BinlogRow) :
    (extractColumnValues floats row columnInfos).map (fun col => (col.name, col.value)) =
      row.shown floats columnInfos := by
  apply List.ext_getElem?
  intro i
  rw [extractColumnValues, List.getElem?_map, List.getElem?_mapIdx, Option.map_map,
    BinlogRow.shown, List.getElem?_mapIdx]
  rfl

theorem shown_markUpdated (before after : List ColumnValue) :
    (EventConverter.markUpdated before after).map (fun col => (col.name, col.value)) =
      after.map fun col => (col.name, col.value) := by
  apply List.ext_getElem?
  intro i
  rw [EventConverter.markUpdated, List.getElem?_map, List.getElem?_mapIdx, List.getElem?_map,
    Option.map_map]
  rfl

theorem getElem?_markUpdated {before after : BinlogRow} {i : Nat}
    (ha : before.cells[i]? = some a) (hb : after.cells[i]? = some b) :
    ∃ col : ColumnValue, (EventConverter.markUpdated (extractColumnValues floats before columnInfos)
        (extractColumnValues floats after columnInfos))[i]? = some col ∧
      (col.updated = true ↔
        a.map (mySqlValueToString floats) ≠ b.map (mySqlValueToString floats)) := by
  rw [EventConverter.markUpdated, List.getElem?_mapIdx, extractColumnValues, extractColumnValues,
    List.getElem?_mapIdx, List.getElem?_mapIdx, ha, hb]
  exact ⟨_, rfl, decide_eq_true_iff⟩

theorem length_markUpdated (before after : BinlogRow) :
    (EventConverter.markUpdated (extractColumnValues floats before columnInfos)
      (extractColumnValues floats after columnInfos)).length = after.cells.length := by
  rw [EventConverter.markUpdated, List.length_mapIdx, extractColumnValues, List.length_mapIdx]

theorem cell_text_eq_iff (floats : FloatText)
    (hs : ∀ x y, a = some x → b = some y → SameVariant x y)
    (hc : ∀ x y, a = some x → b = some y → ¬ Collide x y) :
    a.map (mySqlValueToString floats) = b.map (mySqlValueToString floats) ↔ a = b := by
  cases a with
  | none => cases b <;> simp
  | some x =>
    cases b with
    | none => simp
    | some y =>
      rw [Option.map_some, Option.map_some, Option.some.injEq, Option.some.injEq,
        text_eq_iff floats (hs x y rfl rfl), or_iff_left (hc x y rfl rfl)]

theorem handleUpdateRowEvent_images
    (h : EventConverter.handleUpdateRowEvent c tableId before after = .ok change) :
    change.before = some { columns := before } ∧
      change.after = some { columns := EventConverter.markUpdated before after } := by
  rw [EventConverter.handleUpdateRowEvent] at h
  cases ht : c.tableMap.get tableId with
  | none =>
    rw [ht] at h
    cases h
  | some names =>
    rw [ht] at h
    cases h
    exact ⟨rfl, rfl⟩

/-- The row change of an update reports the row if and only if no column goes from a value to a
different one with the same text. -/
theorem update_reported_iff (row : UpdateRowData) (hrow : row.Comparable)
    (h : EventConverter.handleUpdateRowEvent c tableId
      (extractColumnValues floats row.beforeUpdate columnInfos)
      (extractColumnValues floats row.afterUpdate columnInfos) = .ok change) :
    Reported floats columnInfos row change ↔ ∀ i, ¬ row.CollideAt i := by
  obtain ⟨hbefore, hafter⟩ := handleUpdateRowEvent_images h
  constructor
  · intro hrep i ⟨a, b, ha, hb, hcollide⟩
    obtain ⟨columns, hcolumns, _, hflags⟩ := hrep.after
    rw [hafter] at hcolumns
    cases hcolumns
    obtain ⟨col, hcol, hflag⟩ := getElem?_markUpdated ha hb
    have hdiff : row.beforeUpdate.cells[i]? ≠ row.afterUpdate.cells[i]? := by
      rw [ha, hb]
      intro he
      exact hcollide.ne (Option.some.inj (Option.some.inj he))
    have htext := hflag.mp ((hflags i col hcol).mpr hdiff)
    exact htext (congrArg some (hcollide.text_eq floats))
  · intro hc
    refine ⟨⟨_, hbefore, shown_extractColumnValues ..⟩, ⟨_, hafter, ?_, ?_⟩⟩
    · rw [shown_markUpdated, shown_extractColumnValues]
    · intro i col hcol
      have hi := (List.getElem?_eq_some_iff.mp hcol).1
      rw [length_markUpdated] at hi
      have hb := List.getElem?_eq_getElem hi
      rw [← hrow.length_eq] at hi
      have ha := List.getElem?_eq_getElem hi
      obtain ⟨col', hcol', hflag⟩ := getElem?_markUpdated ha hb
      rw [hcol, Option.some.injEq] at hcol'
      subst hcol'
      rw [hflag, ha, hb, ne_eq, ne_eq, Option.some.injEq, cell_text_eq_iff floats]
      · intro x y hx hy
        rw [hx] at ha
        rw [hy] at hb
        exact hrow.sameVariant i x y ha hb
      · intro x y hx hy hxy
        rw [hx] at ha
        rw [hy] at hb
        exact hc i ⟨x, y, ha, hb, hxy⟩

/-- The columns `at` and `data` of `db.t`. -/
def clockColumns : List ColumnInfo :=
  [{ name := "at", columnType := 19, isKey := false, isNullable := true },
    { name := "data", columnType := 252, isKey := false, isNullable := true }]

def clockConverter : EventConverter :=
  EventConverter.new.handleTableMapEvent 7 "db" "t" clockColumns

def clockUpdate (before after : List (Option MySqlValue)) : UpdateRowData :=
  { beforeUpdate := { cells := before }, afterUpdate := { cells := after } }

/-- The row change of an update of `db.t`. -/
def clockChange (floats : FloatText) (row : UpdateRowData) : Except CanalError RowChange :=
  clockConverter.handleUpdateRowEvent 7 (extractColumnValues floats row.beforeUpdate clockColumns)
    (extractColumnValues floats row.afterUpdate clockColumns)

/-- A second passes, and a value takes the place of NULL. -/
theorem update_reported_second :
    let floats : FloatText := { float := fun _ => "", double := fun _ => "" }
    let row := clockUpdate [some (.time 10 30 59 0), none]
      [some (.time 10 31 0 0), some (.blob [1])]
    ∃ change, clockChange floats row = .ok change ∧ Reported floats clockColumns row change := by
  intro floats row
  obtain ⟨change, hok⟩ : ∃ change, clockChange floats row = .ok change := ⟨_, rfl⟩
  have hcells (i : Nat) (a b : MySqlValue) (ha : row.beforeUpdate.cells[i]? = some (some a))
      (hb : row.afterUpdate.cells[i]? = some (some b)) :
      a = .time 10 30 59 0 ∧ b = .time 10 31 0 0 := by
    cases i with
    | zero =>
      cases ha
      cases hb
      exact ⟨rfl, rfl⟩
    | succ i => cases i <;> cases ha
  have hrow : row.Comparable := by
    refine ⟨rfl, ?_⟩
    intro i a b ha hb
    obtain ⟨rfl, rfl⟩ := hcells i a b ha hb
    exact .time
  refine ⟨change, hok, (update_reported_iff row hrow hok).mpr ?_⟩
  intro i ⟨a, b, ha, hb, hcollide⟩
  obtain ⟨rfl, rfl⟩ := hcells i a b ha hb
  cases hcollide

/-- Half a second passes, and the two letters `ff` take the place of the byte `ff`: both columns
are different and neither is flagged. -/
theorem lost_update_unflagged :
    let floats : FloatText := { float := fun _ => "", double := fun _ => "" }
    let row := clockUpdate [some (.time 10 30 59 0), some (.blob [0xff])]
      [some (.time 10 30 59 500), some (.blob [0x66, 0x66])]
    row.Comparable ∧ ∃ change, clockChange floats row = .ok change ∧
      change.after.map (fun data => data.columns.map ColumnValue.updated) = some [false, false] ∧
      ¬ Reported floats clockColumns row change := by
  intro floats row
  refine ⟨⟨rfl, ?_⟩, _, rfl, rfl, ?_⟩
  · intro i a b ha hb
    cases i with
    | zero =>
      cases ha
      cases hb
      exact .time
    | succ i =>
      cases i with
      | zero =>
        cases ha
        cases hb
        exact .blob
      | succ i => cases ha
  · intro hrep
    obtain ⟨columns, hcolumns, _, hflags⟩ := hrep.after
    cases hcolumns
    have hflag := (hflags 0 _ rfl).mpr (by decide)
    exact absurd hflag (by decide)

end Canal
