import Canal.PollLoop
import Canal.StoredStream

namespace Canal
set_option autoImplicit true

/-- An image without columns is no image to the client. -/
def RowChange.onArrival (change : RowChange) : RowChange :=
  { change with
    before := change.before.filter fun row => !row.columns.isEmpty
    after := change.after.filter fun row => !row.columns.isEmpty }

/-- The event as the client sees it, but for its raw bytes. -/
def CanalEvent.onArrival (e : CanalEvent) : CanalEvent :=
  { e with
    gtid := e.gtid.filter fun gtid => !gtid.isEmpty
    rowChange := e.rowChange.map RowChange.onArrival }

theorem onArrival_columns (image : Option RowData) :
    (image.filter fun row => !row.columns.isEmpty).elim [] RowData.columns =
      image.elim [] RowData.columns := by
  cases image with
  | none => rfl
  | some row =>
    cases h : row.columns.isEmpty with
    | false => rw [Option.filter_some, h]; rfl
    | true =>
      rw [Option.filter_some, h]
      exact (List.isEmpty_iff.1 h).symm

theorem canalEventToEntry_onArrival (lib : Crates) (e : CanalEvent) :
    canalEventToEntry lib e.onArrival = canalEventToEntry lib e := by
  have hchange : ∀ t, rowChangeOf e.onArrival t = rowChangeOf e t := by
    intro t
    unfold rowChangeOf CanalEvent.onArrival
    cases e.rowChange with
    | none => rfl
    | some change => simp only [Option.map_some, RowChange.onArrival, onArrival_columns]
  have hgtid : (e.gtid.filter fun gtid => !gtid.isEmpty).getD "" = e.gtid.getD "" := by
    cases e.gtid with
    | none => rfl
    | some gtid =>
      by_cases h : gtid = ""
      · rw [h]
        rfl
      · simp [Option.filter_some, h]
  unfold canalEventToEntry
  simp only [hchange]
  simp only [CanalEvent.onArrival, hgtid]

theorem item_of_connector {lib : WireCrates} (hlib : lib.Lawful) {e : CanalEvent}
    (he : e.onArrival.FromConnector) :
    ∃ raw, (canalEventToEntry lib.toCrates e).bind lib.item =
      .ok { e.onArrival with rawBytes := raw } := by
  obtain ⟨v, hv, hp⟩ := fromProto_eventTypeToProto he.entryType
  have hne : (lib.encodeRowChange (rowChangeOf e.onArrival v)).isEmpty = false :=
    List.isEmpty_eq_false_iff.2 (hlib.oneof _ (rowChangeOf_eventTypePresent e.onArrival v))
  rw [← canalEventToEntry_onArrival, canalEventToEntry, hv]
  refine ⟨lib.encodeRowChange (rowChangeOf e.onArrival v), ?_⟩
  simp [Except.bind, WireCrates.item, entryBytesToEvent, hlib.entry, hlib.rowChange, hne, hp,
    gtid_getD he.gtid, rowChangeFromProto_rowChangeOf he]

theorem rowValues_updated (floats : FloatText) (tm : TableMapEvent) (row : BinlogRow)
    (h : col ∈ tm.rowValues floats row) : col.updated = false := by
  rw [TableMapEvent.rowValues, List.mem_mapIdx] at h
  obtain ⟨i, hi, rfl⟩ := h
  unfold TableMapEvent.cellValue
  split <;> rfl

theorem gtid_onArrival (gtid : Option String) :
    (gtid.filter fun gtid => !gtid.isEmpty) ≠ some "" := by
  intro h
  have hne := (Option.filter_eq_some_iff.1 h).2
  cases hne

theorem onArrival_rowItem {images : TableMapEvent → Option RowData × Option RowData}
    (ht : entryType ∈ [EventType.insert, .update, .delete, .ddl])
    (hi : ∀ tm row, (images tm).1 = some row → ∀ col ∈ row.columns, col.updated = false)
    (he : attributedItems.rowItem startJournal past header tableId entryType dmlType images =
      .ok e) : e.onArrival.FromConnector := by
  unfold attributedItems.rowItem at he
  split at he
  · cases he
  · rename_i tm htm
    cases he
    refine ⟨ht, .inl ⟨_, rfl, rfl, rfl, rfl, ?_, ?_⟩, gtid_onArrival _⟩
    · intro row hrow
      obtain ⟨hrow, hne⟩ := Option.filter_eq_some_iff.1 hrow
      exact ⟨by simpa using hne, hi tm row hrow⟩
    · intro row hrow
      have hne := (Option.filter_eq_some_iff.1 hrow).2
      simpa using hne

theorem onArrival_attributed (floats : FloatText) (startJournal : String) (past : List BinlogEvent)
    (header : EventHeader) (event : BinlogEvent)
    (he : .ok e ∈ attributedItems floats startJournal past header event) :
    e.onArrival.FromConnector := by
  cases event with
  | query databaseName sqlStatement =>
    cases List.mem_singleton.1 he
    exact ⟨by simp [attributedItems.item, CanalEvent.onArrival], .inr ⟨_, rfl, rfl⟩,
      gtid_onArrival _⟩
  | writeRows tableId rows =>
    obtain ⟨row, -, hrow⟩ := List.mem_map.1 he
    refine onArrival_rowItem (by decide) ?_ hrow
    rintro tm _ ⟨⟩
  | deleteRows tableId rows =>
    obtain ⟨row, -, hrow⟩ := List.mem_map.1 he
    refine onArrival_rowItem (by decide) ?_ hrow
    rintro tm _ ⟨⟩ col hcol
    exact rowValues_updated floats tm row hcol
  | updateRows tableId rows =>
    obtain ⟨row, -, hrow⟩ := List.mem_map.1 he
    refine onArrival_rowItem (by decide) ?_ hrow
    rintro tm _ ⟨⟩ col hcol
    exact rowValues_updated floats tm row.beforeUpdate hcol
  | _ => cases he

theorem onArrival_due (h : e ∈ Pipeline.due floats startJournal lib f os) :
    e.onArrival.FromConnector := by
  have hmem := (List.mem_filter.1 h).1
  obtain ⟨item, hitem, hok⟩ := List.mem_filterMap.1 hmem
  have hev : item = .ok e := by
    cases item with
    | error => cases hok
    | ok e' => rw [Option.some.inj hok]
  rw [hev, Pipeline.attributed] at hitem
  generalize pulledEvents os = events at hitem
  generalize ([] : List BinlogEvent) = past at hitem
  induction events generalizing past with
  | nil => cases hitem
  | cons event events ih =>
    rcases List.mem_append.1 hitem with hitem | hitem
    · exact onArrival_attributed floats startJournal _ event.1 event.2 hitem
    · exact ih _ hitem

end Canal
