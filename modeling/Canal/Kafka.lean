import Canal.Types
import Canal.Lib.Json

namespace Canal
set_option autoImplicit true

open Json

def EventType.asStr : EventType → String
  | .insert => "INSERT"
  | .update => "UPDATE"
  | .delete => "DELETE"
  | .ddl => "DDL"
  | .query => "QUERY"
  | .rotate => "ROTATE"
  | .xid => "XID"
  | .heartbeat => "HEARTBEAT"
  | .unknown _ => "UNKNOWN"

def DmlType.asStr : DmlType → String
  | .insert => "INSERT"
  | .update => "UPDATE"
  | .delete => "DELETE"

structure KafkaColumn where
  name : String
  value : Option String
  isKey : Bool
  updated : Bool
deriving DecidableEq

structure KafkaRowChange where
  dmlType : String
  before : Option (List KafkaColumn)
  after : Option (List KafkaColumn)
deriving DecidableEq

structure KafkaPayload where
  schema : String
  table : String
  eventType : String
  position : UInt64
  journal : String
  serverId : UInt64
  executeTime : Int64
  gtid : Option String
  rowChange : Option KafkaRowChange
  ddlSql : Option String
deriving DecidableEq

/-- A `false` under `updated` is left out. -/
def KafkaColumn.json (c : KafkaColumn) : Tree :=
  .obj ([("name", .str c.name), ("value", c.value.elim .null .str), ("is_key", .bool c.isKey)] ++
    ifSome "updated" (if c.updated then some (.bool true) else none))

def KafkaRowChange.json (rc : KafkaRowChange) : Tree :=
  let columns (image : List KafkaColumn) : Tree := .arr (image.map KafkaColumn.json)
  .obj (("dml_type", .str rc.dmlType) ::
    (ifSome "before" (rc.before.map columns) ++ ifSome "after" (rc.after.map columns)))

def KafkaPayload.json (p : KafkaPayload) : Tree :=
  .obj ([("schema", .str p.schema), ("table", .str p.table), ("type", .str p.eventType),
      ("position", .num p.position.toNat), ("journal", .str p.journal),
      ("server_id", .num p.serverId.toNat), ("execute_time", .num p.executeTime.toInt)] ++
    (ifSome "gtid" (p.gtid.map .str) ++ (ifSome "row_change" (p.rowChange.map (·.json)) ++
      ifSome "ddl_sql" (p.ddlSql.map .str))))

/-- Nothing is marked as updated in the before image. -/
def kafkaRowChange (rc : RowChange) : KafkaRowChange :=
  { dmlType := rc.dmlType.asStr
    before := rc.before.map fun r => r.columns.map fun c =>
      { name := c.name, value := c.value, isKey := c.isKey, updated := false }
    after := rc.after.map fun r => r.columns.map fun c =>
      { name := c.name, value := c.value, isKey := c.isKey, updated := c.updated } }

def kafkaPayload (event : CanalEvent) : KafkaPayload :=
  { schema := event.schemaName
    table := event.tableName
    eventType := event.entryType.asStr
    position := event.position
    journal := event.journalName
    serverId := event.serverId
    executeTime := event.executeTime
    gtid := event.gtid
    rowChange := event.rowChange.map kafkaRowChange
    ddlSql := event.ddlSql }

/-- `serialize_events`: key and payload of each message. No payload fails to serialize. -/
def serializeEvents (events : List CanalEvent) : List (String × String) :=
  events.map fun event => (event.schemaName, (kafkaPayload event).json.text)

theorem KafkaColumn.json_inj {c c' : KafkaColumn} (h : c.json = c'.json) : c = c' := by
  obtain ⟨name, value, isKey, updated⟩ := c
  obtain ⟨name', value', isKey', updated'⟩ := c'
  obtain ⟨hhead, hrest⟩ := List.append_inj (Tree.obj.inj h) rfl
  simp only [List.cons.injEq, Prod.mk.injEq, true_and, and_true, Tree.str.injEq,
    Tree.bool.injEq] at hhead
  obtain ⟨rfl, hvalue, rfl⟩ := hhead
  have hv : value = value' := by
    cases value <;> cases value' <;> simp_all
  have hu : updated = updated' := by
    cases updated <;> cases updated' <;> simp_all [ifSome]
  rw [hv, hu]

theorem map_json_inj {image image' : List KafkaColumn}
    (h : Tree.arr (image.map KafkaColumn.json) = Tree.arr (image'.map KafkaColumn.json)) :
    image = image' :=
  List.map_injective_iff.mpr (fun _ _ => KafkaColumn.json_inj) (Tree.arr.inj h)

theorem KafkaRowChange.json_inj {rc rc' : KafkaRowChange} (h : rc.json = rc'.json) : rc = rc' := by
  obtain ⟨hdml, hrest⟩ := List.cons.inj (Tree.obj.inj h)
  have hkey : ∀ v, ∀ m ∈ ifSome "after" v, m.1 ≠ "before" := by
    intro v m hm
    rw [key_of_mem_ifSome hm]
    decide
  obtain ⟨hbefore, hafter⟩ := ifSome_append_inj (hkey _) (hkey _) hrest
  have hb := Option.map_injective (fun _ _ => map_json_inj) hbefore
  have ha := Option.map_injective (fun _ _ => map_json_inj) (ifSome_inj hafter)
  have hd := Tree.str.inj (Prod.mk.inj hdml).2
  obtain ⟨dmlType, before, after⟩ := rc
  obtain ⟨dmlType', before', after'⟩ := rc'
  cases hb
  cases ha
  cases hd
  rfl

theorem KafkaPayload.json_inj {p p' : KafkaPayload} (h : p.json = p'.json) : p = p' := by
  obtain ⟨hhead, hrest⟩ := List.append_inj (Tree.obj.inj h) rfl
  have hkey : ∀ key ≠ "ddl_sql", ∀ v, ∀ m ∈ ifSome "ddl_sql" v, m.1 ≠ key := by
    intro key hne v m hm
    rw [key_of_mem_ifSome hm]
    exact hne.symm
  have hkeys : ∀ v w, ∀ m ∈ ifSome "row_change" v ++ ifSome "ddl_sql" w, m.1 ≠ "gtid" := by
    intro v w m hm
    rcases List.mem_append.1 hm with hm | hm
    · rw [key_of_mem_ifSome hm]
      decide
    · exact hkey "gtid" (by decide) w m hm
  obtain ⟨hgtid, hrest⟩ := ifSome_append_inj (hkeys _ _) (hkeys _ _) hrest
  obtain ⟨hchange, hddl⟩ := ifSome_append_inj (hkey "row_change" (by decide) _)
    (hkey "row_change" (by decide) _) hrest
  have hg := Option.map_injective (fun _ _ => Tree.str.inj) hgtid
  have hc := Option.map_injective (fun _ _ => KafkaRowChange.json_inj) hchange
  have hs := Option.map_injective (fun _ _ => Tree.str.inj) (ifSome_inj hddl)
  simp only [List.cons.injEq, Prod.mk.injEq, true_and, and_true, Tree.str.injEq,
    Tree.num.injEq] at hhead
  obtain ⟨h1, h2, h3, h4, h5, h6, h7⟩ := hhead
  have hpos := UInt64.toNat_inj.1 (Int.ofNat.inj h4)
  have hserver := UInt64.toNat_inj.1 (Int.ofNat.inj h6)
  have htime := Int64.toInt_inj.1 h7
  obtain ⟨schema, table, eventType, position, journal, serverId, executeTime, gtid, rowChange,
    ddlSql⟩ := p
  obtain ⟨schema', table', eventType', position', journal', serverId', executeTime', gtid',
    rowChange', ddlSql'⟩ := p'
  cases h1
  cases h2
  cases h3
  cases h5
  cases hpos
  cases hserver
  cases htime
  cases hg
  cases hc
  cases hs
  rfl

/-- What the payload leaves out of a row change: its own names, the types of the columns, and which
of them the before image marks as updated. -/
def RowChange.published (rc : RowChange) : RowChange :=
  { tableName := ""
    schemaName := ""
    before := rc.before.map fun r =>
      { columns := r.columns.map fun c => { c with columnType := 0, updated := false } }
    after := rc.after.map fun r => { columns := r.columns.map fun c => { c with columnType := 0 } }
    dmlType := rc.dmlType }

/-- An event without what the payload leaves out, which is also its raw bytes and the number of an
unknown type. -/
def CanalEvent.published (e : CanalEvent) : CanalEvent :=
  { e with
    entryType := if e.entryType.asStr = "UNKNOWN" then .unknown 0 else e.entryType
    rowChange := e.rowChange.map RowChange.published
    rawBytes := [] }

/-- A payload read back. -/
def EventType.ofStr (s : String) : EventType :=
  ([.insert, .update, .delete, .ddl, .query, .rotate, .xid, .heartbeat].find? fun t =>
    t.asStr = s).getD (.unknown 0)

def DmlType.ofStr (s : String) : DmlType :=
  ([.insert, .update, .delete].find? fun t => t.asStr = s).getD .insert

def KafkaColumn.column (c : KafkaColumn) : ColumnValue :=
  { name := c.name, value := c.value, columnType := 0, isKey := c.isKey, updated := c.updated }

def KafkaRowChange.rowChange (rc : KafkaRowChange) : RowChange :=
  { tableName := ""
    schemaName := ""
    before := rc.before.map fun image => { columns := image.map KafkaColumn.column }
    after := rc.after.map fun image => { columns := image.map KafkaColumn.column }
    dmlType := .ofStr rc.dmlType }

def KafkaPayload.event (p : KafkaPayload) : CanalEvent :=
  { journalName := p.journal
    position := p.position
    serverId := p.serverId
    executeTime := p.executeTime
    entryType := .ofStr p.eventType
    schemaName := p.schema
    tableName := p.table
    rowChange := p.rowChange.map KafkaRowChange.rowChange
    ddlSql := p.ddlSql
    gtid := p.gtid
    rawBytes := [] }

theorem rowChange_kafkaRowChange (rc : RowChange) :
    (kafkaRowChange rc).rowChange = rc.published := by
  obtain ⟨tableName, schemaName, before, after, dmlType⟩ := rc
  have hd : DmlType.ofStr dmlType.asStr = dmlType := by cases dmlType <;> decide
  simp only [kafkaRowChange, KafkaRowChange.rowChange, RowChange.published, Option.map_map,
    Function.comp_def, List.map_map, hd]
  rfl

theorem event_kafkaPayload (e : CanalEvent) : (kafkaPayload e).event = e.published := by
  have ht : EventType.ofStr e.entryType.asStr =
      if e.entryType.asStr = "UNKNOWN" then .unknown 0 else e.entryType := by
    cases e.entryType with
    | unknown v => rfl
    | _ => decide
  have hr : (e.rowChange.map kafkaRowChange).map KafkaRowChange.rowChange =
      e.rowChange.map RowChange.published := by
    rw [Option.map_map]
    congr 1
    funext rc
    exact rowChange_kafkaRowChange rc
  simp only [kafkaPayload, KafkaPayload.event, CanalEvent.published, ht, hr]

theorem kafkaPayload_published (e : CanalEvent) : kafkaPayload e.published = kafkaPayload e := by
  have ht : (if e.entryType.asStr = "UNKNOWN" then EventType.unknown 0 else e.entryType).asStr =
      e.entryType.asStr := by
    split
    · rename_i h
      exact h.symm
    · rfl
  have hr : (e.rowChange.map RowChange.published).map kafkaRowChange =
      e.rowChange.map kafkaRowChange := by
    rw [Option.map_map]
    congr 1
    funext rc
    simp only [Function.comp_def, kafkaRowChange, RowChange.published, Option.map_map,
      List.map_map]
  simp only [kafkaPayload, CanalEvent.published, ht, hr]

/-- The messages of two batches are the same exactly when their events are, one by one, but for what
the payload leaves out. -/
theorem serializeEvents_eq_iff (es es' : List CanalEvent) :
    serializeEvents es = serializeEvents es' ↔
      es.map CanalEvent.published = es'.map CanalEvent.published := by
  constructor
  · intro h
    have hinj : Function.Injective fun p : KafkaPayload => (p.schema, p.json.text) :=
      fun p p' hp => KafkaPayload.json_inj (Tree.text_inj (Prod.mk.inj hp).2)
    have hpayload : es.map kafkaPayload = es'.map kafkaPayload := by
      apply List.map_injective_iff.mpr hinj
      rw [List.map_map, List.map_map]
      exact h
    have hevent := congrArg (List.map KafkaPayload.event) hpayload
    simp only [List.map_map, Function.comp_def, event_kafkaPayload] at hevent
    exact hevent
  · intro h
    have hmsg := congrArg (List.map fun e : CanalEvent =>
      (e.schemaName, (kafkaPayload e).json.text)) h
    simp only [List.map_map, Function.comp_def, kafkaPayload_published] at hmsg
    exact hmsg

example : (serializeEvents [storedEvent 200]).map Prod.snd =
    ["\x7b\"schema\":\"db\",\"table\":\"t\",\"type\":\"INSERT\",\"position\":200," ++
      "\"journal\":\"mysql-bin.000001\",\"server_id\":1,\"execute_time\":0\x7d"] := by
  decide +kernel

end Canal
