import Mathlib.Algebra.Group.Int.Defs
import Mathlib.Algebra.Group.Nat.Defs
import Mathlib.Data.List.Infix
import Mathlib.Data.Prod.Lex
import Canal.Lib.Retention

namespace Canal
set_option autoImplicit true

inductive CanalError
  | binlogConnection (message : String)
  | positionNotFound (journal : String) (position : UInt64)
  | protocol (message : String)
  | authFailed (message : String)
  | io (message : String)
  | store (message : String)
  | config (message : String)
  | notFound (message : String)
  | internal (message : String)
deriving DecidableEq

/-- `str::parse::<u64>`: an optional plus sign, then decimal digits, within the range of `u64`. -/
def parseU64 (text : List Char) : Option UInt64 :=
  let digits := match text with
    | '+' :: ds => ds
    | ds => ds
  if digits.isEmpty || !digits.all Char.isDigit then none
  else
    let n := digits.foldl (fun n d => 10 * n + (d.toNat - '0'.toNat)) 0
    if n < UInt64.size then some (UInt64.ofNat n) else none

/-- The number after the last dot of a binlog file name; `u64::MAX` when there is none. -/
def binlogSuffix (journalName : String) : UInt64 :=
  let last := (journalName.toList.reverse.takeWhile (· ≠ '.')).reverse
  (parseU64 last).getD 0xFFFFFFFFFFFFFFFF

/-- The tuple `(binlog_suffix, position)` with its lexicographic order. -/
abbrev Key := ℕ ×ₗ ℕ

def Key.of (journalName : String) (position : UInt64) : Key :=
  toLex ((binlogSuffix journalName).toNat, position.toNat)

structure LogPosition where
  journalName : String
  position : UInt64
  timestamp : Option Int64 := none
  serverId : Option UInt64 := none
  gtid : Option String := none
deriving DecidableEq

namespace LogPosition

def new (journalName : String) (position : UInt64) : LogPosition := { journalName, position }

def key (p : LogPosition) : Key := Key.of p.journalName p.position

/-- `Ord for LogPosition`. -/
def cmp (p q : LogPosition) : Ordering :=
  (compare (binlogSuffix p.journalName) (binlogSuffix q.journalName)).then
    (compare p.position q.position)

/-- `PartialOrd::lt`, which goes through `cmp`. -/
def lt (p q : LogPosition) : Bool := p.cmp q == .lt

/-- `Display for LogPosition`. -/
def display (p : LogPosition) : String :=
  match p.gtid with
  | some gtid => p.journalName ++ ":" ++ toString p.position ++ ":" ++ gtid
  | none => p.journalName ++ ":" ++ toString p.position

theorem lt_iff (p q : LogPosition) : p.lt q = true ↔ p.key < q.key := by
  simp only [lt, cmp, key, Key.of, beq_iff_eq, Ordering.then_eq_lt, Prod.Lex.toLex_lt_toLex,
    Std.compare_eq_lt, Std.compare_eq_iff_eq, UInt64.lt_iff_toNat_lt, UInt64.toNat_inj]

end LogPosition

structure PositionRange where
  start : LogPosition
  stop : LogPosition
deriving DecidableEq

inductive EventType
  | insert | update | delete | ddl | query | rotate | xid | heartbeat
  | unknown (value : Int32)
deriving DecidableEq

inductive DmlType
  | insert | update | delete
deriving DecidableEq

structure ColumnValue where
  name : String
  value : Option String
  columnType : Int32
  isKey : Bool
  updated : Bool
deriving DecidableEq

structure RowData where
  columns : List ColumnValue
deriving DecidableEq

structure RowChange where
  tableName : String
  schemaName : String
  before : Option RowData
  after : Option RowData
  dmlType : DmlType
deriving DecidableEq

structure CanalEvent where
  journalName : String
  position : UInt64
  serverId : UInt64
  executeTime : Int64
  entryType : EventType
  schemaName : String
  tableName : String
  rowChange : Option RowChange
  ddlSql : Option String
  gtid : Option String
  rawBytes : List UInt8
deriving DecidableEq

namespace CanalEvent

def key (e : CanalEvent) : Key := Key.of e.journalName e.position

/-- `LogPosition::new(&e.journal_name, e.position)`. -/
def logPosition (e : CanalEvent) : LogPosition := .new e.journalName e.position

/-- The name a filter is matched against. -/
def fullName (e : CanalEvent) : String := e.schemaName ++ "." ++ e.tableName

@[simp] theorem key_logPosition (e : CanalEvent) : e.logPosition.key = e.key := rfl

end CanalEvent

/-- A row of `db.t`, as the tests build them. -/
def storedEvent (position : UInt64) : CanalEvent :=
  { journalName := "mysql-bin.000001", position, serverId := 1, executeTime := 0,
    entryType := .insert, schemaName := "db", tableName := "t", rowChange := none,
    ddlSql := none, gtid := none, rawBytes := [] }

structure Events where
  positionRange : PositionRange
  events : List CanalEvent
  batchId : Int64
deriving DecidableEq

namespace Events

def new (batchId : Int64) : Events :=
  { positionRange := { start := .new "" 0, stop := .new "" 0 }, events := [], batchId }

def withEvents (events : List CanalEvent) (batchId : Int64) : Events :=
  let (first, last) := match events.head?, events.getLast? with
    | some f, some l => (f.logPosition, l.logPosition)
    | _, _ => (.new "" 0, .new "" 0)
  { positionRange := { start := first, stop := last }, events, batchId }

def isEmpty (b : Events) : Bool := b.events.isEmpty

theorem withEvents_stop (h : es.getLast? = some e) (id : Int64) :
    (withEvents es id).positionRange.stop = e.logPosition := by
  cases es with
  | nil => cases h
  | cons a es => simp only [withEvents, List.head?_cons, h]

end Events

structure FilterPattern where
  pattern : String
  blackList : String
deriving DecidableEq

/-- `FilterPattern::default`. -/
def FilterPattern.default : FilterPattern := { pattern := ".*\\..*", blackList := "" }

end Canal
