import Canal.Lib.BinarySearch
import Canal.Types

namespace Canal
set_option autoImplicit true

open KeyedLog

structure MemoryEventStore where
  buffer : List CanalEvent
  capacity : Nat
  batchIdSeq : Int64
  latestPosition : Option LogPosition
  firstPosition : Option LogPosition
  /-- Highest position dropped by eviction; none until the first drop. -/
  evictedWatermark : Option LogPosition
deriving DecidableEq

/-- What a put leaves: the store, the batch id or the message of the panic that ended the call,
and whether it reached `notify_waiters`. -/
structure PutOutcome where
  store : MemoryEventStore
  result : Except String Int64
  notified : Bool

/-- The index of the first element that fails `p`, on a slice partitioned by `p`; on any other slice
it is wherever the binary search of the standard library ends. -/
def partitionPoint (p : α → Bool) (slice : List α) : Nat := BinarySearch.bisect p slice

namespace MemoryEventStore

def new (capacity : Nat) : MemoryEventStore :=
  { buffer := [], capacity, batchIdSeq := 0, latestPosition := none, firstPosition := none,
    evictedWatermark := none }

/-- The running maximum of `if cur.is_none_or(|cur| pos > *cur)`. -/
def raise (cur pos : Option LogPosition) : Option LogPosition :=
  match cur, pos with
  | cur, none => cur
  | none, some p => some p
  | some c, some p => if c.lt p then some p else some c

/-- How many buffered events make room for `incoming` more. -/
def drainCount (s : MemoryEventStore) (incoming : Nat) : Nat :=
  let total := s.buffer.length + incoming
  if s.capacity < total then min (total - s.capacity) s.buffer.length else 0

/-- How many events of an oversized batch are cut off its head. -/
def skipCount (s : MemoryEventStore) (incoming : Nat) : Nat :=
  if s.capacity < incoming then incoming - s.capacity else 0

/-- The position of the last of the first `n` events. -/
def lastDropped (n : Nat) (events : List CanalEvent) : Option LogPosition :=
  if 0 < n then events[n - 1]?.map CanalEvent.logPosition else none

def monotonicMessage : String :=
  "put_batch: events must be fed in monotonic (journal_suffix, position) order"

/-- `put_batch`; the ordering check runs in builds with debug assertions only. -/
def putBatch (debugAssertions : Bool) (s : MemoryEventStore) (events : List CanalEvent) :
    PutOutcome :=
  if events.isEmpty then { store := s, result := .ok 0, notified := false }
  else
    let batchId := s.batchIdSeq
    let drain := s.drainCount events.length
    let skip := s.skipCount events.length
    let evicted := raise (lastDropped drain s.buffer) (lastDropped skip events)
    let buffer := s.buffer.drop drain
    let events := events.drop skip
    let s := { s with
      buffer
      batchIdSeq := batchId + 1
      evictedWatermark := raise s.evictedWatermark evicted }
    match events.head?, events.getLast? with
    | some first, some last =>
      let ordered := buffer.getLast?.all fun tail => decide (tail.key ≤ first.key)
      if debugAssertions && !ordered then
        { store := s, result := .error monotonicMessage, notified := false }
      else
        { store := { s with
            firstPosition := some (buffer.head?.getD first).logPosition
            latestPosition := some last.logPosition
            buffer := buffer ++ events }
          result := .ok batchId
          notified := true }
    | _, _ => { store := s, result := .error "index out of bounds", notified := false }

end MemoryEventStore

namespace LogPosition

/-- Whether a read may begin at the event: a timestamp cursor selects by execute time, any other
cursor by position and exclusively. -/
def selects (start : LogPosition) (e : CanalEvent) : Bool :=
  match start.timestamp with
  | some ts => ts ≤ e.executeTime
  | none => start.key < e.key

end LogPosition

namespace MemoryEventStore

/-- Where the locked part of `get_batch` starts reading. -/
def startIndex (start : LogPosition) (slice : List CanalEvent) : Nat :=
  match start.timestamp with
  | some ts => slice.findIdx fun e => ts ≤ e.executeTime
  | none => partitionPoint (fun e => e.key ≤ start.key) slice

/-- `slice[start_idx..end]` for an index below the length. -/
def sliceFrom (startIdx batchSize : Nat) (slice : List CanalEvent) : List CanalEvent :=
  let baseEnd := min (startIdx + max batchSize 1) slice.length
  match slice[baseEnd - 1]? with
  | some last =>
    let stop := ((slice.drop baseEnd).takeWhile fun e => e.key = last.key).length + baseEnd
    (slice.take stop).drop startIdx
  | none => []

/-- The part of `get_batch` that holds the buffer lock. -/
def lockedRead (s : MemoryEventStore) (start : LogPosition) (batchSize : Nat) :
    MemoryEventStore × Option Events :=
  let startIdx := startIndex start s.buffer
  if startIdx < s.buffer.length then
    let batchId := s.batchIdSeq
    let events := sliceFrom startIdx batchSize s.buffer
    ({ s with batchIdSeq := batchId + 1 },
      if !events.isEmpty then some (Events.withEvents events batchId) else none)
  else (s, none)

end MemoryEventStore

/-- Where a `get_batch` call stands: at the head of its loop, holding a `Notified` it has not
awaited yet, or waiting. The flag says whether a put has completed that `Notified`. -/
inductive GetBatchStage
  | loopHead
  | armed (notified : Bool)
  | waiting (notified : Bool)
deriving DecidableEq

/-- A running `get_batch` call. -/
structure GetBatch where
  start : LogPosition
  batchSize : Nat
  stage : GetBatchStage := .loopHead
deriving DecidableEq

/-- What `notify_waiters` does to one call. -/
def GetBatch.notify (g : GetBatch) : GetBatch :=
  { g with stage := match g.stage with
      | .loopHead => .loopHead
      | .armed _ => .armed true
      | .waiting _ => .waiting true }

end Canal
