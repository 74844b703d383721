import Canal.Lib.BinarySearch
import Canal.StoreHistory

namespace Canal
set_option autoImplicit true

open KeyedLog BinarySearch

/-- How an index expression panics. -/
inductive Panic
  | addOverflow
  | subOverflow
  | indexOutOfBounds (len index : Nat)
  | sliceStart (start len : Nat)
  | sliceOrder (start stop : Nat)
  | sliceEnd (stop len : Nat)
deriving DecidableEq

/-- `slice[i]`. -/
def sliceIndex (slice : List α) (i : Nat) : Except Panic α :=
  match slice[i]? with
  | some x => .ok x
  | none => .error (.indexOutOfBounds slice.length i)

/-- `slice[start..]`. -/
def sliceTail (slice : List α) (start : Nat) : Except Panic (List α) :=
  if slice.length < start then .error (.sliceStart start slice.length) else .ok (slice.drop start)

/-- `slice[start..stop]`. -/
def sliceRange (slice : List α) (start stop : Nat) : Except Panic (List α) :=
  if stop < start then .error (.sliceOrder start stop)
  else if slice.length < stop then .error (.sliceEnd stop slice.length)
  else .ok ((slice.take stop).drop start)

/-- What a build runs on: the width of `usize`, whether an overflow panics or wraps, and the
binary search of the standard library. -/
structure Machine where
  width : Nat
  overflowChecks : Bool
  search : PartitionPoint CanalEvent

namespace Machine

/-- `a + b` in `usize`. -/
def add (m : Machine) (a b : Nat) : Except Panic Nat :=
  if a + b < 2 ^ m.width then .ok (a + b)
  else if m.overflowChecks then .error .addOverflow
  else .ok ((a + b) % 2 ^ m.width)

/-- `a - b` in `usize`. -/
def sub (m : Machine) (a b : Nat) : Except Panic Nat :=
  if b ≤ a then .ok (a - b)
  else if m.overflowChecks then .error .subOverflow
  else .ok (a + 2 ^ m.width - b)

/-- Where `get_batch` starts to read. -/
def startIndex (m : Machine) (start : LogPosition) (slice : List CanalEvent) : Nat :=
  match start.timestamp with
  | some ts => slice.findIdx fun e => ts ≤ e.executeTime
  | none => m.search.find (fun e => e.key ≤ start.key) slice

/-- `slice[start_idx..end]`, for an index below the length. -/
def sliceFrom (m : Machine) (startIdx batchSize : Nat) (slice : List CanalEvent) :
    Except Panic (List CanalEvent) := do
  let stop ← m.add startIdx (max batchSize 1)
  let baseEnd := min stop slice.length
  let lastIdx ← m.sub baseEnd 1
  let last ← sliceIndex slice lastIdx
  let tail ← sliceTail slice baseEnd
  let stop ← m.add (tail.takeWhile fun e => e.key = last.key).length baseEnd
  sliceRange slice startIdx stop

/-- The part of `get_batch` that holds the buffer lock. -/
def lockedRead (m : Machine) (s : MemoryEventStore) (start : LogPosition) (batchSize : Nat) :
    MemoryEventStore × Except Panic (Option Events) :=
  let startIdx := m.startIndex start s.buffer
  if startIdx < s.buffer.length then
    let batchId := s.batchIdSeq
    ({ s with batchIdSeq := batchId + 1 },
      (m.sliceFrom startIdx batchSize s.buffer).map fun events =>
        if !events.isEmpty then some (Events.withEvents events batchId) else none)
  else (s, .ok none)

/-- What the read is meant to return: the page that starts at the start index. -/
def intendedRead (m : Machine) (s : MemoryEventStore) (start : LogPosition) (batchSize : Nat) :
    MemoryEventStore × Except Panic (Option Events) :=
  let rest := s.buffer.drop (m.startIndex start s.buffer)
  if rest = [] then (s, .ok none)
  else
    ({ s with batchIdSeq := s.batchIdSeq + 1 },
      .ok (some (Events.withEvents (page CanalEvent.key (max batchSize 1) rest) s.batchIdSeq)))

theorem startIndex_eq (m : Machine) (start : LogPosition) (h : Ascending CanalEvent.key slice) :
    m.startIndex start slice = MemoryEventStore.startIndex start slice := by
  unfold startIndex MemoryEventStore.startIndex
  cases start.timestamp with
  | some ts => rfl
  | none =>
    simp only [partitionPoint]
    rw [← h.upTo_append_after start.key]
    apply m.search.find_eq
    · intro e he
      exact decide_eq_true (mem_upTo.1 he).2
    · intro e he
      exact decide_eq_false (not_le.2 (mem_after.1 he).2)

theorem drop_startIndex (m : Machine) {start : LogPosition} (hs : start.timestamp = none)
    (h : Ascending CanalEvent.key slice) :
    slice.drop (m.startIndex start slice) = after CanalEvent.key start.key slice := by
  rw [m.startIndex_eq start h, MemoryEventStore.drop_startIndex,
    LogPosition.readable_positional hs h]

theorem intendedRead_eq (m : Machine) (s : MemoryEventStore) (start : LogPosition) (n : Nat)
    (h : Ascending CanalEvent.key s.buffer) :
    m.intendedRead s start n = ((s.lockedRead start n).1, .ok (s.lockedRead start n).2) := by
  rw [MemoryEventStore.lockedRead_eq, intendedRead, m.startIndex_eq start h,
    MemoryEventStore.drop_startIndex]
  split <;> rfl

section Words

variable {m : Machine} {startIdx n : Nat} {slice : List CanalEvent}

theorem sliceFrom_fits (hi : startIdx < slice.length) (hl : slice.length < 2 ^ m.width)
    (hf : startIdx + max n 1 < 2 ^ m.width) :
    m.sliceFrom startIdx n slice =
      .ok (page CanalEvent.key (max n 1) (slice.drop startIdx)) := by
  rw [← MemoryEventStore.sliceFrom_eq_page hi]
  have hb : min (startIdx + max n 1) slice.length - 1 < slice.length := by omega
  obtain ⟨last, hlast⟩ : ∃ e, slice[min (startIdx + max n 1) slice.length - 1]? = some e :=
    ⟨_, List.getElem?_eq_getElem hb⟩
  have hc : ((slice.drop (min (startIdx + max n 1) slice.length)).takeWhile
      fun e => e.key = last.key).length ≤
        slice.length - min (startIdx + max n 1) slice.length := by
    rw [← List.length_drop]
    exact (List.takeWhile_sublist _).length_le
  have hstop : ((slice.drop (min (startIdx + max n 1) slice.length)).takeWhile
      fun e => e.key = last.key).length + min (startIdx + max n 1) slice.length < 2 ^ m.width := by
    omega
  have hone : 1 ≤ min (startIdx + max n 1) slice.length := by omega
  have hmin : ¬ slice.length < min (startIdx + max n 1) slice.length := by omega
  simp only [sliceFrom, MemoryEventStore.sliceFrom, add, sub, sliceIndex, sliceTail, sliceRange,
    hf, hlast, hone, hmin, hstop, if_true, if_false, bind, Except.bind]
  rw [if_neg (by omega), if_neg (by omega)]

theorem sliceFrom_checked (hc : m.overflowChecks = true) (hf : 2 ^ m.width ≤ startIdx + max n 1) :
    m.sliceFrom startIdx n slice = .error .addOverflow := by
  simp only [sliceFrom, add, hc, not_lt.2 hf, if_true, if_false, bind, Except.bind]

/-- Where the sum wraps, the read goes on from `startIdx + n - 2 ^ width`, which lies before the
start index. -/
theorem sliceFrom_wraps (hc : m.overflowChecks = false) (hi : startIdx < slice.length)
    (hl : slice.length < 2 ^ m.width) (hn : n < 2 ^ m.width) (hv : 0 < v)
    (hf : startIdx + max n 1 = v + 2 ^ m.width) (hlast : slice[v - 1]? = some last) :
    m.sliceFrom startIdx n slice =
      sliceRange slice startIdx
        (((slice.drop v).takeWhile fun e => e.key = last.key).length + v) := by
  have hmod : (startIdx + max n 1) % 2 ^ m.width = v := by
    rw [hf, Nat.add_mod_right, Nat.mod_eq_of_lt (by omega)]
  have hmin : min v slice.length = v := by omega
  have hcount : ((slice.drop v).takeWhile fun e => e.key = last.key).length ≤
      slice.length - v := by
    rw [← List.length_drop]
    exact (List.takeWhile_sublist _).length_le
  have hadd : ¬ startIdx + max n 1 < 2 ^ m.width := by omega
  have hstop : ((slice.drop v).takeWhile fun e => e.key = last.key).length + v < 2 ^ m.width := by
    omega
  have hone : 1 ≤ v := hv
  have htail : ¬ slice.length < v := by omega
  simp only [sliceFrom, add, sub, sliceIndex, sliceTail, hc, hadd, hmod, hmin, hone, hlast, htail,
    hstop, if_true, if_false, bind, Except.bind, Bool.false_eq_true]

theorem sliceFrom_wraps_zero (hc : m.overflowChecks = false)
    (hl : slice.length < 2 ^ m.width) (hf : startIdx + max n 1 = 2 ^ m.width) :
    m.sliceFrom startIdx n slice =
      .error (.indexOutOfBounds slice.length (2 ^ m.width - 1)) := by
  have hmod : (startIdx + max n 1) % 2 ^ m.width = 0 := by rw [hf, Nat.mod_self]
  have hadd : ¬ startIdx + max n 1 < 2 ^ m.width := by omega
  have hone : ¬ 1 ≤ 0 := by omega
  have hnone : slice[2 ^ m.width - 1]? = none := List.getElem?_eq_none (by omega)
  simp only [sliceFrom, add, sub, sliceIndex, hc, hadd, hmod, Nat.zero_min, hone, hnone, if_false,
    bind, Except.bind, Bool.false_eq_true, Nat.zero_add]

theorem sliceRange_eq_drop (hi : start < l.length) (hs : stop ≤ l.length) :
    sliceRange l start stop = .ok (l.drop start) ↔ l.length ≤ stop := by
  unfold sliceRange
  constructor
  · intro h
    split at h
    · cases h
    · split at h
      · omega
      · injection h with h
        have hlen := congrArg List.length h
        simp only [List.length_drop, List.length_take] at hlen
        omega
  · intro h
    rw [if_neg (by omega), if_neg (by omega), List.take_of_length_le h]

theorem length_le_takeWhile {p : α → Bool} {l : List α} :
    l.length ≤ (l.takeWhile p).length ↔ ∀ x ∈ l, p x = true := by
  rw [← List.takeWhile_eq_self_iff]
  constructor
  · intro h
    exact (List.takeWhile_sublist p).eq_of_length_le h
  · intro h
    rw [h]

/-- A read that wraps returns the right events only if everything from the entry before the
wrapped index on is one group. -/
theorem sliceFrom_wraps_iff (hc : m.overflowChecks = false) (hi : startIdx < slice.length)
    (hl : slice.length < 2 ^ m.width) (hn : n < 2 ^ m.width)
    (hf : startIdx + max n 1 = v + 2 ^ m.width) :
    m.sliceFrom startIdx n slice = .ok (slice.drop startIdx) ↔
      ∃ last, (slice.take v).getLast? = some last ∧ ∀ e ∈ slice.drop v, e.key = last.key := by
  cases v with
  | zero =>
    rw [sliceFrom_wraps_zero hc hl (by omega)]
    constructor
    · intro h
      cases h
    · rintro ⟨last, h, -⟩
      cases h
  | succ v =>
    have hlt : v < slice.length := by omega
    have hlast : slice[v + 1 - 1]? = some slice[v] := List.getElem?_eq_getElem hlt
    have htake : (slice.take (v + 1)).getLast? = some slice[v] := by
      rw [List.take_add_one, List.getElem?_eq_getElem hlt, Option.toList_some, List.getLast?_concat]
    have hdrop : (slice.drop (v + 1)).length = slice.length - (v + 1) := List.length_drop ..
    have hcount := (List.takeWhile_sublist
      (l := slice.drop (v + 1)) fun e => decide (e.key = slice[v].key)).length_le
    have hpos : 0 < v + 1 := Nat.succ_pos v
    rw [sliceFrom_wraps hc hi hl hn hpos hf hlast, sliceRange_eq_drop hi (by omega)]
    constructor
    · intro h
      have hle : (slice.drop (v + 1)).length ≤
          ((slice.drop (v + 1)).takeWhile fun e => e.key = slice[v].key).length := by omega
      exact ⟨_, htake, fun e he => of_decide_eq_true (length_le_takeWhile.1 hle e he)⟩
    · rintro ⟨last, hl', hall⟩
      rw [htake, Option.some.injEq] at hl'
      subst hl'
      have hle : (slice.drop (v + 1)).length ≤
          ((slice.drop (v + 1)).takeWhile fun e => e.key = slice[v].key).length :=
        length_le_takeWhile.2 fun e he => decide_eq_true (hall e he)
      omega

end Words

/-- Where the sum fits or nothing is readable, every build returns what is meant. -/
theorem lockedRead_fits (m : Machine) (s : MemoryEventStore) (start : LogPosition) (n : Nat)
    (hlen : s.buffer.length < 2 ^ m.width)
    (hf : s.buffer.length ≤ m.startIndex start s.buffer ∨
      m.startIndex start s.buffer + max n 1 < 2 ^ m.width) :
    m.lockedRead s start n = m.intendedRead s start n := by
  unfold lockedRead intendedRead
  simp only [List.drop_eq_nil_iff]
  by_cases hi : s.buffer.length ≤ m.startIndex start s.buffer
  · rw [if_neg (not_lt.2 hi), if_pos hi]
  · have hlt := not_le.1 hi
    have hne : page CanalEvent.key (max n 1) (s.buffer.drop (m.startIndex start s.buffer)) ≠ [] :=
      page_ne_nil (by omega) (by rwa [Ne, List.drop_eq_nil_iff])
    rw [if_pos hlt, if_neg hi, sliceFrom_fits hlt hlen (hf.resolve_left hi)]
    simp only [Except.map, List.isEmpty_eq_false_iff.2 hne, Bool.not_false, if_true]

theorem lockedRead_checked (m : Machine) (s : MemoryEventStore) (start : LogPosition) (n : Nat)
    (hc : m.overflowChecks = true) (hi : m.startIndex start s.buffer < s.buffer.length)
    (hf : 2 ^ m.width ≤ m.startIndex start s.buffer + max n 1) :
    (m.lockedRead s start n).2 = .error .addOverflow := by
  simp only [lockedRead, hi, if_true, sliceFrom_checked hc hf, Except.map]

theorem intendedRead_ok (m : Machine) (s : MemoryEventStore) (start : LogPosition) (n : Nat) :
    ∃ read, (m.intendedRead s start n).2 = .ok read := by
  unfold intendedRead
  simp only
  split <;> exact ⟨_, rfl⟩

/-- The read of a build without overflow checks is right after a wrapped sum by chance only. -/
theorem lockedRead_wraps_iff (m : Machine) (s : MemoryEventStore) (start : LogPosition) (n : Nat)
    (hc : m.overflowChecks = false) (hi : m.startIndex start s.buffer < s.buffer.length)
    (hlen : s.buffer.length < 2 ^ m.width) (hn : n < 2 ^ m.width)
    (hf : m.startIndex start s.buffer + max n 1 = v + 2 ^ m.width) :
    m.lockedRead s start n = m.intendedRead s start n ↔
      ∃ last, (s.buffer.take v).getLast? = some last ∧
        ∀ e ∈ s.buffer.drop v, e.key = last.key := by
  rw [← sliceFrom_wraps_iff hc hi hlen hn hf]
  generalize hidx : m.startIndex start s.buffer = i at hi hf
  have hne : s.buffer.drop i ≠ [] := by
    rw [Ne, List.drop_eq_nil_iff]
    omega
  have hpage : page CanalEvent.key (max n 1) (s.buffer.drop i) = s.buffer.drop i := by
    apply page_eq_self
    rw [List.length_drop]
    omega
  simp only [lockedRead, intendedRead, hidx, hi, hne, hpage, if_true, if_false, Prod.mk.injEq,
    true_and]
  constructor
  · intro h
    cases hs : m.sliceFrom i n s.buffer with
    | error p =>
      rw [hs] at h
      cases h
    | ok events =>
      rw [hs] at h
      simp only [Except.map, Except.ok.injEq] at h
      split at h
      · rw [Option.some.injEq] at h
        exact congrArg (fun b : Events => Except.ok b.events) h
      · cases h
  · intro h
    rw [h]
    simp only [Except.map, List.isEmpty_eq_false_iff.2 hne, Bool.not_false, if_true]

/-- Every build reads what is meant if and only if nothing is readable or the first readable index
and the batch size add up to a word. A build without overflow checks is wrong on all other inputs
but those where all events from the entry before the wrapped index on have one key. -/
theorem lockedRead_intended_iff (width : Nat) (search : PartitionPoint CanalEvent)
    (s : MemoryEventStore) (start : LogPosition) (batchSize : Nat)
    (hlen : s.buffer.length < 2 ^ width) (hsize : batchSize < 2 ^ width) :
    let build (overflowChecks : Bool) : Machine := { width, overflowChecks, search }
    let first := (build true).startIndex start s.buffer
    let fits := s.buffer.length ≤ first ∨ first + max batchSize 1 < 2 ^ width
    let wrapped := first + max batchSize 1 - 2 ^ width
    ((∀ checks, (build checks).lockedRead s start batchSize =
      (build checks).intendedRead s start batchSize) ↔ fits) ∧
    ((build false).lockedRead s start batchSize = (build false).intendedRead s start batchSize ↔
      fits ∨ ∃ last, (s.buffer.take wrapped).getLast? = some last ∧
        ∀ e ∈ s.buffer.drop wrapped, e.key = last.key) := by
  intro build first fits wrapped
  have hfirst : ∀ checks, (build checks).startIndex start s.buffer = first := fun _ => rfl
  by_cases hfit : fits
  · have hread : ∀ checks, (build checks).lockedRead s start batchSize =
        (build checks).intendedRead s start batchSize :=
      fun checks => (build checks).lockedRead_fits s start batchSize hlen hfit
    exact ⟨iff_of_true hread hfit, iff_of_true (hread false) (.inl hfit)⟩
  · have hn := hfit
    simp only [fits, not_or, not_le, not_lt] at hn
    obtain ⟨hlt, hover⟩ := hn
    constructor
    · refine iff_of_false ?_ hfit
      intro h
      have hp := (build true).lockedRead_checked s start batchSize rfl hlt hover
      obtain ⟨read, hr⟩ := (build true).intendedRead_ok s start batchSize
      rw [h true, hr] at hp
      cases hp
    · rw [or_iff_right hfit]
      exact (build false).lockedRead_wraps_iff s start batchSize rfl hlt hlen hsize
        (Nat.sub_add_cancel hover).symm

/-- Two rows of one binlog event and a later event. -/
def pairThenOne : MemoryEventStore :=
  ((MemoryEventStore.new 4).putBatch true
    [storedEvent 100, storedEvent 100, storedEvent 200]).store

theorem pairThenOne_startIndex (m : Machine) :
    m.startIndex (.new "mysql-bin.000001" 100) pairThenOne.buffer = 2 := by
  have h : Ascending CanalEvent.key pairThenOne.buffer := by
    unfold Ascending
    decide
  rw [m.startIndex_eq _ h]
  decide

/-- A cursor after the pair and the largest size: one build panics, the other reports that there
is nothing to read. -/
theorem lockedRead_largest_size :
    let build (overflowChecks : Bool) : Machine :=
      { width := 64, overflowChecks, search := .binary }
    let read (checks : Bool) :=
      (build checks).lockedRead pairThenOne (.new "mysql-bin.000001" 100) (2 ^ 64 - 1)
    (read true).2 = .error .addOverflow ∧ (read false).2 = .ok none ∧
      ((build false).intendedRead pairThenOne (.new "mysql-bin.000001" 100) (2 ^ 64 - 1)).2 =
        .ok (some (.withEvents [storedEvent 200] 1)) := by
  intro build read
  have hi : ∀ checks, (build checks).startIndex (.new "mysql-bin.000001" 100)
      pairThenOne.buffer = 2 := fun checks => (build checks).pairThenOne_startIndex
  have hlen : pairThenOne.buffer.length = 3 := by decide
  refine ⟨?_, ?_, ?_⟩
  · exact lockedRead_checked _ _ _ _ rfl (by rw [hi, hlen]; omega) (by rw [hi]; decide)
  · have hs : (build false).sliceFrom 2 (2 ^ 64 - 1) pairThenOne.buffer = .ok [] := by
      have hlast : pairThenOne.buffer[1 - 1]? = some (storedEvent 100) := by decide
      have hw : max (2 ^ 64 - 1) 1 + 2 = 1 + 2 ^ (build false).width := by decide
      rw [sliceFrom_wraps rfl (by rw [hlen]; omega) (by rw [hlen]; decide) (by decide)
        Nat.zero_lt_one (by rw [Nat.add_comm]; exact hw) hlast]
      decide
    simp only [read, lockedRead, hi, hs, hlen, Except.map]
    rfl
  · unfold intendedRead
    rw [hi]
    decide

theorem lockedRead_intended_fetch :
    ((({ width := 64, overflowChecks := true, search := .binary } : Machine).startIndex
      (.new "mysql-bin.000001" 100) pairThenOne.buffer) + max 10000 1 < 2 ^ 64) ∧
    ∀ checks, ({ width := 64, overflowChecks := checks, search := .binary } : Machine).lockedRead
        pairThenOne (.new "mysql-bin.000001" 100) 10000 =
      ({ width := 64, overflowChecks := checks, search := .binary } : Machine).intendedRead
        pairThenOne (.new "mysql-bin.000001" 100) 10000 := by
  have hf : ({ width := 64, overflowChecks := true, search := .binary } : Machine).startIndex
      (.new "mysql-bin.000001" 100) pairThenOne.buffer + max 10000 1 < 2 ^ 64 := by
    rw [pairThenOne_startIndex]
    decide
  exact ⟨hf, (lockedRead_intended_iff 64 .binary pairThenOne (.new "mysql-bin.000001" 100) 10000
    (by decide) (by decide)).1.2 (.inr hf)⟩

end Machine

end Canal
