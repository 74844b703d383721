import Canal.Replication

namespace Canal
set_option autoImplicit true

/-- What was offered to the channel. -/
def offers (notes : List ReplicationNote) : List Offer :=
  notes.filterMap fun
    | .offered offer => some offer
    | .committed .. => none

/-- The loop beside the attempts that failed since the last one that did not: for each, latest
first, the position that `last_error_pos` is meant to hold. -/
structure Attempts where
  loop : Replication
  failed : List (String × UInt64) := []

namespace Attempts

/-- The position of an attempt at an event. -/
def positionOf (s : Replication) (header : EventHeader) (event : BinlogEvent) : String × UInt64 :=
  (event.rotateFilename.getD s.currentBinlogFile, header.nextEventPosition.toUInt64)

/-- The event that a turn processes. -/
def processed (s : Replication) : Pull → Option (EventHeader × BinlogEvent)
  | .item header event cancelled =>
    if s.ended || cancelled then none else some (header, event)
  | _ => none

def step (floats : FloatText) (s : Attempts) (pull : Pull) : Attempts × List ReplicationNote :=
  let (loop, notes) := s.loop.step floats pull
  let failed := match processed s.loop pull with
    | some (header, event) =>
      if (offers notes).all Offer.good then []
      else positionOf s.loop header event :: s.failed
    | none => s.failed
  ({ loop, failed }, notes)

/-- The attempt is the last of `maxConsecutiveErrors` in a row at its position. -/
def Exhausted (s : Attempts) (header : EventHeader) (event : BinlogEvent) : Prop :=
  s.failed.take (maxConsecutiveErrors - 1) =
    List.replicate (maxConsecutiveErrors - 1) (positionOf s.loop header event)

/-- The loop commits an event only when the channel took all its items, and unless it has been
tried often enough only when all of them are events. -/
def Disciplined (floats : FloatText) (s : Attempts) (pull : Pull) : Prop :=
  ∀ header event, .committed header event ∈ (s.step floats pull).2 →
    (∀ offer ∈ offers (s.step floats pull).2, offer.accepted = true) ∧
      ((∀ offer ∈ offers (s.step floats pull).2, offer.item.isOk = true) ∨
        s.Exhausted header event)

end Attempts

namespace BinlogEvent

/-- How many items an event comes to. -/
def itemCount : BinlogEvent → Nat
  | .query .. => 1
  | .writeRows _ rows => rows.length
  | .updateRows _ rows => rows.length
  | .deleteRows _ rows => rows.length
  | _ => 0

/-- The table whose rows an event carries. -/
def rowTable : BinlogEvent → Option UInt64
  | .writeRows tableId rows => if rows.isEmpty then none else some tableId
  | .updateRows tableId rows => if rows.isEmpty then none else some tableId
  | .deleteRows tableId rows => if rows.isEmpty then none else some tableId
  | _ => none

end BinlogEvent

namespace Attempts

/-- The channel takes all items of the event that is about to be processed, and its rows have a
TableMap or have been tried often enough. -/
def Convertible (s : Attempts) (pull : Pull) : Prop :=
  ∀ header event, processed s.loop pull = some (header, event) →
    (∀ n, s.loop.tx.remaining = some n → event.itemCount ≤ n) ∧
      ((∀ tableId, event.rowTable = some tableId →
        (s.loop.converter.tableMap.get tableId).isSome = true) ∨ s.Exhausted header event)

end Attempts

namespace EventChannel

theorem items_sendEach (tx : EventChannel) (items : List EventItem) :
    (tx.sendEach items).2.map Offer.item = items := by
  induction items generalizing tx with
  | nil => rfl
  | cons item items ih =>
    have hitem : (tx.blockingSend item).2.item = item := by
      unfold blockingSend
      split <;> rfl
    simp only [sendEach, List.map_cons, hitem, ih]

theorem accepted_sendEach (tx : EventChannel) (items : List EventItem) :
    (∀ offer ∈ (tx.sendEach items).2, offer.accepted = true) ↔
      ∀ n, tx.remaining = some n → items.length ≤ n := by
  induction items generalizing tx with
  | nil => simp [sendEach]
  | cons item items ih =>
    obtain ⟨remaining⟩ := tx
    simp only [sendEach, List.forall_mem_cons, ih, List.length_cons]
    rcases remaining with _ | _ | n
    · simp [blockingSend]
    · simp [blockingSend]
    · simp [blockingSend]

end EventChannel

namespace DefaultBinlogConnector

theorem length_eventItems (floats : FloatText) (header : EventHeader) (event : BinlogEvent)
    (converter : EventConverter) (file : String) (gtid : Option String) :
    (eventItems floats header event converter file gtid).length = event.itemCount := by
  cases event <;> simp [eventItems, BinlogEvent.itemCount]

theorem eventItems_isOk (floats : FloatText) (header : EventHeader) (event : BinlogEvent)
    (converter : EventConverter) (file : String) (gtid : Option String) :
    (∀ item ∈ eventItems floats header event converter file gtid, item.isOk = true) ↔
      ∀ tableId, event.rowTable = some tableId →
        (converter.tableMap.get tableId).isSome = true := by
  have hrows : ∀ {Row : Type} (rows : List Row) (tableId : UInt64) (f : Row → EventItem),
      (∀ row, (f row).isOk = (converter.tableMap.get tableId).isSome) →
      ((∀ item ∈ rows.map f, item.isOk = true) ↔
        ∀ id, (if rows.isEmpty then none else some tableId) = some id →
          (converter.tableMap.get id).isSome = true) := by
    intro Row rows tableId f hf
    cases rows with
    | nil => simp
    | cons row rows =>
      simp only [List.forall_mem_map, hf, List.isEmpty_cons, Bool.false_eq_true, if_false,
        Option.some.injEq, forall_eq']
      exact ⟨fun h => h row (List.mem_cons_self ..), fun h _ _ => h⟩
  cases event with
  | query => simp [eventItems, BinlogEvent.rowTable, Except.isOk, Except.toBool]
  | writeRows tableId rows | deleteRows tableId rows | updateRows tableId rows =>
    apply hrows
    intro row
    simp only [eventItems.insertItem, eventItems.deleteItem, eventItems.updateItem,
      EventConverter.handleRowEvent, EventConverter.handleUpdateRowEvent]
    cases converter.tableMap.get tableId <;> rfl
  | _ => simp [eventItems, BinlogEvent.rowTable]

end DefaultBinlogConnector

theorem offers_committed (os : List Offer) (header : EventHeader) (event : BinlogEvent) :
    offers (os.map ReplicationNote.offered ++ [.committed header event]) = os := by
  induction os with
  | nil => rfl
  | cons offer os ih => exact congrArg (List.cons offer) ih

namespace Attempts

theorem step_commits (floats : FloatText) (s : Attempts) (pull : Pull) :
    (processed s.loop pull = none ∧
      ∀ header event, ReplicationNote.committed header event ∉ (s.step floats pull).2) ∨
    ∃ header event items, processed s.loop pull = some (header, event) ∧
      (s.step floats pull).2 = (s.loop.tx.sendEach items).2.map ReplicationNote.offered ++
        [.committed header event] ∧
      items.length = event.itemCount ∧
      ((∀ item ∈ items, item.isOk = true) ↔ ∀ tableId, event.rowTable = some tableId →
        (s.loop.converter.tableMap.get tableId).isSome = true) := by
  simp only [step, Replication.step, processed]
  cases hended : s.loop.ended with
  | true => exact .inl ⟨by cases pull <;> rfl, fun _ _ => List.not_mem_nil⟩
  | false =>
    cases pull with
    | item header event cancelled =>
      cases cancelled with
      | true => exact .inl ⟨rfl, fun _ _ => List.not_mem_nil⟩
      | false =>
        right
        let items := DefaultBinlogConnector.eventItems floats header event s.loop.converter
          (event.rotateFilename.getD s.loop.currentBinlogFile)
          (event.gtidText.or s.loop.currentGtid)
        refine ⟨header, event, items, rfl, ?_, ?_, ?_⟩
        · simp only [Bool.false_eq_true, if_false, Replication.handle_eq]
          rfl
        · exact DefaultBinlogConnector.length_eventItems ..
        · exact DefaultBinlogConnector.eventItems_isOk ..
    | streamError message cancelled =>
      left
      cases cancelled <;> simp
    | panicked message =>
      left
      simp
    | done =>
      left
      simp

theorem disciplined_iff (floats : FloatText) (s : Attempts) (pull : Pull) :
    s.Disciplined floats pull ↔ s.Convertible pull := by
  rcases s.step_commits floats pull with
    ⟨hnone, hno⟩ | ⟨header, event, items, hproc, hnotes, hcount, hok⟩
  · constructor
    · intro _ header event hproc
      rw [hnone] at hproc
      cases hproc
    · intro _ header event hcom
      exact absurd hcom (hno header event)
  · have hoffers : offers (s.step floats pull).2 = (s.loop.tx.sendEach items).2 := by
      rw [hnotes, offers_committed]
    have haccepted := s.loop.tx.accepted_sendEach items
    have hitems : (∀ offer ∈ (s.loop.tx.sendEach items).2, offer.item.isOk = true) ↔
        ∀ item ∈ items, item.isOk = true := by
      conv => rhs; rw [← s.loop.tx.items_sendEach items]
      rw [List.forall_mem_map]
    have hcommitted : ∀ header' event',
        ReplicationNote.committed header' event' ∈ (s.step floats pull).2 ↔
          header' = header ∧ event' = event := by
      intro header' event'
      rw [hnotes]
      simp
    constructor
    · intro h header' event' hproc'
      rw [hproc, Option.some.injEq, Prod.mk.injEq] at hproc'
      obtain ⟨rfl, rfl⟩ := hproc'
      have hd := h header event ((hcommitted header event).2 ⟨rfl, rfl⟩)
      rwa [hoffers, haccepted, hcount, hitems, hok] at hd
    · intro h header' event' hcom
      obtain ⟨rfl, rfl⟩ := (hcommitted header' event').1 hcom
      rw [hoffers, haccepted, hcount, hitems, hok]
      exact h header' event' hproc

/-- Commits are disciplined along a run if and only if every event the run processes can be
converted into what its channel still takes. -/
theorem commits_disciplined_iff (floats : FloatText) (startJournal : String) (tx : EventChannel)
    (pulls : List Pull) :
    Run.Along (step floats) (fun _ s pull => s.Disciplined floats pull)
        { loop := .start startJournal tx } pulls ↔
      Run.Along (step floats) (fun _ s pull => s.Convertible pull)
        { loop := .start startJournal tx } pulls := by
  simp only [disciplined_iff]

/-- A row without a TableMap, and a statement that a closed channel refuses. -/
theorem failed_event_committed :
    let floats : FloatText := { float := fun _ => "0", double := fun _ => "0" }
    let header : EventHeader := { timestamp := 0, serverId := 1, nextEventPosition := 200 }
    let row : BinlogEvent := .writeRows 7 [{ cells := [] }]
    let statement : BinlogEvent := .query "db" "DROP TABLE t"
    ¬ Run.Along (step floats) (fun _ s pull => s.Disciplined floats pull)
        { loop := .start "mysql-bin.000001" {} } [.item header row] ∧
      ¬ Run.Along (step floats) (fun _ s pull => s.Disciplined floats pull)
        { loop := .start "mysql-bin.000001" { remaining := some 0 } } [.item header statement] := by
  intro floats header row statement
  constructor
  · intro h
    have hcom : ReplicationNote.committed header row ∈
        (step floats { loop := .start "mysql-bin.000001" {} } (.item header row)).2 :=
      List.mem_cons_of_mem _ (List.mem_singleton_self _)
    rcases (h [] _ [] rfl header row hcom).2 with hok | hmany
    · exact absurd (hok _ (List.mem_singleton_self _)) (by decide)
    · cases hmany
  · intro h
    have hcom : ReplicationNote.committed header statement ∈
        (step floats { loop := .start "mysql-bin.000001" { remaining := some 0 } }
          (.item header statement)).2 :=
      List.mem_cons_of_mem _ (List.mem_singleton_self _)
    exact absurd ((h [] _ [] rfl header statement hcom).1 _ (List.mem_singleton_self _))
      (by decide)

end Attempts

end Canal
