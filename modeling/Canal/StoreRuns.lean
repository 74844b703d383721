import Canal.Lib.Run
import Canal.StoreHistory

namespace Canal
set_option autoImplicit true

open KeyedLog

inductive StoreOp
  | put (events : List CanalEvent)
  | get (start : LogPosition) (batchSize : Nat)

def storeStep (debugAssertions : Bool) (s : MemoryEventStore) :
    StoreOp → MemoryEventStore × List Events
  | .put events => ((s.putBatch debugAssertions events).store, [])
  | .get start batchSize =>
    let (s', read) := s.lockedRead start batchSize
    (s', read.toList)

/-- Everything handed to `put_batch`, in order. -/
def fed (ops : List StoreOp) : List CanalEvent :=
  ops.flatMap fun
    | .put events => events
    | .get .. => []

theorem Reflects.lockedRead (h : Reflects cap history s) (start : LogPosition) (n : Nat) :
    Reflects cap history (s.lockedRead start n).1 := by
  rw [MemoryEventStore.lockedRead_eq]
  split
  · exact h
  · exact ⟨h.capacity, h.buffer, h.first, h.latest, h.watermark⟩

theorem Reflects.lost_iff (h : Reflects cap history s)
    (hm : Ascending CanalEvent.key history) (c : LogPosition) :
    (∃ e ∈ dropped cap history, c.key < e.key) ↔
      ∃ w, s.evictedWatermark = some w ∧ c.lt w = true := by
  rw [hm.exists_dropped_iff]
  simp only [LogPosition.lt_iff]
  have hw := h.watermark
  constructor
  · rintro ⟨e, he, hc⟩
    rw [he, Option.map_some, Option.map_eq_some_iff] at hw
    obtain ⟨w, hw, hk⟩ := hw
    exact ⟨w, hw, hk ▸ hc⟩
  · rintro ⟨w, hw', hc⟩
    rw [hw', Option.map_some, eq_comm, Option.map_eq_some_iff] at hw
    obtain ⟨e, he, hk⟩ := hw
    exact ⟨e, he, hk ▸ hc⟩

theorem store_run_reflects (cap : Nat) (d : Bool) (ops : List StoreOp)
    (hm : Ascending CanalEvent.key (fed ops)) :
    Reflects cap (fed ops) (Run.final (storeStep d) (.new cap) ops) := by
  induction ops using List.reverseRecOn with
  | nil => exact .init cap
  | append_singleton ops op ih =>
    have he : fed (ops ++ [op]) = fed ops ++ fed [op] := List.flatMap_append ..
    rw [he] at hm ⊢
    have hr := ih hm.left
    rw [Run.final_concat]
    cases op with
    | put events =>
      have hs : fed [.put events] = events := List.append_nil _
      rw [hs] at hm ⊢
      exact hr.putBatch hm d
    | get start n =>
      have hs : fed [.get start n] = [] := rfl
      rw [hs, List.append_nil]
      exact hr.lockedRead start n

/-- The buffer, the three position fields and the history of an ordered feed agree at all times. -/
theorem store_keeps_newest (cap : Nat) (debugAssertions : Bool) (ops : List StoreOp)
    (hm : Ascending CanalEvent.key (fed ops)) :
    let s := Run.final (storeStep debugAssertions) (.new cap) ops
    let lost := (fed ops).take ((fed ops).length - cap)
    s.buffer = (fed ops).drop ((fed ops).length - cap) ∧
      s.buffer.length = min cap (fed ops).length ∧
      (s.firstPosition = none ↔ s.buffer = []) ∧
      s.firstPosition.map LogPosition.key = s.buffer.head?.map CanalEvent.key ∧
      (s.latestPosition = none ↔ s.buffer = []) ∧
      s.latestPosition.map LogPosition.key = s.buffer.getLast?.map CanalEvent.key ∧
      (s.evictedWatermark = none ↔ lost = []) ∧
      s.evictedWatermark.map LogPosition.key = lost.getLast?.map CanalEvent.key ∧
      ∀ c : LogPosition, c.timestamp = none →
        ((∃ e ∈ lost, c.key < e.key) ↔ ∃ w, s.evictedWatermark = some w ∧ c.lt w = true) := by
  have h := store_run_reflects cap debugAssertions ops hm
  refine ⟨h.buffer, ?_, ?_, ?_, ?_, ?_, ?_, h.watermark, fun c _ => h.lost_iff hm c⟩
  · rw [h.buffer, length_retain]
  · rw [h.first, Option.map_eq_none_iff, List.head?_eq_none_iff]
  · rw [h.first, Option.map_map]
    rfl
  · rw [h.latest, Option.map_eq_none_iff, List.getLast?_eq_none_iff]
  · rw [h.latest, Option.map_map]
    rfl
  · have hw := congrArg Option.isNone h.watermark
    rw [Option.isNone_map, Option.isNone_map] at hw
    rw [← Option.isNone_iff_eq_none, hw, Option.isNone_iff_eq_none, List.getLast?_eq_none_iff]
    rfl

theorem store_keeps_newest_evicting :
    (Run.final (storeStep true) (.new 2)
      [.put [storedEvent 100, storedEvent 200], .get (.new "mysql-bin.000001" 4) 1,
        .put [], .put [storedEvent 300, storedEvent 300, storedEvent 400]]).buffer =
      [storedEvent 300, storedEvent 400] :=
  (store_keeps_newest 2 true
    [.put [storedEvent 100, storedEvent 200], .get (.new "mysql-bin.000001" 4) 1,
      .put [], .put [storedEvent 300, storedEvent 300, storedEvent 400]]
    (by unfold Ascending; decide)).1.trans (by decide)

end Canal
