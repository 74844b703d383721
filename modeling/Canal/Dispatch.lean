import Canal.Ingest

namespace Canal
set_option autoImplicit true

/-- A batch on its way to the connectors, with the call it comes from. -/
structure DispatchRequest where
  call : Nat
  events : List CanalEvent
deriving DecidableEq

/-- What a call of `sink` has done so far. -/
inductive SinkStage
  | called (events : List CanalEvent)
  | filtered (events : List CanalEvent)
  | stored (events : List CanalEvent) (batchId : Int64)
  | sending (events : List CanalEvent) (batchId : Int64)
  | returned (result : Events)
  | panicked (message : String)
deriving DecidableEq

def SinkStage.isEnded : SinkStage → Bool
  | .returned _ => true
  | .panicked _ => true
  | _ => false

/-- The batch of a call between its `put_batch` and its `send`. -/
def SinkStage.unsent : SinkStage → Option (List CanalEvent)
  | .stored events _ => some events
  | .sending events _ => some events
  | _ => none

/-- How an uninterrupted call of `sink` ends. -/
def SinkOutcome.stage (o : SinkOutcome) : SinkStage :=
  match o.result with
  | .ok events => .returned events
  | .error message => .panicked message

/-- The dispatch worker: at `recv`, or inside the `dispatch` of a connector. -/
inductive DispatchWorker
  | receiving
  | dispatching (request : DispatchRequest) (connector : Nat)
  | ended
deriving DecidableEq

/-- A `DefaultEventSink`, the calls that run on it and its worker. -/
structure SinkSystem where
  store : MemoryEventStore
  filter : EventFilter
  /-- How many connectors there are. -/
  connectors : Nat
  calls : List SinkStage := []
  queue : List DispatchRequest := []
  worker : Option DispatchWorker := none
  dropped : Bool := false

/-- What can happen next: a new call, the next step of a call, the next step of the worker with
the result of the `dispatch` it waits for, `stop`, the drop of the sink, or the effect of its
`abort`. -/
inductive SinkAction
  | call (events : List CanalEvent)
  | advance (call : Nat)
  | receive
  | dispatched (result : Except CanalError Unit)
  | stop
  | drop
  | cancel

inductive SinkNote
  | appended (request : DispatchRequest)
  | enqueued (request : DispatchRequest)
  | dispatch (connector : Nat) (request : DispatchRequest)
  | returned (call : Nat) (result : Events)
deriving DecidableEq

namespace SinkSystem

def new (store : MemoryEventStore) (filter : EventFilter) (connectors : Nat) : SinkSystem :=
  { store, filter, connectors }

/-- `tx.send`, which fails silently once the receiver is gone. -/
def send (s : SinkSystem) (request : DispatchRequest) : SinkSystem × List SinkNote :=
  match s.worker with
  | some .receiving | some (.dispatching ..) =>
    ({ s with queue := s.queue ++ [request] }, [.enqueued request])
  | _ => (s, [])

/-- `ensure_worker`. -/
def ensureWorker (s : SinkSystem) : SinkSystem :=
  { s with worker := some (s.worker.getD .receiving) }

/-- The next step of call `i`. -/
def advance (lib : Crates) (debugAssertions : Bool) (s : SinkSystem) (i : Nat) :
    SinkSystem × List SinkNote :=
  let enter (s : SinkSystem) (stage : SinkStage) : SinkSystem :=
    { s with calls := s.calls.set i stage }
  match s.calls[i]? with
  | some (.called events) =>
    (enter s (.filtered (events.filter fun e => s.filter.matches lib e)), [])
  | some (.filtered events) =>
    if events.isEmpty then (enter s (.returned (.new 0)), [.returned i (.new 0)])
    else
      let o := s.store.putBatch debugAssertions events
      let s := { s with store := o.store }
      match o.result with
      | .ok batchId => (enter s (.stored events batchId), [.appended ⟨i, events⟩])
      | .error message => (enter s (.panicked message), [])
  | some (.stored events batchId) =>
    if s.connectors = 0 then
      (enter s (.returned (.new batchId)), [.returned i (.new batchId)])
    else (enter s.ensureWorker (.sending events batchId), [])
  | some (.sending events batchId) =>
    let (s, notes) := s.send ⟨i, events⟩
    (enter s (.returned (.new batchId)), notes ++ [.returned i (.new batchId)])
  | _ => (s, [])

/-- A step of the sink; what cannot happen changes nothing. The sink is dropped by its owner, when
no call borrows it; an abort ends the worker at whatever it waits for. -/
def step (lib : Crates) (debugAssertions : Bool) (s : SinkSystem) :
    SinkAction → SinkSystem × List SinkNote
  | .call events =>
    if s.dropped then (s, []) else ({ s with calls := s.calls ++ [.called events] }, [])
  | .advance i => s.advance lib debugAssertions i
  | .receive =>
    match s.worker, s.queue with
    | some .receiving, request :: queue =>
      ({ s with worker := some (.dispatching request 0), queue }, [.dispatch 0 request])
    | some .receiving, [] =>
      if s.dropped then ({ s with worker := some .ended }, []) else (s, [])
    | _, _ => (s, [])
  | .dispatched _ =>
    match s.worker with
    | some (.dispatching request c) =>
      if c + 1 < s.connectors then
        ({ s with worker := some (.dispatching request (c + 1)) }, [.dispatch (c + 1) request])
      else ({ s with worker := some .receiving }, [])
    | _ => (s, [])
  | .stop => (s, [])
  | .drop => if s.calls.all SinkStage.isEnded then ({ s with dropped := true }, []) else (s, [])
  | .cancel =>
    match s.dropped, s.worker with
    | true, some _ => ({ s with worker := some .ended, queue := [] }, [])
    | _, _ => (s, [])

end SinkSystem

/-- The batch that call `i` has appended to the store and not yet sent to the worker. -/
def SinkSystem.unsent (s : SinkSystem) (i : Nat) : Option (List CanalEvent) :=
  s.calls[i]?.bind SinkStage.unsent

/-- The batches appended to the store. -/
def appends (notes : List SinkNote) : List DispatchRequest :=
  notes.filterMap fun
    | .appended request => some request
    | _ => none

/-- The batches put into the channel. -/
def enqueues (notes : List SinkNote) : List DispatchRequest :=
  notes.filterMap fun
    | .enqueued request => some request
    | _ => none

/-- The batches passed to connector `c`. -/
def dispatches (c : Nat) (notes : List SinkNote) : List DispatchRequest :=
  notes.filterMap fun
    | .dispatch connector request => if connector = c then some request else none
    | _ => none

@[simp] theorem appends_append : appends (os ++ os') = appends os ++ appends os' :=
  List.filterMap_append ..

@[simp] theorem enqueues_append : enqueues (os ++ os') = enqueues os ++ enqueues os' :=
  List.filterMap_append ..

@[simp] theorem dispatches_append :
    dispatches c (os ++ os') = dispatches c os ++ dispatches c os' :=
  List.filterMap_append ..

namespace SinkSystem

/-- What a step does. -/
inductive Turn (s : SinkSystem) : SinkSystem → List SinkNote → Prop
  | idle : Turn s s []
  | called (events : List CanalEvent) (hd : s.dropped = false) :
      Turn s { s with calls := s.calls ++ [.called events] } []
  | filtered (hi : s.calls[i]? = some (.called events)) (kept : List CanalEvent) :
      Turn s { s with calls := s.calls.set i (.filtered kept) } []
  | empty (hi : s.calls[i]? = some (.filtered [])) :
      Turn s { s with calls := s.calls.set i (.returned (.new 0)) } [.returned i (.new 0)]
  | panicked (hi : s.calls[i]? = some (.filtered events)) (store : MemoryEventStore)
      (message : String) :
      Turn s { s with store, calls := s.calls.set i (.panicked message) } []
  | appended (hi : s.calls[i]? = some (.filtered events)) (store : MemoryEventStore)
      (batchId : Int64) :
      Turn s { s with store, calls := s.calls.set i (.stored events batchId) }
        [.appended ⟨i, events⟩]
  | storedOnly (hi : s.calls[i]? = some (.stored events batchId)) (hn : s.connectors = 0) :
      Turn s { s with calls := s.calls.set i (.returned (.new batchId)) }
        [.returned i (.new batchId)]
  | ensured (hi : s.calls[i]? = some (.stored events batchId)) (hn : 0 < s.connectors) :
      Turn s
        { s with
          calls := s.calls.set i (.sending events batchId)
          worker := some (s.worker.getD .receiving) } []
  | sent (hi : s.calls[i]? = some (.sending events batchId)) (hw : s.worker = some w)
      (hne : w ≠ .ended) :
      Turn s
        { s with
          calls := s.calls.set i (.returned (.new batchId))
          queue := s.queue ++ [⟨i, events⟩] }
        [.enqueued ⟨i, events⟩, .returned i (.new batchId)]
  | refused (hi : s.calls[i]? = some (.sending events batchId))
      (hw : s.worker = none ∨ s.worker = some .ended) :
      Turn s { s with calls := s.calls.set i (.returned (.new batchId)) }
        [.returned i (.new batchId)]
  | received (hw : s.worker = some .receiving) (hq : s.queue = r :: rs) :
      Turn s { s with worker := some (.dispatching r 0), queue := rs } [.dispatch 0 r]
  | passed (hw : s.worker = some (.dispatching r c)) (hc : c + 1 < s.connectors) :
      Turn s { s with worker := some (.dispatching r (c + 1)) } [.dispatch (c + 1) r]
  | finished (hw : s.worker = some (.dispatching r c)) (hc : s.connectors ≤ c + 1) :
      Turn s { s with worker := some .receiving } []
  | closed (hw : s.worker = some .receiving) (hq : s.queue = []) (hd : s.dropped = true) :
      Turn s { s with worker := some .ended } []
  | dropped (hall : ∀ stage ∈ s.calls, stage.isEnded = true) : Turn s { s with dropped := true } []
  | cancelled (hd : s.dropped = true) (hw : s.worker = some w) :
      Turn s { s with worker := some .ended, queue := [] } []

variable {s : SinkSystem} {os : List SinkNote}

theorem send_open (hw : s.worker = some w) (hne : w ≠ .ended) (r : DispatchRequest) :
    s.send r = ({ s with queue := s.queue ++ [r] }, [.enqueued r]) := by
  cases w with
  | receiving => simp only [send, hw]
  | dispatching => simp only [send, hw]
  | ended => exact absurd rfl hne

theorem send_closed (hw : s.worker = none ∨ s.worker = some .ended) (r : DispatchRequest) :
    s.send r = (s, []) := by
  rcases hw with hw | hw
  · simp only [send, hw]
  · simp only [send, hw]

theorem advance_turn (lib : Crates) (d : Bool) (s : SinkSystem) (i : Nat) :
    Turn s (s.advance lib d i).1 (s.advance lib d i).2 := by
  unfold advance
  cases hi : s.calls[i]? with
  | none => exact .idle
  | some stage =>
    cases stage with
    | called events => exact .filtered hi _
    | filtered events =>
      cases events with
      | nil => exact .empty hi
      | cons e events =>
        simp only [List.isEmpty_cons, Bool.false_eq_true, if_false]
        cases ho : (s.store.putBatch d (e :: events)).result with
        | ok id => exact .appended hi _ id
        | error message => exact .panicked hi _ message
    | stored events id =>
      simp only
      by_cases hn : s.connectors = 0
      · rw [if_pos hn]
        exact .storedOnly hi hn
      · rw [if_neg hn]
        exact .ensured hi (Nat.pos_of_ne_zero hn)
    | sending events id =>
      simp only
      by_cases hw : s.worker = none ∨ s.worker = some .ended
      · rw [send_closed hw]
        exact .refused hi hw
      · rw [not_or] at hw
        obtain ⟨w, hs⟩ := Option.ne_none_iff_exists'.1 hw.1
        have hne : w ≠ .ended := fun h => hw.2 (h ▸ hs)
        rw [send_open hs hne]
        exact .sent hi hs hne
    | returned | panicked => exact .idle

theorem step_turn (lib : Crates) (d : Bool) (s : SinkSystem) (a : SinkAction) :
    Turn s (s.step lib d a).1 (s.step lib d a).2 := by
  cases a with
  | call events =>
    simp only [step]
    split
    · exact .idle
    · rename_i hd
      exact .called events (Bool.eq_false_iff.2 hd)
  | advance i => exact s.advance_turn lib d i
  | receive =>
    simp only [step]
    split
    · rename_i hw hq
      exact .received hw hq
    · rename_i hw hq
      split
      · rename_i hd
        exact .closed hw hq hd
      · exact .idle
    · exact .idle
  | dispatched result =>
    simp only [step]
    split
    · rename_i r c hw
      by_cases hc : c + 1 < s.connectors
      · rw [if_pos hc]
        exact .passed hw hc
      · rw [if_neg hc]
        exact .finished hw (not_lt.1 hc)
    · exact .idle
  | stop => exact .idle
  | drop =>
    simp only [step]
    split
    · rename_i hall
      exact .dropped (List.all_eq_true.1 hall)
    · exact .idle
  | cancel =>
    simp only [step]
    split
    · rename_i hd hw
      exact .cancelled hd hw
    · exact .idle

theorem call_alone (lib : Crates) (d : Bool) (hd : s.dropped = false) (hn : s.connectors = 0)
    (events : List CanalEvent) :
    let o := DefaultEventSink.sink lib d s.filter s.store events
    let i := s.calls.length
    Run.final (step lib d) s [.call events, .advance i, .advance i, .advance i] =
      { s with store := o.store, calls := s.calls ++ [o.stage] } := by
  intro o i
  have hget : ∀ stage : SinkStage, (s.calls ++ [stage])[i]? = some stage := fun _ =>
    List.getElem?_concat_length
  have hset : ∀ stage stage' : SinkStage, (s.calls ++ [stage]).set i stage' = s.calls ++ [stage'] :=
    fun _ _ => by
      rw [List.set_append_right _ _ (le_refl i), Nat.sub_self]
      rfl
  simp only [Run.final, step, hd, Bool.false_eq_true, if_false, advance, hget, hset]
  by_cases hf : (events.filter fun e => s.filter.matches lib e).isEmpty = true
  · simp only [hf, if_true, hget, o, DefaultEventSink.sink, SinkOutcome.stage]
  · cases ho : (s.store.putBatch d (events.filter fun e => s.filter.matches lib e)).result with
    | ok batchId =>
      simp only [hf, if_false, ho, hget, hset, hn, if_true, o, DefaultEventSink.sink,
        SinkOutcome.stage, Except.map, Bool.false_eq_true]
    | error message =>
      simp only [hf, if_false, ho, hget, o, DefaultEventSink.sink, SinkOutcome.stage,
        Except.map, Bool.false_eq_true]

end SinkSystem

end Canal
