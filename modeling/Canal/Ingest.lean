import Mathlib.Data.List.Perm.Basic
import Canal.Messages
import Canal.StoreRuns

namespace Canal
set_option autoImplicit true

open KeyedLog

/-- The compiled patterns of `canal-filter`, each known by its text. -/
structure EventFilter where
  includeRe : String
  exclude : Option String
deriving DecidableEq

/-- `EventFilter::matches`: the blacklist goes first. -/
def EventFilter.matches (lib : Crates) (f : EventFilter) (event : CanalEvent) : Bool :=
  if f.exclude.any fun re => lib.isMatch re event.fullName then false
  else lib.isMatch f.includeRe event.fullName

/-- What becomes of an event on its way into the store. -/
inductive FeedNote
  | received (e : CanalEvent)
  | rejected (e : CanalEvent)
  | fed (e : CanalEvent)
  | refused (e : CanalEvent)
deriving DecidableEq

/-- A call of `sink`; its error is the message of a panic inside `put_batch`. -/
structure SinkOutcome where
  store : MemoryEventStore
  notes : List FeedNote
  result : Except String Events

/-- `DefaultEventSink::sink` without connectors, as `run_server` builds it. -/
def DefaultEventSink.sink (lib : Crates) (debugAssertions : Bool) (filter : EventFilter)
    (store : MemoryEventStore) (events : List CanalEvent) : SinkOutcome :=
  let filtered := events.filter fun e => filter.matches lib e
  let rejected := events.filter fun e => !filter.matches lib e
  if filtered.isEmpty then
    { store, notes := rejected.map .rejected, result := .ok (.new 0) }
  else
    let o := store.putBatch debugAssertions filtered
    { store := o.store
      notes := rejected.map .rejected ++ filtered.map .fed
      result := o.result.map Events.new }

structure CanalInstance where
  destination : String
  filter : EventFilter
  store : MemoryEventStore
  running : Bool

/-- How a call of `feed` ends. -/
inductive FeedResult
  | ok
  | error (e : CanalError)
  | panic (message : String)
deriving DecidableEq

namespace CanalInstance

def new (destination : String) (filter : EventFilter) (storeBufferSize : Nat) : CanalInstance :=
  { destination, filter, store := .new storeBufferSize, running := false }

def feed (lib : Crates) (debugAssertions : Bool) (inst : CanalInstance)
    (events : List CanalEvent) : CanalInstance × FeedResult × List FeedNote :=
  if !inst.running then
    (inst, .error (.internal ("instance '" ++ inst.destination ++
      "' is not running — cannot feed events")), events.map .refused)
  else
    let o := DefaultEventSink.sink lib debugAssertions inst.filter inst.store events
    let result := match o.result with
      | .ok _ => .ok
      | .error message => .panic message
    ({ inst with store := o.store }, result, o.notes)

end CanalInstance

/-- The task of the feed loop beside the instance it feeds. Events come out of the channel of the
connector, wait in a batch, and go through the instance and its sink into the store. -/
structure FeedLoop where
  batch : List CanalEvent := []
  inst : CanalInstance
  ended : Bool := false

/-- What can happen next: the channel yields an event, an error or its end, the flush interval
ticks, or an admin request comes in. -/
inductive FeedAction
  | recv (result : Option (Except CanalError CanalEvent))
  | tick
  | start
  | stop

namespace FeedLoop

/-- `feed(batch.split_off(0))`: the batch is moved out before the call; an error is only logged. -/
def flush (lib : Crates) (debugAssertions : Bool) (s : FeedLoop) : FeedLoop × List FeedNote :=
  match s.inst.feed lib debugAssertions s.batch with
  | (inst, .panic _, notes) => ({ batch := [], inst, ended := true }, notes)
  | (inst, _, notes) => ({ s with batch := [], inst }, notes)

/-- A turn of the loop, or a call of `start` or `stop` beside it. -/
def step (lib : Crates) (debugAssertions : Bool) (s : FeedLoop) :
    FeedAction → FeedLoop × List FeedNote
  | .start => ({ s with inst := { s.inst with running := true } }, [])
  | .stop => ({ s with inst := { s.inst with running := false } }, [])
  | .tick => if s.ended || s.batch.isEmpty then (s, []) else s.flush lib debugAssertions
  | .recv result =>
    if s.ended then (s, [])
    else match result with
      | some (.ok event) =>
        let s := { s with batch := s.batch ++ [event] }
        if 256 ≤ s.batch.length then
          let (s, notes) := s.flush lib debugAssertions
          (s, .received event :: notes)
        else (s, [.received event])
      | some (.error _) => (s, [])
      | none =>
        let (s, notes) := if s.batch.isEmpty then (s, []) else s.flush lib debugAssertions
        ({ s with ended := true }, notes)

/-- The events that a step hands to `feed`. -/
def flushed (s : FeedLoop) : FeedAction → List CanalEvent
  | .start => []
  | .stop => []
  | .tick => if s.ended then [] else s.batch
  | .recv (some (.ok event)) =>
    if s.ended then [] else if 256 ≤ s.batch.length + 1 then s.batch ++ [event] else []
  | .recv (some (.error _)) => []
  | .recv none => if s.ended then [] else s.batch

end FeedLoop

namespace FeedNote

def asReceived : FeedNote → Option CanalEvent
  | .received e => some e
  | _ => none

def asRejected : FeedNote → Option CanalEvent
  | .rejected e => some e
  | _ => none

def asFed : FeedNote → Option CanalEvent
  | .fed e => some e
  | _ => none

def asRefused : FeedNote → Option CanalEvent
  | .refused e => some e
  | _ => none

end FeedNote

/-- The events received from the channel, in order. -/
def received (notes : List FeedNote) : List CanalEvent := notes.filterMap FeedNote.asReceived

/-- The events rejected by the filter of the sink. -/
def rejected (notes : List FeedNote) : List CanalEvent := notes.filterMap FeedNote.asRejected

/-- The events handed to `put_batch`. -/
def stored (notes : List FeedNote) : List CanalEvent := notes.filterMap FeedNote.asFed

/-- The events of the batches that `feed` refused. -/
def refused (notes : List FeedNote) : List CanalEvent := notes.filterMap FeedNote.asRefused

/-- The store admits to have dropped everything up to the key. -/
def MemoryEventStore.Covers (s : MemoryEventStore) (k : Key) : Prop :=
  ∃ w, s.evictedWatermark = some w ∧ k ≤ w.key

/-- Every received event is in one place: pending, rejected, buffered, or not above the
watermark. -/
def FeedLoop.Accounted (s : FeedLoop) (notes : List FeedNote) : Prop :=
  ∃ traced, (received notes).Perm (s.batch ++ rejected notes ++ s.inst.store.buffer ++ traced) ∧
    ∀ e ∈ traced, s.inst.store.Covers e.key

/-- No step throws away an event above the watermark: the instance runs when a batch is fed to it,
or the batch is not above the watermark anyway. -/
def FeedLoop.Flushable (s : FeedLoop) (a : FeedAction) : Prop :=
  s.inst.running = true ∨ ∀ e ∈ s.flushed a, s.inst.store.Covers e.key

section Projections

@[simp] theorem received_append (notes notes' : List FeedNote) :
    received (notes ++ notes') = received notes ++ received notes' := List.filterMap_append ..

@[simp] theorem rejected_append (notes notes' : List FeedNote) :
    rejected (notes ++ notes') = rejected notes ++ rejected notes' := List.filterMap_append ..

@[simp] theorem stored_append (notes notes' : List FeedNote) :
    stored (notes ++ notes') = stored notes ++ stored notes' := List.filterMap_append ..

@[simp] theorem refused_append (notes notes' : List FeedNote) :
    refused (notes ++ notes') = refused notes ++ refused notes' := List.filterMap_append ..

theorem notes_of_rejected (events : List CanalEvent) :
    received (events.map .rejected) = [] ∧ rejected (events.map .rejected) = events ∧
      stored (events.map .rejected) = [] ∧ refused (events.map .rejected) = [] := by
  simp [received, rejected, stored, refused, List.filterMap_map, Function.comp_def,
    FeedNote.asReceived, FeedNote.asRejected, FeedNote.asFed, FeedNote.asRefused]

theorem notes_of_fed (events : List CanalEvent) :
    received (events.map .fed) = [] ∧ rejected (events.map .fed) = [] ∧
      stored (events.map .fed) = events ∧ refused (events.map .fed) = [] := by
  simp [received, rejected, stored, refused, List.filterMap_map, Function.comp_def,
    FeedNote.asReceived, FeedNote.asRejected, FeedNote.asFed, FeedNote.asRefused]

theorem notes_of_refused (events : List CanalEvent) :
    received (events.map .refused) = [] ∧ rejected (events.map .refused) = [] ∧
      stored (events.map .refused) = [] ∧ refused (events.map .refused) = events := by
  simp [received, rejected, stored, refused, List.filterMap_map, Function.comp_def,
    FeedNote.asReceived, FeedNote.asRejected, FeedNote.asFed, FeedNote.asRefused]

end Projections

theorem Reflects.covers_iff (h : Reflects cap history s) (hm : Ascending CanalEvent.key history)
    (k : Key) : s.Covers k ↔ ∃ e ∈ dropped cap history, k ≤ e.key := by
  have hw := h.watermark
  constructor
  · rintro ⟨w, hs, hk⟩
    rw [hs, Option.map_some, eq_comm, Option.map_eq_some_iff] at hw
    obtain ⟨e, he, hkey⟩ := hw
    exact ⟨e, List.mem_of_getLast? he, hkey ▸ hk⟩
  · rintro ⟨e, he, hk⟩
    cases hl : (dropped cap history).getLast? with
    | none =>
      rw [List.getLast?_eq_none_iff.1 hl] at he
      cases he
    | some last =>
      have hd : Ascending CanalEvent.key (dropped cap history) := hm.sublist (List.take_sublist ..)
      rw [hl, Option.map_some, Option.map_eq_some_iff] at hw
      obtain ⟨w, hs, hkey⟩ := hw
      exact ⟨w, hs, hkey ▸ hk.trans (hd.le_last hl he)⟩

namespace FeedLoop

variable {lib : Crates} {d : Bool} {s : FeedLoop}

theorem flush_stopped (h : s.inst.running = false) :
    s.flush lib d = ({ s with batch := [] }, s.batch.map .refused) := by
  simp only [flush, CanalInstance.feed, h, Bool.not_false, ↓reduceIte]

theorem flush_running (h : s.inst.running = true) :
    (s.flush lib d).1.batch = [] ∧
      (s.flush lib d).1.inst.store = (s.inst.store.putBatch d
        (s.batch.filter fun e => s.inst.filter.matches lib e)).store ∧
      (s.flush lib d).2 = (s.batch.filter fun e => !s.inst.filter.matches lib e).map .rejected ++
        (s.batch.filter fun e => s.inst.filter.matches lib e).map .fed := by
  have hfeed : s.inst.feed lib d s.batch =
      ({ s.inst with store := (s.inst.store.putBatch d
          (s.batch.filter fun e => s.inst.filter.matches lib e)).store },
        (s.inst.feed lib d s.batch).2.1,
        (s.batch.filter fun e => !s.inst.filter.matches lib e).map .rejected ++
          (s.batch.filter fun e => s.inst.filter.matches lib e).map .fed) := by
    simp only [CanalInstance.feed, h, Bool.not_true, Bool.false_eq_true, ↓reduceIte,
      DefaultEventSink.sink]
    split
    · rename_i hnil
      rw [List.isEmpty_iff.1 hnil, List.map_nil, List.append_nil]
      rfl
    · rfl
  unfold flush
  rw [hfeed]
  cases (s.inst.feed lib d s.batch).2.1 <;> exact ⟨rfl, rfl, rfl⟩

theorem step_cases (lib : Crates) (d : Bool) (s : FeedLoop) (a : FeedAction) :
    ∃ (s' : FeedLoop) (pre : List FeedNote),
      ((s' = s ∧ pre = []) ∨ ∃ e, s' = { s with batch := s.batch ++ [e] } ∧ pre = [.received e]) ∧
      ((s.flushed a = [] ∧ (s.step lib d a).2 = pre ∧ (s.step lib d a).1.batch = s'.batch ∧
          (s.step lib d a).1.inst.store = s'.inst.store) ∨
        (s.flushed a = s'.batch ∧ (s.step lib d a).2 = pre ++ (s'.flush lib d).2 ∧
          (s.step lib d a).1.batch = (s'.flush lib d).1.batch ∧
          (s.step lib d a).1.inst.store = (s'.flush lib d).1.inst.store)) := by
  cases a with
  | start => exact ⟨s, [], .inl ⟨rfl, rfl⟩, .inl ⟨rfl, rfl, rfl, rfl⟩⟩
  | stop => exact ⟨s, [], .inl ⟨rfl, rfl⟩, .inl ⟨rfl, rfl, rfl, rfl⟩⟩
  | tick =>
    refine ⟨s, [], .inl ⟨rfl, rfl⟩, ?_⟩
    cases he : s.ended with
    | true => simp [step, flushed, he]
    | false =>
      cases hb : s.batch.isEmpty with
      | true => simp [step, flushed, he, List.isEmpty_iff.1 hb]
      | false => simp [step, flushed, he, hb]
  | recv result =>
    by_cases he : s.ended = true
    · refine ⟨s, [], .inl ⟨rfl, rfl⟩, .inl ?_⟩
      rcases result with _ | (_ | event) <;> simp [step, flushed, he]
    · match result with
      | some (.ok event) =>
        refine ⟨{ s with batch := s.batch ++ [event] }, [.received event],
          .inr ⟨event, rfl, rfl⟩, ?_⟩
        by_cases h256 : 256 ≤ s.batch.length + 1 <;> simp [step, flushed, he, h256]
      | some (.error e) =>
        exact ⟨s, [], .inl ⟨rfl, rfl⟩, .inl (by simp [step, flushed, he])⟩
      | none =>
        refine ⟨s, [], .inl ⟨rfl, rfl⟩, ?_⟩
        cases hb : s.batch.isEmpty with
        | true => simp [step, flushed, he, List.isEmpty_iff.1 hb]
        | false => simp [step, flushed, he, hb]

theorem step_stopped (h : s.inst.running = false) (a : FeedAction) :
    refused (s.step lib d a).2 = s.flushed a ∧
      (s.step lib d a).1.inst.store = s.inst.store := by
  obtain ⟨s', pre, hs, hstep⟩ := s.step_cases lib d a
  have hs' : refused pre = [] ∧ s'.inst = s.inst := by
    rcases hs with ⟨rfl, rfl⟩ | ⟨e, rfl, rfl⟩ <;> exact ⟨rfl, rfl⟩
  rcases hstep with ⟨hf, hn, -, hst⟩ | ⟨hf, hn, -, hst⟩
  · rw [hf, hn, hst, hs'.1, hs'.2]
    exact ⟨rfl, rfl⟩
  · rw [hf, hn, hst, refused_append, hs'.1, flush_stopped (hs'.2 ▸ h), hs'.2]
    exact ⟨(notes_of_refused _).2.2.2, rfl⟩

theorem step_running (h : s.inst.running = true) (a : FeedAction) :
    refused (s.step lib d a).2 = [] := by
  obtain ⟨s', pre, hs, hstep⟩ := s.step_cases lib d a
  have hs' : refused pre = [] ∧ s'.inst = s.inst := by
    rcases hs with ⟨rfl, rfl⟩ | ⟨e, rfl, rfl⟩ <;> exact ⟨rfl, rfl⟩
  rcases hstep with ⟨hf, hn, -⟩ | ⟨hf, hn, -⟩
  · rw [hn, hs'.1]
  · rw [hn, refused_append, hs'.1, (flush_running (hs'.2 ▸ h)).2.2, refused_append,
      (notes_of_rejected _).2.2.2, (notes_of_fed _).2.2.2]
    rfl

/-- Where the events of a run are, and the history the store reflects. -/
structure Balanced (cap : Nat) (notes : List FeedNote) (s : FeedLoop) : Prop where
  reflects : Reflects cap (stored notes) s.inst.store
  perm : (received notes).Perm (s.batch ++ rejected notes ++ stored notes ++ refused notes)
  order : (stored notes ++ s.batch).Sublist (received notes)

namespace Balanced

theorem receive (h : Balanced cap notes s) (e : CanalEvent) :
    Balanced cap (notes ++ [.received e]) { s with batch := s.batch ++ [e] } where
  reflects := by
    rw [stored_append]
    exact (List.append_nil (stored notes)).symm ▸ h.reflects
  perm := by
    have hp := h.perm
    rw [List.perm_iff_count] at hp ⊢
    intro x
    have hx := hp x
    have h1 : received [.received e] = [e] := rfl
    have h2 : rejected [.received e] = [] := rfl
    have h3 : stored [.received e] = [] := rfl
    have h4 : refused [.received e] = [] := rfl
    simp only [received_append, rejected_append, stored_append, refused_append, List.count_append,
      h1, h2, h3, h4, List.append_nil] at hx ⊢
    omega
  order := by
    rw [received_append, stored_append, ← List.append_assoc]
    exact (List.append_nil (stored notes)).symm ▸ h.order.append_right [e]

theorem flush_stopped (h : Balanced cap notes s) (hr : s.inst.running = false) :
    Balanced cap (notes ++ (s.flush lib d).2) (s.flush lib d).1 := by
  obtain ⟨h1, h2, h3, h4⟩ := notes_of_refused s.batch
  rw [FeedLoop.flush_stopped hr]
  constructor
  · rw [stored_append, h3, List.append_nil]
    exact h.reflects
  · have hp := h.perm
    rw [List.perm_iff_count] at hp ⊢
    intro x
    have hx := hp x
    simp only [received_append, rejected_append, stored_append, refused_append, List.count_append,
      h1, h2, h3, h4, List.count_nil] at hx ⊢
    omega
  · rw [received_append, stored_append, h1, h3, List.append_nil, List.append_nil, List.append_nil]
    exact (List.sublist_append_left ..).trans h.order

theorem flush_running (h : Balanced cap notes s) (hr : s.inst.running = true)
    (hm : Ascending CanalEvent.key (received notes)) :
    Balanced cap (notes ++ (s.flush lib d).2) (s.flush lib d).1 := by
  have hflush : (s.flush lib d).1.batch = [] ∧ _ := FeedLoop.flush_running hr
  obtain ⟨hb, hs, hn⟩ := hflush
  generalize hpass : (s.batch.filter fun e => s.inst.filter.matches lib e) = passing at hs hn
  generalize hrej : (s.batch.filter fun e => !s.inst.filter.matches lib e) = failing at hn
  have hsub : (stored notes ++ passing).Sublist (received notes) := by
    rw [← hpass]
    exact (List.filter_sublist.append_left _).trans h.order
  obtain ⟨h1, h2, h3, h4⟩ := notes_of_rejected failing
  obtain ⟨h5, h6, h7, h8⟩ := notes_of_fed passing
  constructor
  · rw [hs, hn, stored_append, stored_append, h3, h7, List.nil_append]
    exact h.reflects.putBatch (hm.sublist hsub) d
  · have hp := h.perm
    have hsplit := List.filter_append_perm (fun e => s.inst.filter.matches lib e) s.batch
    rw [hpass, hrej] at hsplit
    rw [List.perm_iff_count] at hp hsplit ⊢
    intro x
    have hx := hp x
    have hy := hsplit x
    rw [hb, hn]
    simp only [received_append, rejected_append, stored_append, refused_append, List.count_append,
      h1, h2, h3, h4, h5, h6, h7, h8, List.count_nil] at hx hy ⊢
    omega
  · rw [hb, hn]
    simp only [received_append, stored_append, h1, h3, h5, h7, List.append_nil, List.nil_append]
    exact hsub

theorem flush (h : Balanced cap notes s) (hm : Ascending CanalEvent.key (received notes)) :
    Balanced cap (notes ++ (s.flush lib d).2) (s.flush lib d).1 := by
  cases hr : s.inst.running with
  | false => exact h.flush_stopped hr
  | true => exact h.flush_running hr hm

theorem flags (h : Balanced cap notes s) (hb : t.batch = s.batch)
    (hs : t.inst.store = s.inst.store) : Balanced cap notes t := by
  obtain ⟨hr, hp, ho⟩ := h
  rw [← hs] at hr
  rw [← hb] at hp ho
  exact ⟨hr, hp, ho⟩

theorem step (h : Balanced cap notes s) (a : FeedAction)
    (hm : Ascending CanalEvent.key (received (notes ++ (s.step lib d a).2))) :
    Balanced cap (notes ++ (s.step lib d a).2) (s.step lib d a).1 := by
  obtain ⟨s', pre, hs, hstep⟩ := s.step_cases lib d a
  have hs' : Balanced cap (notes ++ pre) s' := by
    rcases hs with ⟨rfl, rfl⟩ | ⟨e, rfl, rfl⟩
    · rw [List.append_nil]
      exact h
    · exact h.receive e
  rcases hstep with ⟨-, hn, hb, hst⟩ | ⟨-, hn, hb, hst⟩
  · rw [hn]
    exact hs'.flags hb hst
  · rw [hn, ← List.append_assoc] at hm ⊢
    rw [received_append] at hm
    exact (hs'.flush hm.left).flags hb hst

theorem accounted_iff (h : Balanced cap notes s)
    (hm : Ascending CanalEvent.key (received notes)) :
    s.Accounted notes ↔ ∀ e ∈ refused notes, s.inst.store.Covers e.key := by
  have hfed : Ascending CanalEvent.key (stored notes) :=
    hm.sublist ((List.sublist_append_left ..).trans h.order)
  have hsplit := dropped_append_retain cap (stored notes)
  rw [← h.reflects.buffer] at hsplit
  have hp := h.perm
  rw [← hsplit] at hp
  constructor
  · rintro ⟨traced, ht, hcov⟩ e he
    have hsame : traced.Perm (dropped cap (stored notes) ++ refused notes) := by
      rw [List.perm_iff_count] at hp ht ⊢
      intro x
      have hx := hp x
      have hy := ht x
      simp only [List.count_append] at hx hy ⊢
      omega
    exact hcov e (hsame.mem_iff.2 (List.mem_append_right _ he))
  · intro hcov
    refine ⟨dropped cap (stored notes) ++ refused notes, ?_, ?_⟩
    · rw [List.perm_iff_count] at hp ⊢
      intro x
      have hx := hp x
      simp only [List.count_append] at hx ⊢
      omega
    · intro e he
      rcases List.mem_append.1 he with he | he
      · exact (h.reflects.covers_iff hfed _).2 ⟨e, he, le_rfl⟩
      · exact hcov e he

end Balanced

theorem covers_step (h : Balanced cap notes s) (a : FeedAction)
    (hm : Ascending CanalEvent.key (received (notes ++ (s.step lib d a).2)))
    (hk : s.inst.store.Covers k) : (s.step lib d a).1.inst.store.Covers k := by
  have h' := h.step a hm
  have hfed : Ascending CanalEvent.key (stored (notes ++ (s.step lib d a).2)) :=
    hm.sublist ((List.sublist_append_left ..).trans h'.order)
  rw [h'.reflects.covers_iff hfed, stored_append, dropped_append]
  rw [stored_append] at hfed
  obtain ⟨e, he, hk⟩ := (h.reflects.covers_iff hfed.left k).1 hk
  exact ⟨e, List.mem_append_left _ he, hk⟩

/-- Where what was refused before stays covered, a step leaves all that has been refused covered if
and only if it throws away nothing that is not. -/
theorem refused_covered_iff {s : FeedLoop} {notes : List FeedNote}
    (hkept : ∀ e ∈ refused notes, (s.step lib d a).1.inst.store.Covers e.key) :
    (∀ e ∈ refused notes ++ refused (s.step lib d a).2,
      (s.step lib d a).1.inst.store.Covers e.key) ↔ s.Flushable a := by
  cases hr : s.inst.running with
  | true =>
    apply iff_of_true _ (.inl hr)
    rw [step_running hr, List.append_nil]
    exact hkept
  | false =>
    have hstop : refused (s.step lib d a).2 = _ ∧ _ := step_stopped hr a
    rw [hstop.1]
    constructor
    · intro hall
      rw [hstop.2] at hall
      exact .inr fun e he => hall e (List.mem_append_right _ he)
    · rintro (hrun | hnew) e he
      · rw [hrun] at hr
        cases hr
      · rcases List.mem_append.1 he with he | he
        · exact hkept e he
        · rw [hstop.2]
          exact hnew e he

/-- While the events arrive in the order that `put_batch` asks for, the events of every prefix of a
run are accounted for if and only if no flush throws a batch away. -/
theorem accounted_iff_flushable (lib : Crates) (d : Bool) (destination : String)
    (filter : EventFilter) (cap : Nat) (as : List FeedAction)
    (hm : Ascending CanalEvent.key (received (Run.outputs (step lib d)
      { inst := .new destination filter cap } as))) :
    (∀ bs, bs <+: as → (Run.final (step lib d)
      { inst := .new destination filter cap } bs).Accounted
        (Run.outputs (step lib d) { inst := .new destination filter cap } bs)) ↔
      Run.Along (step lib d) (fun _ s a => s.Flushable a)
        { inst := .new destination filter cap } as := by
  generalize hs : ({ inst := .new destination filter cap } : FeedLoop) = s at hm ⊢
  have h0 : Balanced cap [] s := by
    rw [← hs]
    exact ⟨.init cap, .refl _, .refl _⟩
  have hpre : ∀ {bs}, bs <+: as → Ascending CanalEvent.key (received
      (Run.outputs (step lib d) s bs)) := by
    rintro bs ⟨cs, rfl⟩
    rw [Run.outputs_append, received_append] at hm
    exact hm.left
  have hbal : ∀ {bs}, bs <+: as →
      Balanced cap (Run.outputs (step lib d) s bs) (Run.final (step lib d) s bs) := by
    intro bs hp
    induction bs using List.reverseRecOn with
    | nil => exact h0
    | append_singleton bs b ih =>
      have hasc := hpre hp
      rw [Run.outputs_concat] at hasc ⊢
      rw [Run.final_concat]
      exact (ih ((List.prefix_append ..).trans hp)).step b hasc
  apply Run.Along.prefixes_iff (P := fun bs => (Run.final (step lib d) s bs).Accounted
    (Run.outputs (step lib d) s bs))
  · exact (h0.accounted_iff (hpre List.nil_prefix)).2 fun e he => absurd he List.not_mem_nil
  intro bs b hp hacc
  have hp' := (List.prefix_append bs [b]).trans hp
  have hcov := ((hbal hp').accounted_iff (hpre hp')).1 hacc
  have hasc := hpre hp
  rw [(hbal hp).accounted_iff hasc]
  rw [Run.outputs_concat] at hasc ⊢
  rw [Run.final_concat, refused_append]
  apply refused_covered_iff
  intro e he
  exact covers_step (hbal hp') b hasc (hcov e he)

/-- Two events flushed by a tick into a store that keeps one. -/
theorem accounted_iff_flushable_evicting :
    let as : List FeedAction := [.start, .recv (some (.ok (storedEvent 100))),
      .recv (some (.ok (storedEvent 200))), .tick]
    let s : FeedLoop := { inst := .new "default" { includeRe := ".*\\..*", exclude := none } 1 }
    (Run.final (step .literal true) s as).Accounted (Run.outputs (step .literal true) s as) := by
  have h := accounted_iff_flushable .literal true "default"
    { includeRe := ".*\\..*", exclude := none } 1
    [.start, .recv (some (.ok (storedEvent 100))), .recv (some (.ok (storedEvent 200))), .tick]
    (by unfold Ascending; decide)
  exact h.2 (.cons (.inr fun e he => absurd he List.not_mem_nil)
    (.cons (.inl rfl) (.cons (.inl rfl) (.cons (.inl rfl) .nil)))) _ (List.prefix_refl _)

/-- An event that is flushed while the instance is stopped is gone, and nothing shows it. -/
theorem stopped_flush_loses :
    let as : List FeedAction := [.start, .stop, .recv (some (.ok (storedEvent 100))), .tick]
    let s : FeedLoop := { inst := .new "default" { includeRe := ".*\\..*", exclude := none } 8 }
    ¬ (Run.final (step .literal true) s as).Accounted (Run.outputs (step .literal true) s as) := by
  rintro as s ⟨traced, hperm, hcov⟩
  have hmem : storedEvent 100 ∈ traced := hperm.subset (List.mem_singleton_self _)
  obtain ⟨w, hw, -⟩ := hcov _ hmem
  cases hw

end FeedLoop

end Canal
