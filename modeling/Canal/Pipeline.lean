import Canal.Attribution
import Canal.CommitDiscipline
import Canal.IdlePoll
import Canal.Ingest

namespace Canal
set_option autoImplicit true

open KeyedLog

/-- The capacity of the channel that `with_channel` makes. -/
def eventChannelCapacity : Nat := 4096

/-- The replication thread, the event channel and the feed loop of `run_server`. `pending` is what
the thread has still to do for the event at hand; it may be blocked in the first send of it. -/
structure Pipeline where
  replication : Replication
  pending : List ReplicationNote := []
  channel : List EventItem := []
  feed : FeedLoop

/-- A step of the thread, a step of the feed loop, a call of the admin interface, or the abort of
the feed task. -/
inductive PipelineAction
  | pull (pull : Pull)
  | progress
  | recv
  | tick
  | start
  | stop
  | abort

inductive PipelineNote
  | pulled (header : EventHeader) (event : BinlogEvent)
  | committed (header : EventHeader) (event : BinlogEvent)
  | fed (note : FeedNote)

/-- The event that the loop takes out of a pull. -/
def Pull.event : Pull → Option (EventHeader × BinlogEvent)
  | .item header event false => some (header, event)
  | _ => none

namespace Pipeline

/-- The pipeline once `start_all` and `connect` have returned. -/
def started (startJournal destination : String) (filter : EventFilter) (storeBufferSize : Nat) :
    Pipeline :=
  { replication := .start startJournal {}
    feed := { inst := { CanalInstance.new destination filter storeBufferSize with
      running := true } } }

/-- A step of the feed task; the receiver of the channel goes with the task. -/
def work (lib : Crates) (d : Bool) (s : Pipeline) (a : FeedAction) :
    Pipeline × List PipelineNote :=
  let r := s.feed.step lib d a
  ({ s with feed := r.1, channel := if r.1.ended then [] else s.channel }, r.2.map .fed)

def step (floats : FloatText) (lib : Crates) (d : Bool) (s : Pipeline) :
    PipelineAction → Pipeline × List PipelineNote
  | .pull pull =>
    if s.pending.isEmpty then
      let tx : EventChannel := if s.feed.ended then { remaining := some 0 } else {}
      let r := { s.replication with tx }.step floats pull
      ({ s with replication := r.1, pending := r.2 },
        if s.replication.ended then [] else (pull.event.map fun e => .pulled e.1 e.2).toList)
    else (s, [])
  | .progress =>
    match s.pending with
    | [] => (s, [])
    | .committed header event :: pending => ({ s with pending }, [.committed header event])
    | .offered offer :: pending =>
      -- a send that is refused ends the loop only where no commit follows: after a stream error
      if s.feed.ended then
        ({ s with pending, replication := { s.replication with
          ended := s.replication.ended || pending.isEmpty } }, [])
      else if s.channel.length < eventChannelCapacity then
        ({ s with pending, channel := s.channel ++ [offer.item] }, [])
      else (s, [])
  | .recv =>
    if s.feed.ended then (s, [])
    else match s.channel with
      | item :: channel => { s with channel }.work lib d (.recv (some item))
      -- the connector, which the task owns, keeps a sender: the channel is never closed
      | [] => (s, [])
  | .tick => s.work lib d .tick
  | .start => s.work lib d .start
  | .stop => s.work lib d .stop
  | .abort => ({ s with feed := { s.feed with batch := [], ended := true }, channel := [] }, [])

end Pipeline

namespace PipelineNote

def asPulled : PipelineNote → Option (EventHeader × BinlogEvent)
  | pulled header event => some (header, event)
  | _ => none

def asCommitted : PipelineNote → Option (EventHeader × BinlogEvent)
  | committed header event => some (header, event)
  | _ => none

def asFed : PipelineNote → Option FeedNote
  | fed note => some note
  | _ => none

end PipelineNote

/-- The events that the replication loop took out of the stream. -/
def pulledEvents (os : List PipelineNote) : List (EventHeader × BinlogEvent) :=
  os.filterMap PipelineNote.asPulled

/-- The events that the replication loop committed. -/
def committedEvents (os : List PipelineNote) : List (EventHeader × BinlogEvent) :=
  os.filterMap PipelineNote.asCommitted

/-- What the feed loop showed. -/
def feedNotes (os : List PipelineNote) : List FeedNote := os.filterMap PipelineNote.asFed

/-- The events among the items of the channel. -/
def oks (items : List EventItem) : List CanalEvent := items.filterMap Except.toOption

section Projections

@[simp] theorem pulledEvents_append (os os' : List PipelineNote) :
    pulledEvents (os ++ os') = pulledEvents os ++ pulledEvents os' := List.filterMap_append ..

@[simp] theorem committedEvents_append (os os' : List PipelineNote) :
    committedEvents (os ++ os') = committedEvents os ++ committedEvents os' :=
  List.filterMap_append ..

@[simp] theorem feedNotes_append (os os' : List PipelineNote) :
    feedNotes (os ++ os') = feedNotes os ++ feedNotes os' := List.filterMap_append ..

@[simp] theorem oks_append (items items' : List EventItem) :
    oks (items ++ items') = oks items ++ oks items' := List.filterMap_append ..

theorem notes_of_feed (ns : List FeedNote) :
    pulledEvents (ns.map .fed) = [] ∧ committedEvents (ns.map .fed) = [] ∧
      feedNotes (ns.map .fed) = ns := by
  simp [pulledEvents, committedEvents, feedNotes, List.filterMap_map, Function.comp_def,
    PipelineNote.asPulled, PipelineNote.asCommitted, PipelineNote.asFed]

theorem oks_isPrefix (h : items <+: items') : oks items <+: oks items' := by
  obtain ⟨rest, rfl⟩ := h
  rw [oks_append]
  exact List.prefix_append ..

end Projections

theorem attributedStream_append (floats : FloatText) (startJournal : String)
    (past : List BinlogEvent) (events events' : List (EventHeader × BinlogEvent)) :
    attributedStream floats startJournal past (events ++ events') =
      attributedStream floats startJournal past events ++
        attributedStream floats startJournal (past ++ events.map Prod.snd) events' := by
  induction events generalizing past with
  | nil =>
    rw [List.map_nil, List.append_nil]
    rfl
  | cons e events ih =>
    rw [List.cons_append, attributedStream, attributedStream, ih, List.append_assoc,
      List.append_assoc]
    rfl

end Canal
