import Canal.Dispatch
import Canal.KafkaDispatch

namespace Canal
set_option autoImplicit true

/-- A sink, and the connector that stands at `position` of its connectors. -/
structure KafkaSink where
  sink : SinkSystem
  kafka : KafkaConnector
  position : Nat

/-- `finish`: the worker gets the result of the `dispatch` it awaits. -/
inductive KafkaSinkAction
  | sink (a : SinkAction)
  | kafka (a : KafkaAction)
  | finish

inductive KafkaSinkNote
  | sink (note : SinkNote)
  | kafka (note : KafkaNote)

def KafkaSinkNote.asSink : KafkaSinkNote → Option SinkNote
  | sink note => some note
  | kafka _ => none

def KafkaSinkNote.asKafka : KafkaSinkNote → Option KafkaNote
  | kafka note => some note
  | sink _ => none

def sinkNotes (os : List KafkaSinkNote) : List SinkNote := os.filterMap KafkaSinkNote.asSink

def kafkaNotes (os : List KafkaSinkNote) : List KafkaNote := os.filterMap KafkaSinkNote.asKafka

/-- The messages handed to producers, in the order in which this happened. -/
def handedOver (os : List KafkaNote) : List (String × String) :=
  os.filterMap fun
    | .record _ r => some r.message
    | _ => none

def SinkAction.isDispatched : SinkAction → Bool
  | .dispatched _ => true
  | _ => false

namespace KafkaSink

def new (store : MemoryEventStore) (filter : EventFilter) (connectors position : Nat)
    (name : String) (config : KafkaConfig) : KafkaSink :=
  { sink := .new store filter connectors, kafka := .new name config, position }

/-- The worker is inside the `dispatch` of the connector. -/
def awaits (s : KafkaSink) : Bool :=
  match s.sink.worker with
  | some (.dispatching _ c) => c == s.position
  | _ => false

/-- The call that began last. -/
def current (s : KafkaSink) : Nat := s.kafka.calls.length - 1

/-- What a step of the sink means to the connector: its worker calls `dispatch`, or an abort drops
the call. -/
def answer (s : KafkaSink) (r : SinkSystem × List SinkNote) : KafkaConnector × List KafkaNote :=
  match (dispatches s.position r.2).head? with
  | some request => s.kafka.step (.dispatch request.events)
  | none =>
    if s.awaits && r.1.worker == some .ended then s.kafka.step (.call s.current .abort)
    else (s.kafka, [])

def sinkStep (lib : Crates) (debugAssertions : Bool) (s : KafkaSink) (a : SinkAction) :
    KafkaSink × List KafkaSinkNote :=
  let r := s.sink.step lib debugAssertions a
  let k := s.answer r
  ({ s with sink := r.1, kafka := k.1 }, r.2.map .sink ++ k.2.map .kafka)

/-- Nobody but the worker calls, joins or drops a `dispatch`. -/
def step (lib : Crates) (debugAssertions : Bool) (s : KafkaSink) :
    KafkaSinkAction → KafkaSink × List KafkaSinkNote
  | .sink a =>
    if s.awaits && a.isDispatched then (s, []) else s.sinkStep lib debugAssertions a
  | .kafka (.dispatch _) | .kafka (.call _ .join) | .kafka (.call _ .abort) => (s, [])
  | .kafka a =>
    let k := s.kafka.step a
    ({ s with kafka := k.1 }, k.2.map .kafka)
  | .finish =>
    if s.awaits then
      let k := s.kafka.step (.call s.current .join)
      match (kafkaResults s.current k.2).head? with
      | some result =>
        let r := sinkStep lib debugAssertions { s with kafka := k.1 } (.dispatched result)
        (r.1, k.2.map .kafka ++ r.2)
      | none => (s, [])
    else (s, [])

end KafkaSink

@[simp] theorem sinkNotes_append : sinkNotes (os ++ os') = sinkNotes os ++ sinkNotes os' :=
  List.filterMap_append ..

@[simp] theorem kafkaNotes_append : kafkaNotes (os ++ os') = kafkaNotes os ++ kafkaNotes os' :=
  List.filterMap_append ..

@[simp] theorem handedOver_append : handedOver (os ++ os') = handedOver os ++ handedOver os' :=
  List.filterMap_append ..

theorem notes_of_sink (ns : List SinkNote) :
    sinkNotes (ns.map .sink) = ns ∧ kafkaNotes (ns.map .sink) = [] := by
  simp [sinkNotes, kafkaNotes, List.filterMap_map, Function.comp_def, KafkaSinkNote.asSink,
    KafkaSinkNote.asKafka]

theorem notes_of_kafka (ns : List KafkaNote) :
    sinkNotes (ns.map .kafka) = [] ∧ kafkaNotes (ns.map .kafka) = ns := by
  simp [sinkNotes, kafkaNotes, List.filterMap_map, Function.comp_def, KafkaSinkNote.asSink,
    KafkaSinkNote.asKafka]

end Canal
