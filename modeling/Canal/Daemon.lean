import Canal.Arrival
import Canal.Feed
import Canal.PollAcks

namespace Canal
set_option autoImplicit true

open Pipeline (plainFloats everyTable)

/-- The entry is made of an event with property `P`. -/
def Proto.Entry.Of (lib : Crates) (P : CanalEvent → Prop) (entry : Proto.Entry) : Prop :=
  ∃ e, P e ∧ canalEventToEntry lib e = .ok entry

theorem Server.Carries.sends {s : Server} (h : s.Carries P)
    (hs : (c, .send (.messages m)) ∈ (s.step lib a).2) (he : entry ∈ m.messages) :
    entry.Of lib P := by
  obtain ⟨tx, cid, events, rfl, hp, hb⟩ := batch_of_sent hs
  cases hne : events.isEmpty with
  | true =>
    rw [batchAnswer, if_pos hne] at hb
    cases hb
    cases he
  | false =>
    obtain ⟨entries, hmap, rfl⟩ := batchAnswer_ok hne hb
    obtain ⟨e, hmem, hconv⟩ := exists_of_mem_mapM hmap he
    exact ⟨e, h.batch c cid events hp e (List.mem_filter.1 hmem).1, hconv⟩

/-- The events that a move hands to the store. -/
def Move.fed : Move → List CanalEvent
  | .elsewhere a => a.fed
  | _ => []

def ClientTask.entries : ClientTask → List Proto.Entry
  | .forwarding _ entries => entries
  | _ => []

namespace ClientServer

/-- Everything on its way to the consumer is made of events with property `P`. -/
structure Sourced (lib : Crates) (P : CanalEvent → Prop) (s : ClientServer) : Prop where
  server : s.server.Carries P
  toClient : ∀ m, .messages m ∈ s.toClient → ∀ entry ∈ m.messages, entry.Of lib P
  task : ∀ entry ∈ s.task.entries, entry.Of lib P

variable {lib : WireCrates} {P Q : CanalEvent → Prop} {s : ClientServer}

theorem Sourced.mono (h : Sourced lib.toCrates P s) (hPQ : ∀ e, P e → Q e) :
    Sourced lib.toCrates Q s where
  server := h.server.mono hPQ
  toClient m hm entry hentry := by
    obtain ⟨e, he, hconv⟩ := h.toClient m hm entry hentry
    exact ⟨e, hPQ e he, hconv⟩
  task entry hentry := by
    obtain ⟨e, he, hconv⟩ := h.task entry hentry
    exact ⟨e, hPQ e he, hconv⟩

theorem serve_not_placed (lib : WireCrates) (s : ClientServer) (a : Action)
    (item : Except CanalError CanalEvent) : .placed item ∉ (s.serve lib a).2 := by
  intro h
  have hmem : item ∈ placedItems (s.serve lib a).2 := List.mem_filterMap.2 ⟨_, h, rfl⟩
  rw [placedItems_serve] at hmem
  cases hmem

theorem Sourced.serve (h : Sourced lib.toCrates P s) (ha : ∀ e ∈ a.fed, P e) :
    Sourced lib.toCrates P (s.serve lib a).1 ∧ ∀ item, .placed item ∉ (s.serve lib a).2 := by
  refine ⟨⟨h.server.step ha lib.toCrates, ?_, h.task⟩, serve_not_placed lib s a⟩
  intro m hm entry hentry
  rcases List.mem_append.1 hm with hm | hm
  · exact h.toClient m hm entry hentry
  · obtain ⟨e, he, hr⟩ := List.mem_filterMap.1 hm
    cases e with
    | send r =>
      cases hr
      exact h.server.sends (mem_trace.1 he) hentry
    | _ => cases hr

theorem Sourced.stopped (h : Sourced lib.toCrates P s) :
    Sourced lib.toCrates P { s with task := .stopped } :=
  ⟨h.server, h.toClient, nofun⟩

theorem next_entries {task : ClientTask} (h : task.next client = some (frame, task')) :
    task'.entries = [] ∧ ∀ item, .placed item ∉ Note.ofFrame frame := by
  cases task with
  | forwarding batchId entries =>
    cases entries with
    | nil =>
      cases h
      exact ⟨rfl, fun item hi => nomatch List.mem_singleton.1 hi⟩
    | cons => cases h
  | authenticating | subscribing | awaiting | stopped => cases h
  | connecting | connected | polling =>
    cases h
    exact ⟨rfl, fun item hi => nomatch hi⟩

theorem got_entries (task : ClientTask) (r : Response) (he : entry ∈ (task.got r).entries) :
    ∃ m, r = .messages m ∧ entry ∈ m.messages := by
  cases task with
  | awaiting =>
    cases r with
    | ack a => cases he
    | messages m => exact ⟨m, rfl, he⟩
  | authenticating =>
    cases r with
    | ack a =>
      simp only [ClientTask.got] at he
      split at he <;> cases he
    | messages m => cases he
  | subscribing => cases r <;> cases he
  | connecting | connected | polling | forwarding | stopped => cases he

theorem Sourced.step (h : Sourced lib.toCrates P s) (client : CanalClient) (m : Move)
    (hm : ∀ e ∈ m.fed, P e) :
    Sourced lib.toCrates P (s.step lib client m).1 ∧
      ∀ item, .placed item ∈ (s.step lib client m).2 →
        ∃ entry : Proto.Entry, entry.Of lib.toCrates P ∧ item = lib.item entry := by
  have hidle : Sourced lib.toCrates P s ∧ ∀ item, .placed item ∈ ([] : List Note) →
      ∃ entry : Proto.Entry, entry.Of lib.toCrates P ∧ item = lib.item entry :=
    ⟨h, fun item hi => absurd hi List.not_mem_nil⟩
  have hstop : Sourced lib.toCrates P { s with task := .stopped } ∧
      ∀ item, .placed item ∈ ([] : List Note) →
        ∃ entry : Proto.Entry, entry.Of lib.toCrates P ∧ item = lib.item entry :=
    ⟨h.stopped, fun item hi => absurd hi List.not_mem_nil⟩
  have hserve : ∀ {a : Action} {t : ClientServer}, Sourced lib.toCrates P t →
      (∀ e ∈ a.fed, P e) → Sourced lib.toCrates P (t.serve lib a).1 ∧
      ∀ item, .placed item ∈ (t.serve lib a).2 →
        ∃ entry : Proto.Entry, entry.Of lib.toCrates P ∧ item = lib.item entry := by
    intro a t ht ha
    obtain ⟨hs, hn⟩ := ht.serve ha
    exact ⟨hs, fun item hi => absurd hi (hn item)⟩
  cases m with
  | elsewhere a =>
    simp only [ClientServer.step]
    split
    · exact hidle
    · exact hserve h hm
  | send ok =>
    simp only [ClientServer.step]
    split
    · rename_i frame task hnext
      obtain ⟨hentries, hnote⟩ := next_entries hnext
      split
      · refine ⟨⟨h.server, h.toClient, ?_⟩, fun item hi => absurd hi (hnote item)⟩
        rw [hentries]
        exact fun entry he => absurd he List.not_mem_nil
      · exact hstop
    · exact hidle
  | place consumer =>
    simp only [ClientServer.step]
    split
    · rename_i batchId entry entries htask
      have hentries := h.task
      rw [htask] at hentries
      split
      · refine ⟨⟨h.server, h.toClient, fun e he => hentries e (List.mem_cons_of_mem _ he)⟩, ?_⟩
        intro item hi
        cases List.mem_singleton.1 hi
        exact ⟨entry, hentries entry (List.mem_cons_self ..), rfl⟩
      · exact hstop
    · exact hidle
  | read ok =>
    simp only [ClientServer.step]
    split
    · split
      · split
        · rename_i r rs hq
          refine ⟨⟨h.server, ?_, ?_⟩, fun item hi => absurd hi List.not_mem_nil⟩
          · exact fun m hm => h.toClient m (hq ▸ List.mem_cons_of_mem _ hm)
          · intro entry he
            obtain ⟨m, rfl, hmem⟩ := got_entries s.task r he
            exact h.toClient m (hq ▸ List.mem_cons_self ..) entry hmem
        · exact hidle
      · exact hstop
    · exact hidle
  | abort => exact hstop
  | receive tx =>
    simp only [ClientServer.step]
    split
    · refine hserve ⟨h.server, h.toClient, h.task⟩ fun e he => absurd he List.not_mem_nil
    · exact hidle
  | lose frame =>
    simp only [ClientServer.step]
    split
    · exact hserve h fun e he => absurd he List.not_mem_nil
    · exact hidle
  | arm => exact hserve h fun e he => absurd he List.not_mem_nil
  | check => exact hserve h fun e he => absurd he List.not_mem_nil
  | wake => exact hserve h fun e he => absurd he List.not_mem_nil
  | timeout => exact hserve h fun e he => absurd he List.not_mem_nil
  | answer tx => exact hserve h fun e he => absurd he List.not_mem_nil

end ClientServer

/-- The server of a client and the pipeline beside it. The store of the instance is the store of the
server: the pipeline is given it for each of its steps, and what the step puts is put there. -/
structure Daemon where
  pipeline : Pipeline
  net : ClientServer

inductive DaemonAction
  | pipeline (a : PipelineAction)
  | net (m : Move)

inductive DaemonNote
  | pipeline (note : PipelineNote)
  | net (note : Note)

def Pipeline.withStore (s : Pipeline) (store : MemoryEventStore) : Pipeline :=
  { s with feed := { s.feed with inst := { s.feed.inst with store } } }

namespace Daemon

def started (startJournal destination : String) (filter : EventFilter) (storeBufferSize : Nat)
    (authToken : Option String) (debugAssertions : Bool) : Daemon :=
  { pipeline := .started startJournal destination filter storeBufferSize
    net := .new storeBufferSize authToken debugAssertions }

def step (floats : FloatText) (lib : WireCrates) (client : CanalClient) (s : Daemon) :
    DaemonAction → Daemon × List DaemonNote
  | .pipeline a =>
    let r := (s.pipeline.withStore s.net.server.store).step floats lib.toCrates
      s.net.server.debugAssertions a
    let events := stored (feedNotes r.2)
    let net := if events.isEmpty then s.net else (s.net.serve lib (.putBatch events)).1
    ({ pipeline := r.1, net }, r.2.map .pipeline)
  | .net (.elsewhere (.putBatch _)) => (s, [])
  | .net m =>
    let r := s.net.step lib client m
    ({ s with net := r.1 }, r.2.map .net)

end Daemon

namespace DaemonNote

def asPipeline : DaemonNote → Option PipelineNote
  | pipeline note => some note
  | net _ => none

def asNet : DaemonNote → Option Note
  | net note => some note
  | pipeline _ => none

end DaemonNote

def pipelineNotes (os : List DaemonNote) : List PipelineNote :=
  os.filterMap DaemonNote.asPipeline

def netNotes (os : List DaemonNote) : List Note := os.filterMap DaemonNote.asNet

@[simp] theorem pipelineNotes_append (os os' : List DaemonNote) :
    pipelineNotes (os ++ os') = pipelineNotes os ++ pipelineNotes os' := List.filterMap_append ..

@[simp] theorem netNotes_append (os os' : List DaemonNote) :
    netNotes (os ++ os') = netNotes os ++ netNotes os' := List.filterMap_append ..

theorem notes_of_pipeline (ns : List PipelineNote) :
    pipelineNotes (ns.map .pipeline) = ns ∧ netNotes (ns.map .pipeline) = [] := by
  simp [pipelineNotes, netNotes, List.filterMap_map, Function.comp_def, DaemonNote.asPipeline,
    DaemonNote.asNet]

theorem notes_of_net (ns : List Note) :
    pipelineNotes (ns.map .net) = [] ∧ netNotes (ns.map .net) = ns := by
  simp [pipelineNotes, netNotes, List.filterMap_map, Function.comp_def, DaemonNote.asPipeline,
    DaemonNote.asNet]

theorem FeedLoop.step_store (lib : Crates) (d : Bool) (s : FeedLoop) (a : FeedAction) :
    (s.step lib d a).1.inst.store =
      (s.inst.store.putBatch d (stored (s.step lib d a).2)).store := by
  have hput : ∀ store : MemoryEventStore, store = (store.putBatch d []).store := fun _ => rfl
  obtain ⟨s', pre, hs, hstep⟩ := s.step_cases lib d a
  have hs' : stored pre = [] ∧ s'.inst = s.inst := by
    rcases hs with ⟨rfl, rfl⟩ | ⟨e, rfl, rfl⟩ <;> exact ⟨rfl, rfl⟩
  rcases hstep with ⟨-, hn, -, hst⟩ | ⟨-, hn, -, hst⟩
  · rw [hn, hst, hs'.1, hs'.2]
    exact hput _
  · rw [hn, hst, stored_append, hs'.1, List.nil_append, ← hs'.2]
    cases hr : s'.inst.running with
    | false =>
      rw [flush_stopped hr, (notes_of_refused _).2.2.1]
      exact hput _
    | true =>
      obtain ⟨-, hstore, hnotes⟩ := @FeedLoop.flush_running lib d _ hr
      rw [hstore, hnotes, stored_append, (notes_of_rejected _).2.2.1, (notes_of_fed _).2.2.1,
        List.nil_append]

theorem Pipeline.step_store (floats : FloatText) (lib : Crates) (d : Bool) (s : Pipeline)
    (a : PipelineAction) :
    (s.step floats lib d a).1.feed.inst.store =
      (s.feed.inst.store.putBatch d (stored (feedNotes (s.step floats lib d a).2))).store := by
  have hwork : ∀ (t : Pipeline) (b : FeedAction), (t.work lib d b).1.feed.inst.store =
      (t.feed.inst.store.putBatch d (stored (feedNotes (t.work lib d b).2))).store := by
    intro t b
    have hnotes : feedNotes (t.work lib d b).2 = (t.feed.step lib d b).2 := (notes_of_feed _).2.2
    rw [hnotes]
    exact t.feed.step_store lib d b
  have hquiet : s.feed.inst.store =
      (s.feed.inst.store.putBatch d (stored (feedNotes []))).store := rfl
  cases a with
  | pull pull =>
    have hpulled : feedNotes (if s.replication.ended then [] else
        (pull.event.map fun e => PipelineNote.pulled e.1 e.2).toList) = [] := by
      split
      · rfl
      · cases pull.event <;> rfl
    simp only [step]
    split
    · rw [hpulled]
      exact hquiet
    · exact hquiet
  | progress =>
    simp only [step]
    split
    · exact hquiet
    · exact hquiet
    · split
      · exact hquiet
      · split <;> exact hquiet
  | recv =>
    simp only [step]
    split
    · exact hquiet
    · split
      · exact hwork { s with channel := _ } _
      · exact hquiet
  | tick => exact hwork s .tick
  | start => exact hwork s .start
  | stop => exact hwork s .stop
  | abort => exact hquiet

theorem Daemon.one_store (floats : FloatText) (lib : WireCrates) (client : CanalClient)
    (s : Daemon) (a : PipelineAction) :
    (s.step floats lib client (.pipeline a)).1.pipeline.feed.inst.store =
      (s.step floats lib client (.pipeline a)).1.net.server.store := by
  have h := (s.pipeline.withStore s.net.server.store).step_store floats lib.toCrates
    s.net.server.debugAssertions a
  simp only [step]
  rw [h]
  split
  · rename_i hnil
    rw [List.isEmpty_iff.1 hnil]
    rfl
  · rfl

theorem Pipeline.Flowing.withStore {s : Pipeline}
    (h : Flowing floats startJournal False lib f cap d os s) (cap' : Nat) (d' : Bool)
    (store : MemoryEventStore) :
    Flowing floats startJournal False lib f cap' d' os (s.withStore store) where
  follows := h.follows
  sifted := ⟨h.sifted.filter, h.sifted.order, nofun, nofun, nofun⟩
  sending := h.sending
  capacity h' := h'.elim
  lasting h' := h'.elim

theorem Pipeline.mem_due_append (h : e ∈ due floats startJournal lib f os)
    (os' : List PipelineNote) : e ∈ due floats startJournal lib f (os ++ os') := by
  rw [due, pulledEvents_append, attributed, attributedStream_append, oks_append,
    List.filter_append]
  exact List.mem_append_left _ h

theorem Pipeline.Flowing.stored_sublist {s : Pipeline}
    (h : Flowing floats startJournal calm lib f cap d os s) :
    (stored (feedNotes os)).Sublist (due floats startJournal lib f os) := by
  obtain ⟨sent, hsending, hbefore, -⟩ := h.sending
  have hreceived : (received (feedNotes os)).Sublist
      (oks (attributed floats startJournal (pulledEvents os))) := by
    rw [hsending.items.1]
    exact hbefore.sublist.trans (List.sublist_append_left ..)
  exact ((List.sublist_append_left ..).trans h.sifted.order).trans (hreceived.filter _)

theorem Move.fed_eq_nil {m : Move} (h : ∀ events, m ≠ .elsewhere (.putBatch events)) :
    m.fed = [] := by
  cases m with
  | elsewhere a =>
    cases a with
    | putBatch events => exact absurd rfl (h events)
    | _ => rfl
  | _ => rfl

namespace Daemon

/-- What ties a state of the daemon to the notes of its run. -/
structure Sound (floats : FloatText) (startJournal : String) (lib : WireCrates) (f : EventFilter)
    (os : List DaemonNote) (s : Daemon) : Prop where
  flowing : ∀ cap d store, Pipeline.Flowing floats startJournal False lib.toCrates f cap d
    (pipelineNotes os) (s.pipeline.withStore store)
  sourced : s.net.Sourced lib.toCrates
    fun e => e ∈ Pipeline.due floats startJournal lib.toCrates f (pipelineNotes os)
  placed : ∀ item, .placed item ∈ netNotes os →
    ∃ entry : Proto.Entry, item = lib.item entry ∧ entry.Of lib.toCrates
      fun e => e ∈ Pipeline.due floats startJournal lib.toCrates f (pipelineNotes os)

variable {floats : FloatText} {startJournal : String} {lib : WireCrates} {f : EventFilter}
  {os : List DaemonNote} {s : Daemon}

theorem sound_pipeline (h : Sound floats startJournal lib f os s) (client : CanalClient)
    (a : PipelineAction) :
    Sound floats startJournal lib f (os ++ (s.step floats lib client (.pipeline a)).2)
      (s.step floats lib client (.pipeline a)).1 := by
  have hflow := (h.flowing 0 s.net.server.debugAssertions s.net.server.store).step a False.elim
  simp only [step]
  generalize (s.pipeline.withStore s.net.server.store).step floats lib.toCrates
    s.net.server.debugAssertions a = r at hflow
  obtain ⟨hp, hn⟩ := notes_of_pipeline r.2
  have hdue : ∀ e, e ∈ Pipeline.due floats startJournal lib.toCrates f (pipelineNotes os) →
      e ∈ Pipeline.due floats startJournal lib.toCrates f (pipelineNotes os ++ r.2) :=
    fun e he => Pipeline.mem_due_append he r.2
  constructor
  · intro cap d store
    rw [pipelineNotes_append, hp]
    exact hflow.withStore cap d store
  · rw [pipelineNotes_append, hp]
    split
    · exact h.sourced.mono hdue
    · refine ((h.sourced.mono hdue).serve fun e he => hflow.stored_sublist.mem ?_).1
      rw [feedNotes_append, stored_append]
      exact List.mem_append_right _ he
  · intro item hi
    rw [netNotes_append, hn, List.append_nil] at hi
    rw [pipelineNotes_append, hp]
    obtain ⟨entry, hitem, e, he, hconv⟩ := h.placed item hi
    exact ⟨entry, hitem, e, hdue e he, hconv⟩

theorem net_cases (floats : FloatText) (lib : WireCrates) (client : CanalClient) (s : Daemon)
    (m : Move) : s.step floats lib client (.net m) = (s, []) ∨
      m.fed = [] ∧ s.step floats lib client (.net m) =
        ({ s with net := (s.net.step lib client m).1 }, (s.net.step lib client m).2.map .net) := by
  by_cases hput : ∃ events, m = .elsewhere (.putBatch events)
  · obtain ⟨events, rfl⟩ := hput
    exact .inl rfl
  · have hm : ∀ events, m ≠ .elsewhere (.putBatch events) := fun events he => hput ⟨events, he⟩
    refine .inr ⟨Move.fed_eq_nil hm, ?_⟩
    unfold step
    split
    · rename_i heq
      cases heq
    · rename_i heq
      exact absurd (DaemonAction.net.inj heq) (hm _)
    · rename_i heq
      rw [DaemonAction.net.inj heq]

theorem sound_net (h : Sound floats startJournal lib f os s) (client : CanalClient) (m : Move) :
    Sound floats startJournal lib f (os ++ (s.step floats lib client (.net m)).2)
      (s.step floats lib client (.net m)).1 := by
  rcases net_cases floats lib client s m with hstep | ⟨hfed, hstep⟩
  · rw [hstep, List.append_nil]
    exact h
  · obtain ⟨hp, hn⟩ := notes_of_net (s.net.step lib client m).2
    obtain ⟨hsourced, hplaced⟩ := h.sourced.step client m (by
      rw [hfed]
      exact fun e he => absurd he List.not_mem_nil)
    rw [hstep]
    refine ⟨?_, ?_, ?_⟩
    · rw [pipelineNotes_append, hp, List.append_nil]
      exact h.flowing
    · rw [pipelineNotes_append, hp, List.append_nil]
      exact hsourced
    · rw [pipelineNotes_append, netNotes_append, hp, hn, List.append_nil]
      intro item hi
      rcases List.mem_append.1 hi with hi | hi
      · exact h.placed item hi
      · obtain ⟨entry, hof, hitem⟩ := hplaced item hi
        exact ⟨entry, hitem, hof⟩

theorem sound_run (floats : FloatText) (startJournal destination : String) (lib : WireCrates)
    (f : EventFilter) (cap : Nat) (authToken : Option String) (d : Bool) (client : CanalClient)
    (as : List DaemonAction) :
    Sound floats startJournal lib f
      (Run.outputs (step floats lib client)
        (.started startJournal destination f cap authToken d) as)
      (Run.final (step floats lib client)
        (.started startJournal destination f cap authToken d) as) := by
  apply Run.history_invariant (step floats lib client)
    (.started startJournal destination f cap authToken d)
    (I := fun _ os s => Sound floats startJournal lib f os s)
  · have h0 := Pipeline.Flowing.started floats startJournal destination False lib.toCrates f cap d
    refine ⟨h0.withStore, ⟨?_, ?_, ?_⟩, ?_⟩
    · exact Server.Carries.new ..
    · exact fun m hm => nomatch hm
    · exact fun entry he => nomatch he
    · exact fun item hi => nomatch hi
  · intro as os s a h
    cases a with
    | pipeline a => exact sound_pipeline h client a
    | net m => exact sound_net h client m

/-- Nothing reaches the consumer that the binlog did not say: whatever the client places on the
channel is, up to what the wire does not carry, an event that the decoded stream attributes and the
filter of the instance lets through. This holds whatever the admin interface does, under any
interleaving, and with losses at any point. -/
theorem consumer_gets_stream {lib : WireCrates} (hlib : lib.Lawful) (floats : FloatText)
    (startJournal destination : String) (f : EventFilter) (cap : Nat) (authToken : Option String)
    (d : Bool) (client : CanalClient) (as : List DaemonAction) :
    let os := Run.outputs (step floats lib client)
      (.started startJournal destination f cap authToken d) as
    ∀ item, .placed item ∈ netNotes os →
      ∃ e ∈ Pipeline.due floats startJournal lib.toCrates f (pipelineNotes os),
        ∃ raw, item = .ok { e.onArrival with rawBytes := raw } := by
  intro os item hi
  have h := sound_run floats startJournal destination lib f cap authToken d client as
  obtain ⟨entry, rfl, e, he, hconv⟩ := h.placed item hi
  obtain ⟨raw, hraw⟩ := item_of_connector hlib (onArrival_due he)
  rw [hconv] at hraw
  exact ⟨e, he, raw, hraw⟩

/-- The rows of `Pipeline.rowsIn`, fetched by a client: the first two before the third comes in and
takes the place of one of them. -/
def rowsOut : List DaemonAction :=
  (Pipeline.rowsIn.take 9).map .pipeline ++
    [.send true, .receive none, .read true, .send true, .receive none, .read true,
      .send true, .receive none, .arm, .check, .answer none, .read true, .place true, .place true,
      .send true, .receive none].map .net ++
    (Pipeline.rowsIn.drop 9).map .pipeline ++
    [.send true, .receive none, .arm, .check, .answer none, .read true, .place true].map .net

theorem consumer_gets_stream_rowsOut :
    let os := Run.outputs (step plainFloats .protobuf { clientId := 1001 })
      (.started "mysql-bin.000001" "default" everyTable 2 none true) rowsOut
    (placedItems (netNotes os)).length = 3 ∧ ∀ item, .placed item ∈ netNotes os →
      ∃ e ∈ Pipeline.due plainFloats "mysql-bin.000001" WireCrates.protobuf.toCrates everyTable
        (pipelineNotes os), ∃ raw, item = .ok { e.onArrival with rawBytes := raw } := by
  constructor
  · decide +kernel
  · exact consumer_gets_stream WireCrates.protobuf_lawful plainFloats "mysql-bin.000001" "default"
      everyTable 2 none true { clientId := 1001 } rowsOut

end Daemon

end Canal
