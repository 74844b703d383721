import Canal.Daemon
import Canal.ReadOrder

namespace Canal
set_option autoImplicit true

open KeyedLog
open Pipeline (plainFloats everyTable)

theorem Server.CallStep.unanswered (h : CallStep lib s c a) :
    answersIn (responses (trace c (s.step lib a).2)) = [] := by
  have hhand : ∀ (t : Server) (cid : String) (start : LogPosition) (events : Events),
      s.step lib a = t.hand c cid start events →
        answersIn (responses (trace c (s.step lib a).2)) = [] := by
    intro t cid start events hs
    have htr : trace c (s.step lib a).2 = [.getBatch start events] := by
      rw [hs]
      exact trace_own [Effect.getBatch start events]
    rw [htr]
    rfl
  cases h with
  | idle hs =>
    rw [hs _ (.refl ..)]
    rfl
  | stage hp hs =>
    rw [hs _ (.refl ..)]
    rfl
  | read hp hne hs => exact hhand _ _ _ _ (hs _ (.refl ..))
  | expire hp hs => exact hhand _ _ _ _ (hs _ (.refl ..))

theorem Server.answers_open (lib : Crates) (s : Server) (c : Nat) (a : Action) :
    answersIn (responses (trace c (s.step lib a).2)) = [] ∨
      ((s.step lib a).1.conns c).phase = .frame := by
  have hquiet : (s.step lib a).2 = [] → answersIn (responses (trace c (s.step lib a).2)) = [] := by
    intro h
    rw [h]
    rfl
  rcases s.step_conn lib a c with ⟨-, htr, -⟩ | ⟨hactor, ht⟩
  · left
    rw [htr]
    rfl
  · cases a with
    | putBatch events => cases hactor
    | receive c' frame tx =>
      cases hactor
      left
      by_cases hp : (s.conns c).phase = .frame
      · exact (ht.keeps_last hp).1
      · exact hquiet (congrArg Prod.snd (step_receive_idle lib frame tx hp))
    | arm c' =>
      cases hactor
      exact .inl (call_arm ..).unanswered
    | check c' =>
      cases hactor
      exact .inl (call_check ..).unanswered
    | wake c' =>
      cases hactor
      exact .inl (call_wake ..).unanswered
    | timeout c' =>
      cases hactor
      exact .inl (call_timeout ..).unanswered
    | answer c' tx =>
      cases hactor
      cases hp : (s.conns c).phase with
      | answer cid events =>
        obtain ⟨-, hend⟩ := Outcome.reply_cases
          { state := (s.conns c).state, sessions := s.sessions } rfl tx
          ((batchAnswer lib (s.sessions.get cid) events).map Response.messages)
        rw [step_answer_reply lib tx hp]
        rcases hend with ⟨e, -, heff⟩ | ⟨r, -, hr, -⟩
        · left
          simp only [settle, trace_own, heff]
          rfl
        · right
          simp only [settle, Server.setConn, Function.update_self, hr]
      | frame | get | closed =>
        left
        apply hquiet
        rw [step_answer_idle lib tx]
        rw [hp]
        exact fun cid events hno => (by cases hno)

theorem Turn.hand (ht : Turn lib s c a conn ss store es) (ha : ∀ tx, a ≠ .answer c tx) :
    conn.phase.hand = (s.conns c).phase.hand ++ batches es := by
  have hframe : ∀ {phase : Phase} {es : List Effect}, (s.conns c).phase = .frame →
      phase.isGet = false → batches es = [] →
        phase.hand = (s.conns c).phase.hand ++ batches es := by
    intro phase es h hp hb
    rw [h, hb, Phase.hand_of_isGet hp]
    rfl
  have hacks : ∀ acks : List Proto.Ack, batches (acks.map Effect.ack) = [] :=
    fun acks => filterMap_sends (fun _ => rfl) (acks_sends acks)
  cases ht with
  | idle => exact (List.append_nil _).symm
  | stage h =>
    rw [h]
    rfl
  | quiet h hw hp unknown acks => exact hframe h hp (hacks acks)
  | refused h hw hp h3 acks => exact hframe h hp (hacks acks)
  | authenticated h hauth hpw hf hp acks => exact hframe h hp (hacks acks)
  | subscribed h hauth hid hf hp acks => exact hframe h hp (hacks acks)
  | acked h => exact hframe h rfl rfl
  | rolledBack h => exact hframe h rfl rfl
  | left h => exact hframe h rfl rfl
  | awaiting h =>
    rw [h]
    rfl
  | timedOut h =>
    rw [h]
    rfl
  | served h hr hne =>
    rw [h, batches, List.filterMap_cons_some (Effect.batchRead_some hne), Phase.hand,
      if_neg (by rw [hne]; decide)]
    rfl
  | answered => exact absurd rfl (ha _)

theorem Server.takenUp_hand (lib : Crates) (s : Server) (a : Action) :
    readEvents (s.takenUp a) ++ ((s.step lib a).1.conns 0).phase.hand =
      (s.conns 0).phase.hand ++ batches (trace 0 (s.step lib a).2) := by
  rcases s.step_conn lib a 0 with ⟨ha, htr, hc⟩ | ⟨ha, ht⟩
  · rw [takenUp_elsewhere ha, htr, batches_nil, List.append_nil]
    rcases hc with hc | hc
    · rw [hc]
      rfl
    · rcases (s.conns 0).notify_phase with hp | ⟨cid, call, hp, hp'⟩
      · rw [hc, hp]
        rfl
      · rw [hc, hp, hp']
        rfl
  · by_cases hanswer : ∃ tx, a = .answer 0 tx
    · obtain ⟨tx, rfl⟩ := hanswer
      cases hp : (s.conns 0).phase with
      | answer cid events =>
        obtain ⟨-, hend⟩ := Outcome.reply_cases
          { state := (s.conns 0).state, sessions := s.sessions } rfl tx
          ((batchAnswer lib (s.sessions.get cid) events).map Response.messages)
        have htaken : readEvents (s.takenUp (.answer 0 tx)) = (Phase.answer cid events).hand := by
          simp only [takenUp, hp, Phase.hand]
          split <;> rfl
        rw [htaken, step_answer_reply lib tx hp]
        generalize Outcome.reply _ tx _ = o at hend
        have hes : batches (trace 0 (s.settle 0 o).2) = [] := by
          simp only [settle, trace_own]
          rcases hend with ⟨e, -, heff⟩ | ⟨r, -, -, heff⟩
          · rw [heff]
            rfl
          · rw [heff]
            rfl
        have hphase : ((s.settle 0 o).1.conns 0).phase.hand = [] := by
          simp only [settle, Server.setConn, Function.update_self]
          split <;> rfl
        rw [hes, hphase]
      | frame | get | closed =>
        rw [step_answer_idle lib tx, hp]
        · simp only [takenUp, hp]
          rfl
        · rw [hp]
          exact fun cid events hno => (by cases hno)
    · have htaken : s.takenUp a = [] := by
        cases a with
        | answer c tx =>
          cases ha
          exact absurd ⟨tx, rfl⟩ hanswer
        | _ => rfl
      rw [htaken, ht.hand fun tx he => hanswer ⟨tx, he⟩]
      rfl

theorem next_forward {task : ClientTask} (h : task.next client = some (frame, task')) :
    frame ≠ .packet (.clientRollback (.ok ())) ∧ task.entries = [] := by
  cases task with
  | forwarding batchId entries =>
    cases entries with
    | nil =>
      cases h
      exact ⟨fun h => (by cases h), rfl⟩
    | cons => cases h
  | authenticating | subscribing | awaiting | stopped => cases h
  | connecting | connected | polling =>
    cases h
    exact ⟨fun h => (by cases h), rfl⟩

theorem got_onWay (task : ClientTask) (r : Response) (rs : List Response)
    (hr : task.reads = true) : task.got r = .stopped ∨
    (task.got r).entries ++ (answersIn rs).flatMap (·.messages) =
      task.entries ++ (answersIn (r :: rs)).flatMap (·.messages) := by
  cases task with
  | awaiting =>
    cases r with
    | ack a => exact .inl rfl
    | messages m => exact .inr rfl
  | authenticating =>
    cases r with
    | ack a =>
      simp only [ClientTask.got]
      split
      · exact .inr rfl
      · exact .inl rfl
    | messages m => exact .inl rfl
  | subscribing =>
    cases r with
    | ack a => exact .inr rfl
    | messages m => exact .inl rfl
  | connecting | connected | polling | forwarding | stopped => cases hr

namespace ClientServer

/-- What has been read and is on its way to the consumer. -/
def onWay (lib : WireCrates) (s : ClientServer) : List (Except CanalError CanalEvent) :=
  (s.task.entries ++ (answersIn s.toClient).flatMap (·.messages)).map lib.item

/-- What the consumer is due for all that has been read. -/
def readItems (lib : WireCrates) (notes : List Note) : List (Except CanalError CanalEvent) :=
  (readBatches notes).flatMap (ReadBatch.items lib)

/-- The reads follow the feed, and the consumer the reads. -/
structure Orderly (lib : WireCrates) (cap : Nat) (feed : List CanalEvent) (notes : List Note)
    (s : ClientServer) : Prop where
  stored : Reflects cap feed s.server.store
  reading : Reading feed (readEvents notes ++ (s.server.conns 0).phase.hand) (s.server.conns 0)
  toServer : ∀ frame ∈ s.toServer, frame ≠ .packet (.clientRollback (.ok ()))
  placed : s.task = .stopped ∧ placedItems notes <+: readItems lib notes ∨
    placedItems notes ++ s.onWay lib <+: readItems lib notes

variable {lib : WireCrates} {feed : List CanalEvent} {notes : List Note} {s : ClientServer}

theorem onWay_of_lockstep (h : Lockstep lib notes s.task polls phase (answersIn s.toClient)) :
    s.task = .stopped ∨ placedItems notes ++ s.onWay lib = readItems lib notes := by
  rw [onWay]
  generalize s.task = task at h
  generalize answersIn s.toClient = ms at h
  cases h with
  | idle ht hq hp =>
    cases task with
    | connecting | authenticating | connected | subscribing | polling => exact .inr hp
    | awaiting | forwarding | stopped => cases ht
  | requested hq hp => exact .inr hp
  | reading hp => exact .inr hp
  | refused hp => exact .inr hp
  | answered hp =>
    right
    simp only [ClientTask.entries, List.flatMap_singleton, List.nil_append]
    exact hp
  | forwarding hp =>
    right
    simp only [ClientTask.entries, List.flatMap_nil, List.append_nil]
    exact hp
  | stopped => exact .inl rfl

theorem Orderly.placed_prefix (h : Orderly lib cap feed notes s) :
    placedItems notes <+: readItems lib notes := by
  rcases h.placed with ⟨-, hp⟩ | hp
  · exact hp
  · exact (List.prefix_append ..).trans hp

theorem Orderly.serve (h : Orderly lib cap feed notes s)
    (hfollow : Following lib (notes ++ (s.serve lib a).2) (s.serve lib a).1)
    (hm : Ascending CanalEvent.key (feed ++ a.fed)) (hf : a.Forward 0) :
    Orderly lib cap (feed ++ a.fed) (notes ++ (s.serve lib a).2) (s.serve lib a).1 := by
  have hread : readEvents (s.serve lib a).2 = readEvents (s.server.takenUp a) := by
    rw [readEvents, readBatches_serve, readEvents]
  have hplaced := placedItems_serve lib s a
  have hgrow : readItems lib notes <+: readItems lib (notes ++ (s.serve lib a).2) := by
    rw [readItems, readItems, readBatches_append, List.flatMap_append]
    exact List.prefix_append ..
  refine ⟨h.stored.step hm lib.toCrates, ?_, h.toServer, ?_⟩
  · have hstep := h.reading.step h.stored hm.left hf lib.toCrates
    rw [List.append_assoc, ← Server.takenUp_hand, ← List.append_assoc, ← hread,
      ← readEvents_append] at hstep
    exact hstep
  · rw [placedItems_append, hplaced, List.append_nil]
    rcases h.placed with ⟨hstop, hp⟩ | hp
    · exact .inl ⟨hstop, hp.trans hgrow⟩
    rcases s.server.answers_open lib.toCrates 0 a with hans | hframe
    · right
      have honWay : (s.serve lib a).1.onWay lib = s.onWay lib := by
        simp only [onWay, ClientServer.serve, answersIn_append, hans, List.append_nil]
      rw [honWay]
      exact hp.trans hgrow
    · have hlock := hfollow.lockstep.resolve_left (by
        rintro ⟨r, hr⟩
        cases hframe.symm.trans hr)
      rcases onWay_of_lockstep hlock with hstop | heq
      · exact .inl ⟨hstop, ((List.prefix_append ..).trans hp).trans hgrow⟩
      · right
        rw [placedItems_append, hplaced, List.append_nil] at heq
        exact heq ▸ List.prefix_refl _

theorem Orderly.client (h : Orderly lib cap feed notes s) {t : ClientServer} {ns : List Note}
    (hs : t.server = s.server) (hread : readBatches ns = [])
    (hq : ∀ frame ∈ t.toServer, frame ∈ s.toServer ∨ frame ≠ .packet (.clientRollback (.ok ())))
    (hp : t.task = .stopped ∧ placedItems ns = [] ∨
      s.task ≠ .stopped ∧ placedItems ns ++ t.onWay lib = s.onWay lib) :
    Orderly lib cap (feed ++ []) (notes ++ ns) t := by
  have hitems : readItems lib (notes ++ ns) = readItems lib notes := by
    rw [readItems, readBatches_append, hread, List.append_nil, readItems]
  refine ⟨?_, ?_, ?_, ?_⟩
  · rw [hs, List.append_nil]
    exact h.stored
  · rw [hs, List.append_nil, readEvents, readBatches_append, hread, List.append_nil]
    exact h.reading
  · intro frame hf
    rcases hq frame hf with hf | hf
    · exact h.toServer frame hf
    · exact hf
  · rw [hitems, placedItems_append]
    rcases hp with ⟨hstop, hnil⟩ | ⟨hrun, hp⟩
    · rw [hnil, List.append_nil]
      exact .inl ⟨hstop, h.placed_prefix⟩
    · right
      rw [List.append_assoc, hp]
      exact h.placed.resolve_left fun hstop => hrun hstop.1

theorem Orderly.stop (h : Orderly lib cap feed notes s) :
    Orderly lib cap (feed ++ []) (notes ++ []) { s with task := .stopped } :=
  h.client (t := { s with task := .stopped }) rfl rfl (fun _ hf => .inl hf) (.inl ⟨rfl, rfl⟩)

theorem Orderly.idle (h : Orderly lib cap feed notes s) :
    Orderly lib cap (feed ++ []) (notes ++ []) s := by
  rw [List.append_nil, List.append_nil]
  exact h

theorem Orderly.send (h : Orderly lib cap feed notes s) (client : CanalClient) (ok : Bool) :
    Orderly lib cap (feed ++ []) (notes ++ (s.step lib client (.send ok)).2)
      (s.step lib client (.send ok)).1 := by
  cases hn : s.task.next client with
  | none =>
    simp only [step, hn]
    exact h.idle
  | some next =>
    obtain ⟨frame, task⟩ := next
    obtain ⟨hforward, hentries⟩ := next_forward hn
    obtain ⟨hentries', hnote⟩ := next_entries hn
    cases ok with
    | false =>
      simp only [step, hn]
      exact h.stop
    | true =>
      simp only [step, hn, ↓reduceIte]
      have hquiet : readBatches (Note.ofFrame frame) = [] ∧
          placedItems (Note.ofFrame frame) = [] := by
        unfold Note.ofFrame
        split <;> exact ⟨rfl, rfl⟩
      apply h.client (t := { s with task, toServer := s.toServer ++ [frame] }) rfl hquiet.1
      · intro frame' hf
        rcases List.mem_append.1 hf with hf | hf
        · exact .inl hf
        · rw [List.mem_singleton.1 hf]
          exact .inr hforward
      · right
        refine ⟨fun hs => ?_, ?_⟩
        · rw [hs] at hn
          cases hn
        · rw [hquiet.2, onWay, onWay, hentries, hentries']
          rfl

theorem Orderly.place (h : Orderly lib cap feed notes s) (client : CanalClient)
    (consumer : Bool) :
    Orderly lib cap (feed ++ []) (notes ++ (s.step lib client (.place consumer)).2)
      (s.step lib client (.place consumer)).1 := by
  simp only [step]
  split
  · rename_i batchId entry entries ht
    split
    · apply h.client (t := { s with task := .forwarding batchId entries }) rfl rfl
      · exact fun _ hf => .inl hf
      · right
        rw [onWay, onWay, ht]
        exact ⟨fun h => (by cases h), rfl⟩
    · exact h.stop
  · exact h.idle

theorem Orderly.read (h : Orderly lib cap feed notes s) (client : CanalClient) (ok : Bool) :
    Orderly lib cap (feed ++ []) (notes ++ (s.step lib client (.read ok)).2)
      (s.step lib client (.read ok)).1 := by
  simp only [step]
  split
  · rename_i hr
    split
    · split
      · rename_i r rs hq
        apply h.client (t := { s with task := s.task.got r, toClient := rs }) rfl rfl
        · exact fun _ hf => .inl hf
        · rcases got_onWay s.task r rs hr with hstop | hsame
          · exact .inl ⟨hstop, rfl⟩
          · right
            refine ⟨fun hs => ?_, ?_⟩
            · rw [hs] at hr
              cases hr
            · rw [onWay, onWay, hq, hsame]
              rfl
      · exact h.idle
    · exact h.stop
  · exact h.idle

theorem orderly_step (h : Orderly lib cap feed notes s) (hfollow : Following lib notes s)
    (client : CanalClient) (m : Move) (hm : Ascending CanalEvent.key (feed ++ m.fed)) :
    Orderly lib cap (feed ++ m.fed) (notes ++ (s.step lib client m).2)
      (s.step lib client m).1 := by
  have hstep := following_step hfollow client m
  cases m with
  | elsewhere a =>
    simp only [step] at hstep ⊢
    split
    · rename_i ha
      rw [Move.fed, Action.fed_of_actor ha]
      exact h.idle
    · rename_i ha
      rw [if_neg ha] at hstep
      exact h.serve hstep hm fun tx he => ha (by rw [he]; rfl)
  | send ok => exact h.send client ok
  | place consumer => exact h.place client consumer
  | read ok => exact h.read client ok
  | abort => exact h.stop
  | receive tx =>
    simp only [step] at hstep ⊢
    split
    · rename_i frame frames hq hp
      have ht : Orderly lib cap feed notes { s with toServer := frames } :=
        ⟨h.stored, h.reading, fun f hf => h.toServer f (hq ▸ List.mem_cons_of_mem _ hf), h.placed⟩
      rw [hq, hp] at hstep
      apply ht.serve hstep hm
      rintro tx' ⟨⟩
      exact h.toServer _ (hq ▸ List.mem_cons_self ..) rfl
    · exact h.idle
  | lose frame =>
    simp only [step] at hstep ⊢
    split
    · rename_i hf
      rw [if_pos hf] at hstep
      apply h.serve hstep hm
      rintro tx' ⟨⟩
      cases hf
    · exact h.idle
  | arm => exact h.serve hstep hm fun _ => Action.noConfusion
  | check => exact h.serve hstep hm fun _ => Action.noConfusion
  | wake => exact h.serve hstep hm fun _ => Action.noConfusion
  | timeout => exact h.serve hstep hm fun _ => Action.noConfusion
  | answer tx => exact h.serve hstep hm fun _ => Action.noConfusion

theorem Orderly.placed_sublist (h : Orderly lib cap feed notes s) :
    ∃ sub : List CanalEvent, sub.Sublist feed ∧ placedItems notes = sub.map fun e =>
      (canalEventToEntry lib.toCrates e).bind lib.item := by
  have hitems : readItems lib notes = ((readBatches notes).flatMap fun b =>
      b.events.events.filter fun e => sessionPasses lib.toCrates b.session e.fullName).map fun e =>
        (canalEventToEntry lib.toCrates e).bind lib.item := by
    rw [List.map_flatMap]
    rfl
  have hread : ((readBatches notes).flatMap fun b => b.events.events.filter fun e =>
      sessionPasses lib.toCrates b.session e.fullName).Sublist feed := by
    have horder := h.reading.order
    rw [delivered, List.flatMap_append, ← delivered, ← delivered] at horder
    refine List.Sublist.trans ?_ ((List.sublist_append_left ..).trans horder)
    rw [delivered, readEvents, List.flatMap_map]
    induction readBatches notes with
    | nil => exact List.Sublist.refl _
    | cons b bs ih => exact List.filter_sublist.append ih
  have hplaced := h.placed_prefix
  rw [hitems] at hplaced
  refine ⟨_, (List.take_sublist (placedItems notes).length _).trans hread, ?_⟩
  rw [List.map_take]
  exact List.prefix_iff_eq_take.1 hplaced

theorem orderly_run (lib : WireCrates) (client : CanalClient) (cap : Nat)
    (authToken : Option String) (d : Bool) (ms : List Move)
    (hm : Ascending CanalEvent.key (ms.flatMap Move.fed)) :
    Following lib (Run.outputs (step lib client) (.new cap authToken d) ms)
        (Run.final (step lib client) (.new cap authToken d) ms) ∧
      Orderly lib cap (ms.flatMap Move.fed)
        (Run.outputs (step lib client) (.new cap authToken d) ms)
        (Run.final (step lib client) (.new cap authToken d) ms) := by
  induction ms using List.reverseRecOn with
  | nil =>
    refine ⟨⟨⟨rfl, rfl⟩, .inr (.idle rfl (.inl rfl) rfl), ?_⟩, Reflects.init cap,
      Reading.new cap authToken d 0, fun frame hf => absurd hf List.not_mem_nil,
      .inr (List.prefix_refl _)⟩
    intro pre cid pos post he
    cases pre <;> cases he
  | append_singleton ms m ih =>
    rw [List.flatMap_append, List.flatMap_singleton] at hm ⊢
    rw [Run.final_concat, Run.outputs_concat]
    obtain ⟨hfollow, horder⟩ := ih hm.left
    exact ⟨following_step hfollow client m, orderly_step horder hfollow client m hm⟩

end ClientServer

namespace Daemon

/-- Beside the pipeline the client and the server run as they do alone, and are fed what the
pipeline stores. -/
theorem net_run (floats : FloatText) (startJournal destination : String) (lib : WireCrates)
    (f : EventFilter) (cap : Nat) (authToken : Option String) (d : Bool) (client : CanalClient)
    (as : List DaemonAction) :
    let os := Run.outputs (step floats lib client)
      (.started startJournal destination f cap authToken d) as
    ∃ ms, (Run.final (step floats lib client)
        (.started startJournal destination f cap authToken d) as).net =
          Run.final (ClientServer.step lib client) (.new cap authToken d) ms ∧
      netNotes os = Run.outputs (ClientServer.step lib client) (.new cap authToken d) ms ∧
      ms.flatMap Move.fed = stored (feedNotes (pipelineNotes os)) := by
  intro os
  apply Run.history_invariant (step floats lib client)
    (.started startJournal destination f cap authToken d)
    (I := fun _ os s => ∃ ms,
      s.net = Run.final (ClientServer.step lib client) (.new cap authToken d) ms ∧
      netNotes os = Run.outputs (ClientServer.step lib client) (.new cap authToken d) ms ∧
      ms.flatMap Move.fed = stored (feedNotes (pipelineNotes os)))
  · exact ⟨[], rfl, rfl, rfl⟩
  · rintro as os s a ⟨ms, hs, ho, hfed⟩
    cases a with
    | pipeline a =>
      simp only [step]
      generalize (s.pipeline.withStore s.net.server.store).step floats lib.toCrates
        s.net.server.debugAssertions a = r
      obtain ⟨hp, hn⟩ := notes_of_pipeline r.2
      rw [pipelineNotes_append, netNotes_append, hp, hn, List.append_nil, feedNotes_append,
        stored_append]
      split
      · rename_i hnil
        rw [List.isEmpty_iff.1 hnil, List.append_nil]
        exact ⟨ms, hs, ho, hfed⟩
      · refine ⟨ms ++ [.elsewhere (.putBatch (stored (feedNotes r.2)))], ?_, ?_, ?_⟩
        · rw [Run.final_concat, ← hs]
          rfl
        · rw [Run.outputs_concat, ← hs, ← ho]
          exact (List.append_nil _).symm
        · rw [List.flatMap_append, List.flatMap_singleton, hfed]
          rfl
    | net m =>
      rcases net_cases floats lib client s m with hstep | ⟨hm, hstep⟩
      · rw [hstep, List.append_nil]
        exact ⟨ms, hs, ho, hfed⟩
      · obtain ⟨hp, hn⟩ := notes_of_net (s.net.step lib client m).2
        rw [hstep, pipelineNotes_append, netNotes_append, hp, hn, List.append_nil]
        refine ⟨ms ++ [m], ?_, ?_, ?_⟩
        · rw [Run.final_concat, ← hs]
        · rw [Run.outputs_concat, ← hs, ← ho]
        · rw [List.flatMap_append, List.flatMap_singleton, hm, List.append_nil, hfed]

/-- The consumer is given the stream in its order and nothing of it twice: where the events that are
due come in the order of their positions, what the client places on the channel is, up to what the
wire does not carry, a part of these events with the rest left out. -/
theorem consumer_in_order {lib : WireCrates} (hlib : lib.Lawful) (floats : FloatText)
    (startJournal destination : String) (f : EventFilter) (cap : Nat) (authToken : Option String)
    (d : Bool) (client : CanalClient) (as : List DaemonAction)
    (hm : Ascending CanalEvent.key (Pipeline.due floats startJournal lib.toCrates f
      (pipelineNotes (Run.outputs (step floats lib client)
        (.started startJournal destination f cap authToken d) as)))) :
    let os := Run.outputs (step floats lib client)
      (.started startJournal destination f cap authToken d) as
    ∃ sub : List CanalEvent,
      sub.Sublist (Pipeline.due floats startJournal lib.toCrates f (pipelineNotes os)) ∧
      List.Forall₂ (fun item e => ∃ raw, item = .ok { e.onArrival with rawBytes := raw })
        (placedItems (netNotes os)) sub := by
  intro os
  have hsound := sound_run floats startJournal destination lib f cap authToken d client as
  have hstored := (hsound.flowing cap d (.new cap)).stored_sublist
  obtain ⟨ms, -, ho, hfed⟩ :=
    net_run floats startJournal destination lib f cap authToken d client as
  have hasc : Ascending CanalEvent.key (ms.flatMap Move.fed) := hfed ▸ hm.sublist hstored
  obtain ⟨sub, hsub, hplaced⟩ :=
    (ClientServer.orderly_run lib client cap authToken d ms hasc).2.placed_sublist
  have hdue := (hfed ▸ hsub).trans hstored
  refine ⟨sub, hdue, ?_⟩
  rw [ho, hplaced, List.forall₂_map_left_iff, List.forall₂_same]
  intro e he
  exact item_of_connector hlib (onArrival_due (hdue.mem he))

theorem consumer_in_order_rowsOut :
    let os := Run.outputs (step plainFloats .protobuf { clientId := 1001 })
      (.started "mysql-bin.000001" "default" everyTable 2 none true) rowsOut
    (placedItems (netNotes os)).length = 3 ∧
    ∃ sub : List CanalEvent, sub.Sublist (Pipeline.due plainFloats "mysql-bin.000001"
        WireCrates.protobuf.toCrates everyTable (pipelineNotes os)) ∧
      List.Forall₂ (fun item e => ∃ raw, item = .ok { e.onArrival with rawBytes := raw })
        (placedItems (netNotes os)) sub := by
  constructor
  · decide +kernel
  · exact consumer_in_order WireCrates.protobuf_lawful plainFloats "mysql-bin.000001" "default"
      everyTable 2 none true { clientId := 1001 } rowsOut (by unfold Ascending; decide +kernel)

end Daemon

end Canal
