import Canal.Lockstep

namespace Canal
set_option autoImplicit true

/-- What the turn of a connection leaves when it neither reads a batch nor accepts an ack. -/
structure Hushed (conn conn' : Connection) (es : List Effect) : Prop where
  notes : es.filterMap Note.ofEffect = []
  answers : answersIn (responses es) = []
  batchId : conn'.state.lastGetBatchId = conn.state.lastGetBatchId
  endPos : conn'.state.lastGetEndPos = conn.state.lastGetEndPos
  hand : conn'.phase.hand = conn.phase.hand

theorem Hushed.knows (h : Hushed conn conn' es) (hk : conn.state.Knows bs) :
    conn'.state.Knows bs := ⟨h.batchId.trans hk.batchId, h.endPos.trans hk.endPos⟩

theorem ofEffect_acks (acks : List Proto.Ack) :
    (acks.map Effect.ack).filterMap Note.ofEffect = [] :=
  filterMap_sends (fun _ => rfl) (acks_sends acks)

theorem Turn.received (ht : Turn lib s c (.receive c frame tx) conn ss store es)
    (hp : (s.conns c).phase = .frame) :
    (es.filterMap Note.ofEffect = [] ∧ conn.phase.hand = [] ∧
      (conn.phase.isGet = true → ∃ get, frame = .packet (.get (.ok get)))) ∨
    ∃ ack cid pos, frame = .packet (.clientAck (.ok ack)) ∧ es = [.updateAck cid pos] ∧
      conn.phase = .frame ∧ (s.conns c).state.lastGetEndPos = some pos ∧
      ack.batchId = (s.conns c).state.lastGetBatchId := by
  have closed : ∀ {phase : Phase}, phase.isGet = false → phase.hand = [] ∧
      (phase.isGet = true → ∃ get, frame = .packet (.get (.ok get))) :=
    fun h => ⟨Phase.hand_of_isGet h, fun h' => absurd (h.symm.trans h') nofun⟩
  cases ht with
  | idle hw => exact .inl ⟨rfl, closed (by rw [hp]; rfl)⟩
  | stage h => exact absurd (hp.symm.trans h) nofun
  | quiet h hw hq unknown acks => exact .inl ⟨ofEffect_acks acks, closed hq⟩
  | refused h hw hq h3 acks => exact .inl ⟨ofEffect_acks acks, closed hq⟩
  | authenticated h hauth hpw hf hq acks => exact .inl ⟨ofEffect_acks acks, closed hq⟩
  | subscribed h hauth hid hf hq acks => exact .inl ⟨ofEffect_acks acks, closed hq⟩
  | acked h hauth hcid hpos hid => exact .inr ⟨_, _, _, rfl, rfl, rfl, hpos, hid⟩
  | rolledBack h hauth => exact .inl ⟨rfl, rfl, nofun⟩
  | awaiting h hauth hcid hlost => exact .inl ⟨rfl, rfl, fun _ => ⟨_, rfl⟩⟩
  | left h hcid hf => exact .inl ⟨rfl, rfl, nofun⟩

theorem map_item_of_mapM {l : List CanalEvent} {entries : List Proto.Entry}
    (h : l.mapM (canalEventToEntry lib) = .ok entries)
    (item : Proto.Entry → Except CanalError CanalEvent) :
    entries.map item = l.map fun e => (canalEventToEntry lib e).bind item := by
  induction l generalizing entries with
  | nil =>
    cases h
    rfl
  | cons e l ih =>
    rw [List.mapM_cons] at h
    cases he : canalEventToEntry lib e with
    | error err =>
      rw [he] at h
      cases h
    | ok entry =>
      rw [he] at h
      cases hl : l.mapM (canalEventToEntry lib) with
      | error err =>
        rw [hl] at h
        cases h
      | ok rest =>
        rw [hl] at h
        cases h
        rw [List.map_cons, List.map_cons, ih hl, he]
        rfl

theorem items_of_batchAnswer {lib : WireCrates} (hne : events.isEmpty = false)
    (h : batchAnswer lib.toCrates session events = .ok m) :
    m.messages.map lib.item = ReadBatch.items lib { session, events } := by
  obtain ⟨entries, hm, rfl⟩ := batchAnswer_ok hne h
  exact map_item_of_mapM hm lib.item

theorem ofEffect_quiet (es : List Effect) : Quiet (es.filterMap Note.ofEffect) := by
  constructor
  · rw [readBatches, List.filterMap_filterMap, List.filterMap_eq_nil_iff]
    intro e _
    cases e with
    | _ => rfl
  · rw [placedItems, List.filterMap_filterMap, List.filterMap_eq_nil_iff]
    intro e _
    cases e with
    | _ => rfl

theorem Server.placedItems_takenUp (s : Server) (a : Action) : placedItems (s.takenUp a) = [] := by
  unfold takenUp
  split
  · split
    · split <;> rfl
    · rfl
  · rfl

theorem Server.takenUp_of_isGet {s : Server} (h : (s.conns 0).phase.isGet = false) (a : Action) :
    s.takenUp a = [] := by
  unfold takenUp
  split
  · split
    · rename_i hp
      rw [hp] at h
      cases h
    · rfl
  · rfl

theorem Server.takenUp_elsewhere (ha : a.actor ≠ some 0) (s : Server) : s.takenUp a = [] := by
  cases a with
  | answer c tx =>
    cases c with
    | zero => exact absurd rfl ha
    | succ c => rfl
  | putBatch | receive | arm | check | wake | timeout => rfl

namespace ClientServer

theorem readBatches_serve (lib : WireCrates) (s : ClientServer) (a : Action) :
    readBatches (s.serve lib a).2 = readBatches (s.server.takenUp a) := by
  simp only [serve]
  rw [readBatches_append, (ofEffect_quiet _).read, List.append_nil]

theorem placedItems_serve (lib : WireCrates) (s : ClientServer) (a : Action) :
    placedItems (s.serve lib a).2 = [] := by
  simp only [serve]
  rw [placedItems_append, Server.placedItems_takenUp, (ofEffect_quiet _).placed, List.append_nil]

/-- What ties a composed state to the notes of its run. -/
structure Following (lib : WireCrates) (notes : List Note) (s : ClientServer) : Prop where
  known : (s.server.conns 0).state.Knows (readEvents notes ++ (s.server.conns 0).phase.hand)
  lockstep : (∃ r, (s.server.conns 0).phase = .closed r) ∨
    Lockstep lib notes s.task (s.toServer.filter Frame.isPoll) (s.server.conns 0).phase
      (answersIn s.toClient)
  acks : AcksFollow lib notes

variable {lib : WireCrates} {notes : List Note} {s : ClientServer}

theorem Following.hushed (h : Following lib notes s) {a : Action}
    (htaken : s.server.takenUp a = [])
    (hh : Hushed (s.server.conns 0) ((s.server.step lib.toCrates a).1.conns 0)
      (trace 0 (s.server.step lib.toCrates a).2))
    (hl : (∃ r, ((s.server.step lib.toCrates a).1.conns 0).phase = .closed r) ∨
      Lockstep lib notes s.task (s.toServer.filter Frame.isPoll)
        ((s.server.step lib.toCrates a).1.conns 0).phase (answersIn s.toClient)) :
    Following lib (notes ++ (s.serve lib a).2) (s.serve lib a).1 := by
  have hn : (s.serve lib a).2 = [] := by
    simp only [serve, htaken, hh.notes, List.append_nil]
  rw [hn, List.append_nil]
  constructor
  · have hk := hh.knows h.known
    rw [← hh.hand] at hk
    exact hk
  · simp only [serve, answersIn_append, hh.answers, List.append_nil]
    exact hl
  · exact h.acks

theorem following_elsewhere (h : Following lib notes s) {a : Action} (ha : a.actor ≠ some 0) :
    Following lib (notes ++ (s.serve lib a).2) (s.serve lib a).1 := by
  rcases s.server.step_conn lib.toCrates a 0 with ⟨-, htr, hc⟩ | ⟨ha', -⟩
  · rcases hc with hc | hc
    · apply h.hushed (Server.takenUp_elsewhere ha s.server)
      · rw [htr, hc]
        exact ⟨rfl, rfl, rfl, rfl, rfl⟩
      · rw [hc]
        exact h.lockstep
    · rcases (s.server.conns 0).notify_phase with hp | ⟨cid, call, hp, hp'⟩
      · apply h.hushed (Server.takenUp_elsewhere ha s.server)
        · rw [htr, hc]
          exact ⟨rfl, rfl, by rw [Connection.notify_state], by rw [Connection.notify_state],
            by rw [hp]⟩
        · rw [hc, hp]
          exact h.lockstep
      · apply h.hushed (Server.takenUp_elsewhere ha s.server)
        · rw [htr, hc]
          exact ⟨rfl, rfl, by rw [Connection.notify_state], by rw [Connection.notify_state],
            by rw [hp, hp']; rfl⟩
        · rw [hc, hp']
          have hl := h.lockstep
          rw [hp] at hl
          exact hl.imp (fun ⟨r, hr⟩ => nomatch hr) fun hl => hl.stage rfl rfl
  · exact absurd ha' ha

theorem following_stage (h : Following lib notes s) (hp : (s.server.conns 0).phase = .get cid call)
    (htaken : s.server.takenUp a = [])
    (hs : s.server.step lib.toCrates a = (s.server.setStage 0 cid call stage, [])) :
    Following lib (notes ++ (s.serve lib a).2) (s.serve lib a).1 := by
  have hc : (s.server.step lib.toCrates a).1.conns 0 =
      { s.server.conns 0 with phase := .get cid { call with stage } } := by
    rw [hs]
    simp only [Server.setStage, Server.setConn, Function.update_self]
  apply h.hushed htaken
  · rw [hc, hs]
    exact ⟨rfl, rfl, rfl, rfl, by rw [hp]; rfl⟩
  · rw [hc]
    have hl := h.lockstep
    rw [hp] at hl
    rcases hl with ⟨r, hr⟩ | hl
    · cases hr
    · exact .inr (hl.stage rfl rfl)

theorem following_idle (h : Following lib notes s) (htaken : s.server.takenUp a = [])
    (hs : s.server.step lib.toCrates a = (s.server, [])) :
    Following lib (notes ++ (s.serve lib a).2) (s.serve lib a).1 := by
  apply h.hushed htaken
  · rw [hs]
    exact ⟨rfl, rfl, rfl, rfl, rfl⟩
  · rw [hs]
    exact h.lockstep

theorem following_hand (h : Following lib notes s) (hp : (s.server.conns 0).phase = .get cid call)
    (htaken : s.server.takenUp a = []) {t : Server}
    (hs : s.server.step lib.toCrates a = t.hand 0 cid call.start events)
    (ht : t.conns = s.server.conns) :
    Following lib (notes ++ (s.serve lib a).2) (s.serve lib a).1 := by
  have hconn : (s.serve lib a).1.server.conns 0 =
      { state := (s.server.conns 0).state.served events, phase := .answer cid events } := by
    simp only [serve, hs, Server.hand, Server.setConn, Function.update_self, ht]
  have htr : trace 0 (s.server.step lib.toCrates a).2 = [.getBatch call.start events] := by
    rw [hs]
    exact trace_own [Effect.getBatch call.start events]
  have hn : (s.serve lib a).2 = [] := by
    simp only [serve, htaken, htr]
    rfl
  rw [hn, List.append_nil]
  have hk := h.known
  have hl := h.lockstep
  rw [hp] at hk hl
  have hnil : (Phase.get cid call).hand = [] := rfl
  rw [hnil, List.append_nil] at hk
  constructor
  · rw [hconn]
    exact hk.served cid events
  · rw [hconn]
    simp only [serve, htr]
    have hnil : answersIn (responses [.getBatch call.start events]) = [] := rfl
    rw [answersIn_append, hnil, List.append_nil]
    refine .inr ((hl.resolve_left ?_).stage rfl rfl)
    rintro ⟨r, hr⟩
    cases hr
  · exact h.acks

theorem Following.accepted (h : Following lib notes s) {id : Int64}
    (hp : (s.server.conns 0).phase = .frame) (hdue : AckDue lib notes id)
    (hpos : (s.server.conns 0).state.lastGetEndPos = some pos)
    (hid : id = (s.server.conns 0).state.lastGetBatchId) (cid : String) :
    AcksFollow lib (notes ++ [.accepted cid pos]) := by
  have hk := h.known
  rw [hp, Phase.hand_of_isGet rfl, List.append_nil, readEvents] at hk
  have hend := hk.endPos
  have hbatch := hk.batchId
  rw [hpos] at hend
  rw [List.getLast?_map] at hend hbatch
  cases hlast : (readBatches notes).getLast? with
  | none =>
    rw [hlast] at hend
    cases hend
  | some batch =>
    rw [hlast] at hend hbatch
    exact h.acks.accepted hdue hlast (hbatch.symm.trans hid.symm) (Option.some.inj hend).symm cid

theorem following_receive (h : Following lib notes s) (hq : s.toServer = frame :: frames)
    (hp : (s.server.conns 0).phase = .frame) (tx : Option CanalError) :
    let t : ClientServer := { s with toServer := frames }
    Following lib (notes ++ (t.serve lib (.receive 0 frame tx)).2)
      (t.serve lib (.receive 0 frame tx)).1 := by
  intro t
  have ht := (s.server.step_conn lib.toCrates (.receive 0 frame tx) 0).resolve_left
    fun hno => hno.1 rfl
  have hl := h.lockstep.resolve_left (by
    rintro ⟨r, hr⟩
    cases hp.symm.trans hr)
  rw [hp, hq] at hl
  -- what the rest of the queue is in step with
  have hrest : Lockstep lib notes s.task (frames.filter Frame.isPoll) .frame
      (answersIn s.toClient) := by
    cases hf : frame.isPoll with
    | false =>
      rw [List.filter_cons_of_neg (by rw [hf]; decide)] at hl
      exact hl
    | true =>
      rw [List.filter_cons_of_pos hf] at hl
      exact hl.received.elim (fun ⟨_, _, _, hl⟩ => hl) fun hl => hl.2.1
  have h' : Following lib notes t :=
    { known := h.known, lockstep := .inr (hp ▸ hrest), acks := h.acks }
  obtain ⟨hanswers, hk', hk⟩ := ht.2.keeps_last hp
  rcases ht.2.received hp with ⟨hh, hhand, hget⟩ | ⟨ack, cid, pos, rfl, hes, hf, hpos, hid⟩
  · apply h'.hushed rfl ⟨hh, hanswers, hk', hk, by rw [hhand, hp]; rfl⟩
    cases hc : ((s.server.step lib.toCrates (.receive 0 frame tx)).1.conns 0).phase with
    | frame => exact .inr hrest
    | closed r => exact .inl ⟨r, rfl⟩
    | get | answer =>
      obtain ⟨get, rfl⟩ := hget (by rw [hc]; rfl)
      rw [List.filter_cons_of_pos rfl] at hl
      rcases hl.received with ⟨batchId, he, -⟩ | ⟨-, -, hcall⟩
      · cases he
      · exact .inr (hcall _ rfl)
  · rw [List.filter_cons_of_pos rfl] at hl
    obtain ⟨batchId, he, hdue, -⟩ := hl.received.resolve_right fun hno => nomatch hno.1
    have hid : batchId = (s.server.conns 0).state.lastGetBatchId := by
      cases he
      exact hid
    have hn : (t.serve lib (.receive 0 (.packet (.clientAck (.ok ack))) tx)).2 =
        [.accepted cid pos] := by
      simp only [serve]
      rw [hes]
      rfl
    rw [hn]
    have hquiet : readEvents [.accepted cid pos] = [] := rfl
    constructor
    · have hknown := h.known
      rw [hp] at hknown
      simp only [serve]
      rw [hf, readEvents_append, hquiet, List.append_nil]
      exact ⟨hk'.trans hknown.batchId, hk.trans hknown.endPos⟩
    · simp only [serve]
      rw [hes, hf]
      have hnil : answersIn (responses [.updateAck cid pos]) = [] := rfl
      rw [answersIn_append, hnil, List.append_nil]
      exact .inr (hrest.quiet ⟨rfl, rfl⟩)
    · exact h.accepted hp hdue hpos hid cid

theorem pending_answer {ns : List Note} {session : Option ClientSession}
    (hread : readBatches ns = if events.isEmpty then [] else [{ session, events }])
    (hplaced : placedItems ns = [])
    (hm : batchAnswer lib.toCrates session events = .ok m) (h : Pending lib notes []) :
    Pending lib (notes ++ ns) (m.messages.map lib.item) := by
  rw [Pending, List.append_nil] at h
  rw [Pending, readBatches_append, placedItems_append, hread, hplaced, List.append_nil, h,
    List.flatMap_append]
  cases hne : events.isEmpty with
  | true =>
    have he : m = {} := by
      rw [batchAnswer, if_pos hne] at hm
      exact (Except.ok.inj hm).symm
    rw [he]
    rfl
  | false => rw [items_of_batchAnswer hne hm, if_neg (by decide), List.flatMap_singleton]

theorem following_answer (h : Following lib notes s)
    (hp : (s.server.conns 0).phase = .answer cid events) (tx : Option CanalError) :
    Following lib (notes ++ (s.serve lib (.answer 0 tx)).2) (s.serve lib (.answer 0 tx)).1 := by
  have hs := Server.step_answer_reply lib.toCrates tx hp
  obtain ⟨hstate, hend⟩ := Outcome.reply_cases
    { state := (s.server.conns 0).state, sessions := s.server.sessions } rfl tx
    ((batchAnswer lib.toCrates (s.server.sessions.get cid) events).map Response.messages)
  generalize Outcome.reply _ tx _ = o at hs hstate hend
  have hes : trace 0 (s.server.step lib.toCrates (.answer 0 tx)).2 = o.effects := by
    rw [hs]
    exact trace_own _
  have hns : (s.serve lib (.answer 0 tx)).2 = if events.isEmpty then []
      else [.read { session := s.server.sessions.get cid, events }] := by
    have hnil : o.effects.filterMap Note.ofEffect = [] := by
      rcases hend with ⟨e, -, he⟩ | ⟨r, -, -, he⟩
      · rw [he]
        rfl
      · rw [he]
        rfl
    simp only [serve, hes, hnil, List.append_nil, Server.takenUp, hp]
  have hread : readBatches (s.serve lib (.answer 0 tx)).2 =
      if events.isEmpty then [] else [{ session := s.server.sessions.get cid, events }] := by
    rw [hns]
    split <;> rfl
  have hplaced := placedItems_serve lib s (.answer 0 tx)
  have hacks : AcksFollow lib (notes ++ (s.serve lib (.answer 0 tx)).2) := by
    apply h.acks.append
    intro cid' pos hmem
    rw [hns] at hmem
    split at hmem
    · cases hmem
    · cases List.mem_singleton.1 hmem
  have hknown : ((s.serve lib (.answer 0 tx)).1.server.conns 0).state.Knows
      (readEvents (notes ++ (s.serve lib (.answer 0 tx)).2)) := by
    have hconn : ((s.serve lib (.answer 0 tx)).1.server.conns 0).state =
        (s.server.conns 0).state := by
      simp only [serve, hs, Server.settle, Server.setConn, Function.update_self, hstate]
    have hhand : readEvents (s.serve lib (.answer 0 tx)).2 = (Phase.answer cid events).hand := by
      rw [readEvents, hread, Phase.hand]
      split <;> rfl
    rw [hconn, readEvents_append, hhand, ← hp]
    exact h.known
  rcases hend with ⟨e, hr, -⟩ | ⟨r, hb, hr, heff⟩
  · have hphase : ((s.serve lib (.answer 0 tx)).1.server.conns 0).phase = .closed (.error e) := by
      simp only [serve, hs, Server.settle, Server.setConn, Function.update_self, hr]
    refine ⟨?_, .inl ⟨_, hphase⟩, hacks⟩
    rw [hphase, Phase.hand_of_isGet rfl, List.append_nil]
    exact hknown
  · have hphase : ((s.serve lib (.answer 0 tx)).1.server.conns 0).phase = .frame := by
      simp only [serve, hs, Server.settle, Server.setConn, Function.update_self, hr]
    refine ⟨?_, .inr ?_, hacks⟩
    · rw [hphase, Phase.hand_of_isGet rfl, List.append_nil]
      exact hknown
    · cases hm : batchAnswer lib.toCrates (s.server.sessions.get cid) events with
      | error e =>
        rw [hm] at hb
        cases hb
      | ok m =>
        rw [hm] at hb
        cases hb
        have hl := h.lockstep.resolve_left (by
          rintro ⟨r, hr⟩
          cases hp.symm.trans hr)
        have hans : answersIn (responses o.effects) = [m] := by
          rw [heff]
          rfl
        rw [hphase]
        simp only [serve] at hread hplaced ⊢
        rw [answersIn_append, hes, hans]
        rw [hes] at hread hplaced
        exact hl.answer (by rw [hp]; rfl) fun h0 => pending_answer hread hplaced hm h0

theorem following_call (h : Following lib notes s) (htaken : s.server.takenUp a = [])
    (hcall : Server.CallStep lib.toCrates s.server 0 a) :
    Following lib (notes ++ (s.serve lib a).2) (s.serve lib a).1 := by
  cases hcall with
  | idle hs => exact following_idle h htaken (hs _ (.refl ..))
  | stage hp hs => exact following_stage h hp htaken (hs _ (.refl ..))
  | read hp hne hs => exact following_hand h hp htaken (hs _ (.refl ..)) rfl
  | expire hp hs => exact following_hand h hp htaken (hs _ (.refl ..)) rfl

theorem following_answered (h : Following lib notes s) (tx : Option CanalError) :
    Following lib (notes ++ (s.serve lib (.answer 0 tx)).2) (s.serve lib (.answer 0 tx)).1 := by
  cases hp : (s.server.conns 0).phase with
  | answer cid events => exact following_answer h hp tx
  | frame | get | closed =>
    apply following_idle h
    · simp only [Server.takenUp, hp]
    · apply Server.step_answer_idle
      rw [hp]
      exact fun cid events hno => (by cases hno)

theorem following_lose (h : Following lib notes s) (hf : frame.isLoss = true) :
    Following lib (notes ++ (s.serve lib (.receive 0 frame none)).2)
      (s.serve lib (.receive 0 frame none)).1 := by
  cases hp : (s.server.conns 0).phase with
  | get | answer | closed =>
    apply following_idle h rfl
    apply Server.step_receive_idle
    rw [hp]
    exact fun hno => (by cases hno)
  | frame =>
    -- a frame that a queue could hold as well, were it not for the client
    have h' : Following lib notes { s with toServer := frame :: s.toServer } := by
      refine ⟨h.known, ?_, h.acks⟩
      have hpoll : frame.isPoll = false := by
        cases frame with
        | endOfStream | idleTimeout | transportError => rfl
        | keepalive | undecodable | packet => cases hf
      rw [List.filter_cons_of_neg (by rw [hpoll]; decide)]
      exact h.lockstep
    exact following_receive h' rfl hp none

end ClientServer

end Canal
