import Canal.Gaps
import Canal.Replay
import Canal.Serialization
import Canal.Subscription

namespace Canal
set_option autoImplicit true

/-- The answer to a Get that is refused. -/
def droppedAck (start watermark : LogPosition) : Proto.Ack :=
  { errorCodePresent := some 1, errorMessage := droppedMessage start watermark }

theorem droppedMessage_ne (start watermark : LogPosition) :
    droppedMessage start watermark ≠ "not authenticated" := by
  intro h
  have hc := congrArg (fun s => s.toList.head?) h
  simp [droppedMessage] at hc

theorem lostWatermark_eq_none_iff (st : ClientState) (ss : SessionManager)
    (store : MemoryEventStore) (cid : String) : lostWatermark st ss store cid = none ↔
      ∀ cur, ownCursor st ss cid = some cur → cur.timestamp = none →
        store.evictedWatermark.filter cur.lt = none := by
  cases hcur : ownCursor st ss cid with
  | none => simp [(lostWatermark_default store hcur).2]
  | some cur =>
    simp only [Option.some.injEq, forall_eq']
    cases ht : cur.timestamp with
    | none => simp [(lostWatermark_own store hcur ht).2]
    | some ts =>
      simp [lostWatermark, getStart, hcur, ht]

theorem lostWatermark_kept {st st' : ClientState} {ss ss' : SessionManager}
    {store store' : MemoryEventStore} (hcur : ownCursor st ss cid = ownCursor st' ss' cid)
    (hw : store.evictedWatermark = store'.evictedWatermark) :
    lostWatermark st ss store cid = none ↔ lostWatermark st' ss' store' cid = none := by
  rw [lostWatermark_eq_none_iff, lostWatermark_eq_none_iff, hcur, hw]

namespace Server

/-- A step of a connection other than `c`. -/
def Beside (c : Nat) (a : Action) : Prop := ∃ c', a.actor = some c' ∧ c' ≠ c

theorem step_beside (lib : Crates) {s : Server} (h : Beside c a) :
    (s.step lib a).1.conns c = s.conns c ∧
      (s.step lib a).1.store.evictedWatermark = s.store.evictedWatermark := by
  obtain ⟨c', ha, hne⟩ := h
  refine ⟨step_conn_of_ne ha hne.symm s, ?_⟩
  rcases s.step_cases lib a with ⟨events, hput, -⟩ | ⟨_, -, conn, ss, store, es, ht, hs⟩
  · rw [hput] at ha
    cases ha
  · obtain ⟨seq, hseq⟩ := ht.store_eq
    rw [hs, hseq]

theorem final_beside (lib : Crates) {s : Server} (h : ∀ a ∈ mid, Beside c a) :
    (Run.final (step lib) s mid).conns c = s.conns c ∧
      (Run.final (step lib) s mid).store.evictedWatermark = s.store.evictedWatermark := by
  induction mid generalizing s with
  | nil => exact ⟨rfl, rfl⟩
  | cons a mid ih =>
    obtain ⟨hc, hw⟩ := ih (s := (s.step lib a).1) fun b hb => h b (List.mem_cons_of_mem _ hb)
    obtain ⟨hc', hw'⟩ := step_beside lib (s := s) (h a (List.mem_cons_self ..))
    exact ⟨hc.trans hc', hw.trans hw'⟩

/-- The connection waits for a frame, and its client is logged in under `cid`. -/
structure Ready (s : Server) (c : Nat) (cid : String) : Prop where
  phase : (s.conns c).phase = .frame
  authenticated : (s.conns c).state.authenticated = true
  clientId : (s.conns c).state.clientId = some cid

/-- Connection `c` stands in front of its next frame as it did in `s`, with the same watermark
against it. -/
structure Keeps (c : Nat) (s t : Server) : Prop where
  phase : (t.conns c).phase = .frame
  state : (t.conns c).state = { (s.conns c).state with unknownPacketCount := 0 }
  watermark : t.store.evictedWatermark = s.store.evictedWatermark

theorem Keeps.ready {s t : Server} (h : Keeps c s t) (hs : s.Ready c cid) : t.Ready c cid :=
  { phase := h.phase
    authenticated := by rw [h.state, hs.authenticated]
    clientId := by rw [h.state, hs.clientId] }

theorem Keeps.beside {s t : Server} (h : Keeps c s t) (hmid : ∀ a ∈ mid, Beside c a) :
    Keeps c s (Run.final (step lib) t mid) := by
  obtain ⟨hc, hw⟩ := final_beside lib (s := t) hmid
  exact { phase := by rw [hc, h.phase]
          state := by rw [hc, h.state]
          watermark := hw.trans h.watermark }

theorem Ready.keeps_refused {s : Server} (h : s.Ready c cid) (get : Get) (lib : Crates)
    (hlost : lostWatermark (s.conns c).state s.sessions s.store cid = some w) :
    Keeps c s (s.step lib (.receive c (.packet (.get (.ok get))) none)).1 := by
  rw [step_get_refused get lib none h.phase h.authenticated h.clientId hlost]
  constructor
  · rw [settle, setConn_conns_self]
    rfl
  · rw [settle, setConn_conns_self]
    rfl
  · rfl

theorem step_get_unauthenticated {s : Server} (get : Get) (lib : Crates)
    (hf : (s.conns c).phase = .frame) (hauth : (s.conns c).state.authenticated = false) :
    s.step lib (.receive c (.packet (.get (.ok get))) none) = s.settle c (Outcome.sendAckErr
      { state := (s.conns c).state, sessions := s.sessions } none "not authenticated") := by
  apply step_packet_done lib none hf
  exact if_pos (by rw [hauth]; rfl)

/-- Only a client that is logged in and whose cursor is below the watermark gets that answer. -/
theorem ready_of_refused {s : Server} {get : Get} (hinv : (s.conns c).Explained es)
    (h : (c, .ack (droppedAck start watermark)) ∈
      (s.step lib (.receive c (.packet (.get (.ok get))) none)).2) :
    ∃ cid w, s.Ready c cid ∧
      lostWatermark (s.conns c).state s.sessions s.store cid = some w := by
  cases hf : (s.conns c).phase with
  | get | answer | closed =>
    simp only [step, hf] at h
    cases h
  | frame =>
    cases hauth : (s.conns c).state.authenticated with
    | false =>
      rw [step_get_unauthenticated get lib hf hauth] at h
      have hm : droppedMessage start watermark = "not authenticated" := by
        simpa [settle, Outcome.sendAckErr, Outcome.send, Effect.ack, droppedAck] using h
      exact absurd hm (droppedMessage_ne start watermark)
    | true =>
      obtain ⟨cid, hcid⟩ := hinv.authenticated_iff.mp hauth
      cases hlost : lostWatermark (s.conns c).state s.sessions s.store cid with
      | some w => exact ⟨cid, w, ⟨hf, hauth, hcid⟩, hlost⟩
      | none =>
        rw [step_get_served get lib none hf hauth hcid hlost] at h
        cases h

/-- A Sub that is accepted is one of the identity of the connection; the session starts over,
without an ack, and the rest of the connection's state stays. -/
theorem Ready.step_sub {s : Server} {sub : Sub} (h : s.Ready c cid)
    (hsub : (c, .register sub.clientId fp) ∈
      (s.step lib (.receive c (.packet (.subscription (.ok sub))) none)).2) :
    sub.clientId = cid ∧
      s.step lib (.receive c (.packet (.subscription (.ok sub))) none) =
        ({ s with sessions := s.sessions.register lib cid sub.destination fp }.setConn c
          { state := { (s.conns c).state with unknownPacketCount := 0 }, phase := .frame },
          [(c, .register cid fp), (c, .ack {})]) := by
  have hid : cid = sub.clientId := by
    by_contra hne
    rw [step_sub_mismatch lib h.phase h.authenticated h.clientId hne, List.mem_singleton] at hsub
    cases hsub
  subst hid
  refine ⟨rfl, ?_⟩
  cases hfp : checkFilter lib sub.filter (s.sessions.blackList sub.clientId) with
  | ok fp' =>
    have hstep := step_sub_accepted lib h.phase h.authenticated h.clientId hfp
    rw [hstep] at hsub ⊢
    have he : fp = fp' := by simpa [Effect.ack] using hsub
    rw [he]
  | error message =>
    have hcheck := hfp
    rw [SessionManager.blackList] at hcheck
    rw [Server.step_sub lib h.phase h.authenticated, handleSub] at hsub
    simp only [h.clientId, Option.filter_some, ne_eq, not_true_eq_false, decide_false, hcheck]
      at hsub
    simp [settle, Outcome.sendAckErr, Outcome.send] at hsub

/-- A Get with everything its connection does until it has been answered: the call, its read, the
timer where the read finds nothing, and the answer. -/
def getRun (c : Nat) (get : Get) : List Action :=
  [.receive c (.packet (.get (.ok get))) none, .arm c, .check c, .timeout c, .answer c none]

theorem step_idle {s : Server} (h : (s.conns c).phase = .frame) (lib : Crates) :
    s.step lib (.arm c) = (s, []) ∧ s.step lib (.check c) = (s, []) ∧
      s.step lib (.timeout c) = (s, []) ∧ s.step lib (.answer c none) = (s, []) := by
  simp only [step, h, and_self]

theorem hand_sent_iff {s t : Server} (lib : Crates) (cid : String) (start : LogPosition)
    (events : Events) (hs : s = (t.hand c cid start events).1) :
    (∃ m, (c, .send (.messages m)) ∈ (s.step lib (.answer c none)).2) ↔
      ∀ e ∈ events.events, sessionPasses lib (t.sessions.get cid) e.fullName = true →
        e.entryType.Known := by
  have hp : (s.conns c).phase = .answer cid events := by
    rw [hs, hand, setConn_conns_self]
  have hsessions : s.sessions = t.sessions := by
    rw [hs]
    rfl
  rw [answer_sends_iff lib hp, toSend, hsessions]
  simp only [List.mem_filter, and_imp]

theorem armed_sent_iff {s : Server} (hp : (s.conns c).phase = .get cid call)
    (hst : call.stage = .armed false) (lib : Crates) :
    (∃ m, (c, .send (.messages m)) ∈
        Run.outputs (step lib) s [.check c, .timeout c, .answer c none]) ↔
      ∀ e ∈ s.page call, sessionPasses lib (s.sessions.get cid) e.fullName = true →
        e.entryType.Known := by
  have hshown : ∀ {start : LogPosition} {events : Events} {m : Proto.Messages}
      {os : List (Nat × Effect)}, (c, .send (.messages m)) ∈ (c, .getBatch start events) :: os ↔
        (c, .send (.messages m)) ∈ os := by
    simp
  by_cases hne : s.page call = []
  · -- the read finds nothing, and the timer ends the call with no event
    have hcheck : s.step lib (.check c) = (s.setStage c cid call (.waiting false), []) := by
      rw [step_armed lib hp hst, check_eq, if_pos hne]
    have htime : (s.setStage c cid call (.waiting false)).step lib (.timeout c) =
        (s.setStage c cid call (.waiting false)).hand c cid call.start (.new 0) := by
      simp only [step, setStage, setConn_conns_self]
    rw [Run.outputs, hcheck, Run.outputs, htime, List.nil_append, hne]
    simp only [hand, Run.outputs, List.append_nil, List.singleton_append, hshown]
    exact hand_sent_iff (t := s.setStage c cid call (.waiting false)) lib cid call.start (.new 0)
      rfl
  · have hcheck := step_armed lib hp hst
    rw [check_eq, if_neg hne] at hcheck
    have htime : (s.step lib (.check c)).1.step lib (.timeout c) =
        ((s.step lib (.check c)).1, []) := by
      rw [hcheck]
      simp only [step, hand, setConn_conns_self]
    rw [Run.outputs, Run.outputs, htime, List.nil_append, Run.outputs, Run.outputs, List.append_nil,
      hcheck]
    simp only [hand, List.singleton_append, hshown]
    exact hand_sent_iff lib cid call.start _ rfl

/-- A Get that is not refused is answered with Messages unless it finds an event of an unknown
type for its session. -/
theorem Ready.get_sent_iff {s : Server} (h : s.Ready c cid) (get : Get) (lib : Crates) :
    (∃ m, (c, .send (.messages m)) ∈ Run.outputs (step lib) s (getRun c get)) ↔
      lostWatermark (s.conns c).state s.sessions s.store cid = none ∧
      ∀ e ∈ s.page { start := getStart (s.conns c).state s.sessions cid
                     batchSize := get.batchSize },
        sessionPasses lib (s.sessions.get cid) e.fullName = true → e.entryType.Known := by
  cases hlost : lostWatermark (s.conns c).state s.sessions s.store cid with
  | some w =>
    have hstep := step_get_refused get lib none h.phase h.authenticated h.clientId hlost
    have hidle : ((s.step lib (.receive c (.packet (.get (.ok get))) none)).1.conns c).phase =
        .frame := by
      rw [hstep, settle, setConn_conns_self]
      rfl
    obtain ⟨harm, hcheck, htime, hanswer⟩ := step_idle hidle lib
    simp only [getRun, Run.outputs, harm, hcheck, htime, hanswer, List.append_nil]
    rw [hstep]
    simp [settle, Outcome.sendAckErr, Outcome.send]
  | none =>
    rw [getRun, Run.outputs, step_get_served get lib none h.phase h.authenticated h.clientId hlost,
      List.nil_append]
    generalize hcall : ({ start := getStart (s.conns c).state s.sessions cid
                          batchSize := get.batchSize } : GetBatch) = call
    have hstage : call.stage = .loopHead := by rw [← hcall]
    generalize ht : s.setConn c { state := { (s.conns c).state with unknownPacketCount := 0 }
                                  phase := .get cid call } = t
    have htp : (t.conns c).phase = .get cid call := by rw [← ht, setConn_conns_self]
    have harm := step_loopHead lib htp hstage
    have harmed : ((t.setStage c cid call (.armed false)).conns c).phase =
        .get cid { call with stage := .armed false } := by
      rw [setStage, setConn_conns_self]
    have hsent := armed_sent_iff harmed rfl lib
    rw [Run.outputs, harm, List.nil_append, hsent, ← ht]
    simp only [true_and]
    rfl

end Server

/-- A Get has been refused for dropped events, and the client has then sent a Sub that was
accepted; other connections may have moved in between and after it, but nothing was put. The next
Get is answered with Messages if and only if the connection had no position of its own when it was
refused, the ack that stands under its client id by then, if any, is not below the watermark, and
no event of the batch that passes the filter of the session is of an unknown type. -/
theorem recovered_iff (lib : Crates) (cap : Nat) (authToken : Option String) (d : Bool)
    (as mid mid' : List Action) (c : Nat) (get get' : Get) (start watermark : LogPosition)
    (sub : Sub) (fp : FilterPattern) :
    let after := Run.final (Server.step lib)
    let s := after (.new cap authToken d) as
    let s' := after s (.receive c (.packet (.get (.ok get))) none :: mid)
    let t := after s' (.receive c (.packet (.subscription (.ok sub))) none :: mid')
    (c, .ack (droppedAck start watermark)) ∈
      (s.step lib (.receive c (.packet (.get (.ok get))) none)).2 →
    (∀ a ∈ mid, Server.Beside c a) →
    (c, .register sub.clientId fp) ∈
      (s'.step lib (.receive c (.packet (.subscription (.ok sub))) none)).2 →
    (∀ a ∈ mid', Server.Beside c a) →
    ((∃ m, (c, .send (.messages m)) ∈
        Run.outputs (Server.step lib) t (Server.getRun c get')) ↔
      (s.conns c).state.currentPos = none ∧
      (∀ p, t.sessions.ack sub.clientId = some p → p.timestamp = none →
        t.store.evictedWatermark.filter p.lt = none) ∧
      ∀ e ∈ t.page { start := (t.sessions.ack sub.clientId).getD defaultStart
                     batchSize := get'.batchSize },
        sessionPasses lib (t.sessions.get sub.clientId) e.fullName = true →
          e.entryType.Known) := by
  intro after s s' t hrefused hmid hsub hmid'
  obtain ⟨cid, w, hready, hlost⟩ :=
    Server.ready_of_refused (Server.explained lib cap authToken d as c) hrefused
  -- the refused Get, the Sub and the others leave the connection and the watermark as they are
  have hs' : Server.Keeps c s s' := (hready.keeps_refused get lib hlost).beside hmid
  obtain ⟨hid, hstep⟩ := (hs'.ready hready).step_sub hsub
  have ht : Server.Keeps c s' t := by
    apply Server.Keeps.beside _ hmid'
    rw [hstep]
    constructor
    · rw [Server.setConn_conns_self]
    · rw [Server.setConn_conns_self]
    · rfl
  have hreadyt := ht.ready (hs'.ready hready)
  have hcur : (t.conns c).state.currentPos = (s.conns c).state.currentPos := by
    rw [ht.state, hs'.state]
  have hsame := ht.watermark.trans hs'.watermark
  rw [hreadyt.get_sent_iff get' lib, hid]
  cases hp : (s.conns c).state.currentPos with
  | some p =>
    -- the position that was refused is still the cursor
    have hcursor : ownCursor (t.conns c).state t.sessions cid =
        ownCursor (s.conns c).state s.sessions cid := by
      rw [ownCursor, ownCursor, hcur, hp, Option.some_or, Option.some_or]
    have hagain : lostWatermark (t.conns c).state t.sessions t.store cid ≠ none := by
      rw [ne_eq, lostWatermark_kept hcursor hsame, hlost]
      exact Option.some_ne_none w
    simp [hagain]
  | none =>
    have hown : ownCursor (t.conns c).state t.sessions cid = t.sessions.ack cid := by
      rw [ownCursor, hcur, hp, Option.none_or]
    rw [lostWatermark_eq_none_iff, getStart, hown]
    simp

/-- The Sub of a client that asks for every table. -/
def resubscribe (clientId : String) : Frame :=
  .packet (.subscription (.ok { destination := "example", clientId, filter := "" }))

/-- A client that has read one row, of a store that has meanwhile dropped the next one: the Sub is
accepted, and the Get after it is refused with the same words. -/
theorem refused_again :
    let step := Server.step .literal
    let s := Run.final step (.new 2 none false)
      [.receive 0 (.login "app" "" 0) none, .putBatch [storedEvent 100],
        .receive 0 (.fetch 10) none, .arm 0, .check 0, .answer 0 none,
        .putBatch [storedEvent 200, storedEvent 300, storedEvent 400]]
    let s' := (step s (.receive 0 (.fetch 10) none)).1
    let t := (step s' (.receive 0 (resubscribe "app") none)).1
    let refusal : Effect := .ack
      (droppedAck (.new "mysql-bin.000001" 100) (.new "mysql-bin.000001" 200))
    (step s (.receive 0 (.fetch 10) none)).2 = [(0, refusal)] ∧
      (step s' (.receive 0 (resubscribe "app") none)).2 =
        [(0, .register "app" { pattern := "", blackList := "" }), (0, .ack {})] ∧
      t.store.buffer = [storedEvent 300, storedEvent 400] ∧
      (step t (.receive 0 (.fetch 10) none)).2 = [(0, refusal)] := by
  decide

/-- A client without a position of its own is refused for an ack that another one of the same id
has left; the Sub clears it. -/
theorem recovered_iff_shared :
    let after := Run.final (Server.step .literal)
    let as : List Action :=
      [.receive 0 (.login "app" "" 0) none, .receive 1 (.login "app" "" 0) none,
        .putBatch [storedEvent 100], .receive 0 (.fetch 10) none, .arm 0, .check 0, .answer 0 none,
        .receive 0 (.ack 1) none, .putBatch [storedEvent 200, storedEvent 300, storedEvent 400]]
    let s := after (.new 2 none false) as
    let s' := after s [.receive 1 (.fetch 10) none]
    let t := after s' [.receive 1 (resubscribe "app") none]
    ∃ m, (1, .send (.messages m)) ∈
      Run.outputs (Server.step .literal) t (Server.getRun 1 { fetchSize := 10 }) := by
  intro after as s s' t
  have hnone : t.sessions.ack "app" = none := by decide
  have h := recovered_iff .literal 2 none false as [] [] 1 { fetchSize := 10 } { fetchSize := 10 }
    (.new "mysql-bin.000001" 100) (.new "mysql-bin.000001" 200)
    { destination := "example", clientId := "app", filter := "" }
    { pattern := "", blackList := "" } (by decide) (List.forall_mem_nil _) (by decide)
    (List.forall_mem_nil _)
  apply h.mpr
  refine ⟨by decide, ?_, by decide⟩
  intro p hp
  have hsome := hnone.symm.trans hp
  cases hsome

end Canal
