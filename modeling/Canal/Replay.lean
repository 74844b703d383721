import Canal.Answers
import Canal.BatchIds
import Canal.Resume

namespace Canal
set_option autoImplicit true

namespace Server

/-- A Get and the call it makes, with nothing in between. -/
def fetching (c : Nat) (n : Int32) : List Action :=
  [.receive c (.fetch n) none, .arm c, .check c, .answer c none]

/-- A Get that is taken back. -/
def replay (c : Nat) (n : Int32) : List Action := fetching c n ++ [.receive c .rollback none]

/-- The store hands out `k` ids. -/
def draw (s : Server) (k : Nat) : Server :=
  { s with store := { s.store with batchIdSeq := s.store.batchIdSeq + .ofNat k } }

/-- The call that a Get of connection `c` makes. -/
def callOf (s : Server) (c : Nat) (cid : String) (n : Int32) : GetBatch :=
  { start := getStart (s.conns c).state s.sessions cid
    batchSize := Get.batchSize { fetchSize := n } }

/-- A Get of connection `c` finds a page and can answer it. -/
structure Serves (lib : Crates) (s : Server) (c : Nat) (cid : String) (n : Int32) : Prop where
  phase : (s.conns c).phase = .frame
  authenticated : (s.conns c).state.authenticated = true
  clientId : (s.conns c).state.clientId = some cid
  kept : lostWatermark (s.conns c).state s.sessions s.store cid = none
  found : s.page (s.callOf c cid n) ≠ []
  answered : ∀ id, ∃ m, batchAnswer lib (s.sessions.get cid)
    (.withEvents (s.page (s.callOf c cid n)) id) = .ok m

variable {lib : Crates} {s : Server} {c : Nat} {cid : String} {n : Int32}

theorem step_fetch (h : s.Serves lib c cid n) :
    (s.step lib (.receive c (.fetch n) none)).1 = s.setConn c
      { state := { (s.conns c).state with unknownPacketCount := 0 }
        phase := .get cid (s.callOf c cid n) } := by
  have hp : handlePacket lib none s.authToken (s.conns c).state s.sessions s.store
      (.get (.ok { fetchSize := n })) =
      handleGet none { (s.conns c).state with unknownPacketCount := 0 } s.sessions s.store
        (.ok { fetchSize := n }) := if_neg (by rw [h.authenticated]; decide)
  rw [Frame.fetch, step_packet_call lib none h.phase
    (hp.trans (handleGet_served h.clientId h.kept))]
  rfl

theorem step_arm (hp : (s.conns c).phase = .get cid call) (hst : call.stage = .loopHead) :
    (s.step lib (.arm c)).1 = s.setStage c cid call (.armed false) := by
  rw [step_loopHead lib hp hst]

theorem step_check (hp : (s.conns c).phase = .get cid call) (hst : call.stage = .armed notified)
    (hne : s.page call ≠ []) :
    (s.step lib (.check c)).1 = (s.draw 1).setConn c
      { state := (s.conns c).state.served (.withEvents (s.page call) s.store.batchIdSeq)
        phase := .answer cid (.withEvents (s.page call) s.store.batchIdSeq) } := by
  rw [step_armed lib hp hst, check_eq, if_neg hne]
  rfl

theorem step_answer_ok (hp : (s.conns c).phase = .answer cid events)
    (hm : batchAnswer lib (s.sessions.get cid) events = .ok m) :
    (s.step lib (.answer c none)).1 = s.setConn c { state := (s.conns c).state } := by
  rw [step_answer_reply lib none hp, hm]
  rfl

@[simp] theorem setConn_conns_self (s : Server) (c : Nat) (conn : Connection) :
    (s.setConn c conn).conns c = conn := Function.update_self ..

@[simp] theorem setConn_setConn (s : Server) (c : Nat) (conn conn' : Connection) :
    (s.setConn c conn).setConn c conn' = s.setConn c conn' := by
  simp only [setConn, Function.update_idem]

theorem setConn_conns_of_ne (h : c' ≠ c) (s : Server) (conn : Connection) :
    (s.setConn c conn).conns c' = s.conns c' := Function.update_of_ne h ..

theorem setConn_self (s : Server) (c : Nat) : s.setConn c (s.conns c) = s := by
  rw [setConn, Function.update_eq_self]

theorem draw_zero (s : Server) : s.draw 0 = s := by
  rw [draw, show Int64.ofNat 0 = 0 from rfl, Int64.add_zero]

theorem draw_draw (s : Server) (j k : Nat) : (s.draw j).draw k = s.draw (j + k) := by
  simp only [draw, Int64.ofNat_add, Int64.add_assoc]

/-- What a served Get leaves of its connection. -/
def fetched (s : Server) (c : Nat) (cid : String) (n : Int32) : ClientState :=
  ClientState.served { (s.conns c).state with unknownPacketCount := 0 }
    (.withEvents (s.page (s.callOf c cid n)) s.store.batchIdSeq)

theorem final_fetching (h : s.Serves lib c cid n) :
    Run.final (step lib) s (fetching c n) =
      (s.draw 1).setConn c { state := s.fetched c cid n } := by
  obtain ⟨m, hm⟩ := h.answered s.store.batchIdSeq
  let known : ClientState := { (s.conns c).state with unknownPacketCount := 0 }
  let called := s.setConn c { state := known, phase := .get cid (s.callOf c cid n) }
  let armed := s.setConn c
    { state := known, phase := .get cid { s.callOf c cid n with stage := .armed false } }
  have harm : (called.step lib (.arm c)).1 = armed := by
    rw [step_arm (congrArg Connection.phase (setConn_conns_self ..)) rfl, setStage,
      setConn_conns_self, setConn_setConn]
  have hcheck : (armed.step lib (.check c)).1 = _ :=
    step_check (congrArg Connection.phase (setConn_conns_self ..)) rfl h.found
  rw [setConn_conns_self] at hcheck
  let handed := (armed.draw 1).setConn c
    { state := s.fetched c cid n
      phase := .answer cid (.withEvents (s.page (s.callOf c cid n)) s.store.batchIdSeq) }
  have hanswer : (handed.step lib (.answer c none)).1 = _ :=
    step_answer_ok (congrArg Connection.phase (setConn_conns_self ..)) hm
  rw [setConn_conns_self, setConn_setConn] at hanswer
  simp only [fetching, Run.final]
  rw [step_fetch h, harm, hcheck]
  exact hanswer.trans (setConn_setConn (s.draw 1) ..)

/-- What a served Get leaves of its connection once it is taken back. -/
def replayed (s : Server) (c : Nat) (cid : String) (n : Int32) : ClientState :=
  { s.fetched c cid n with currentPos := (s.conns c).state.lastAckPos }

theorem served_of_page_ne (st : ClientState) (hne : events ≠ []) (id : Int64) :
    st.served (.withEvents events id) =
      { st with
        currentPos := some (Events.withEvents events id).positionRange.stop
        lastGetBatchId := id
        lastGetEndPos := some (Events.withEvents events id).positionRange.stop } :=
  if_neg (by rw [Events.isEmpty, List.isEmpty_iff]; exact hne)

theorem final_replay (h : s.Serves lib c cid n) :
    Run.final (step lib) s (replay c n) = (s.draw 1).setConn c { state := s.replayed c cid n } := by
  have hst : s.fetched c cid n = _ := served_of_page_ne _ h.found _
  have hconn : ((s.draw 1).setConn c { state := s.fetched c cid n }).conns c =
      { state := s.fetched c cid n } := setConn_conns_self ..
  rw [replay, Run.final_concat, final_fetching h, step_rollback (by rw [hconn])
    (by rw [hconn, hst]; exact h.authenticated), hconn, setConn_setConn]
  simp only [replayed, hst]

theorem acked_fetching (h : s.Serves lib c cid n) (batchId : Int64) :
    let t := ((Run.final (step lib) s (fetching c n)).step lib (.receive c (.ack batchId) none)).1
    (t.conns c).state.clientId = some cid ∧
      (t.conns c).state.lastAckPos =
        if batchId = s.store.batchIdSeq then some (Events.withEvents (s.page (s.callOf c cid n))
          s.store.batchIdSeq).positionRange.stop
        else (s.conns c).state.lastAckPos := by
  have hst : s.fetched c cid n = _ := served_of_page_ne _ h.found _
  have hconn : ((s.draw 1).setConn c { state := s.fetched c cid n }).conns c =
      { state := s.fetched c cid n } := setConn_conns_self ..
  rw [final_fetching h, Frame.ack, step_ack (by rw [hconn])
    (by rw [hconn, hst]; exact h.authenticated), hconn, hst]
  simp only [settle, setConn, Function.update_self, handleClientAck, h.clientId]
  by_cases hid : batchId = s.store.batchIdSeq
  · rw [if_neg (not_not_intro hid), if_pos hid]
    exact ⟨rfl, rfl⟩
  · rw [if_pos hid, if_neg hid]
    exact ⟨rfl, rfl⟩

theorem getStart_of_eq {st st' : ClientState} (h : st'.currentPos = st.currentPos)
    (ss : SessionManager) (cid : String) : getStart st' ss cid = getStart st ss cid := by
  rw [getStart, getStart, ownCursor, ownCursor, h]

theorem page_of_eq {t : Server} (hcur : (t.conns c).state.currentPos = (s.conns c).state.currentPos)
    (hss : t.sessions = s.sessions) (hbuf : t.store.buffer = s.store.buffer) (cid : String)
    (n : Int32) : t.page (t.callOf c cid n) = s.page (s.callOf c cid n) := by
  rw [page, page, callOf, callOf, getStart_of_eq hcur, hss, hbuf]

/-- What a Get finds depends on the cursor and the session of its client and on the store alone. -/
theorem Serves.of_eq {t : Server} (h : s.Serves lib c cid n) (hphase : (t.conns c).phase = .frame)
    (hauth : (t.conns c).state.authenticated = true)
    (hcid : (t.conns c).state.clientId = some cid)
    (hcur : (t.conns c).state.currentPos = (s.conns c).state.currentPos)
    (hss : t.sessions = s.sessions) (hbuf : t.store.buffer = s.store.buffer)
    (hmark : t.store.evictedWatermark = s.store.evictedWatermark) : t.Serves lib c cid n where
  phase := hphase
  authenticated := hauth
  clientId := hcid
  kept := by
    have hlost : lostWatermark (t.conns c).state t.sessions t.store cid =
        lostWatermark (s.conns c).state s.sessions s.store cid := by
      simp only [lostWatermark, ownCursor, getStart_of_eq hcur, hcur, hss, hmark]
      rfl
    exact hlost.trans h.kept
  found := by
    rw [page_of_eq hcur hss hbuf]
    exact h.found
  answered := by
    rw [page_of_eq hcur hss hbuf, hss]
    exact h.answered

theorem mem_replays (h : a ∈ (List.replicate k (replay c n)).flatten) :
    a ∈ replay c n := by
  obtain ⟨l, hl, ha⟩ := List.mem_flatten.1 h
  rwa [List.eq_of_mem_replicate hl] at ha

/-- A client that takes its Gets back as often as it likes, from its acked position: each draws an
id, and nothing else of the server moves than its own state. -/
theorem final_replays (h : s.Serves lib c cid n)
    (hcur : (s.conns c).state.currentPos = (s.conns c).state.lastAckPos) (k : Nat) :
    ∃ st, st.clientId = some cid ∧
      Run.final (step lib) s (List.replicate k (replay c n)).flatten =
        (s.draw k).setConn c { state := st } := by
  induction k generalizing s with
  | zero =>
    refine ⟨(s.conns c).state, h.clientId, ?_⟩
    have hconn : ({ state := (s.conns c).state } : Connection) = s.conns c := by
      rw [← h.phase]
    rw [draw_zero, hconn, setConn_self]
    rfl
  | succ k ih =>
    have hst := served_of_page_ne { (s.conns c).state with unknownPacketCount := 0 } h.found
      s.store.batchIdSeq
    have hserves : ((s.draw 1).setConn c { state := s.replayed c cid n }).Serves lib c cid n := by
      apply h.of_eq
      · rw [setConn_conns_self]
      · rw [setConn_conns_self, replayed, fetched, hst]
        exact h.authenticated
      · rw [setConn_conns_self, replayed, fetched, hst]
        exact h.clientId
      · rw [setConn_conns_self]
        exact hcur.symm
      · rfl
      · rfl
      · rfl
    obtain ⟨st, hcid, hrun⟩ := ih hserves (by
      rw [setConn_conns_self, replayed, fetched, hst])
    refine ⟨st, hcid, ?_⟩
    rw [List.replicate_succ, List.flatten_cons, Run.final_append, final_replay h, hrun,
      Nat.add_comm k 1, ← draw_draw]
    exact setConn_setConn ((s.draw 1).draw k) ..

end Server

end Canal
