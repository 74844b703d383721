import Canal.LoopFrames

namespace Canal
set_option autoImplicit true

/-- `char::is_whitespace`. -/
def isWhitespace (c : Char) : Bool :=
  let n := c.toNat
  (9 ≤ n && n ≤ 13) || n = 0x20 || n = 0x85 || n = 0xA0 || n = 0x1680 ||
    (0x2000 ≤ n && n ≤ 0x200A) || n = 0x2028 || n = 0x2029 || n = 0x202F || n = 0x205F ||
    n = 0x3000

/-- The token in force after `CanalServer::with_auth`; one of which `trim` leaves nothing is
ignored. -/
def withAuth (token : String) : Option String :=
  if token.toList.all isWhitespace then none else some token

theorem passwordMatches_withAuth (h : withAuth token = some t) : passwordMatches t [] = false := by
  unfold withAuth at h
  split at h
  · cases h
  · rename_i hblank
    cases h
    rw [← Bool.not_eq_true, passwordMatches_iff]
    intro hnil
    apply hblank
    have hb : token.toByteArray.size = 0 := congrArg List.length hnil.symm
    have he : token = "" := by
      rw [← String.utf8ByteSize_eq_zero_iff]
      exact hb
    rw [he]
    rfl

theorem handleAuth_refused {token : String} (lib : Crates) (tx : Option CanalError)
    (auth : ClientAuth) (hauth : st.authenticated = false)
    (hpw : passwordMatches token auth.password = false) (ss : SessionManager) :
    (handleAuth lib tx (some token) st ss (.ok auth)).state.authenticated = false ∧
      ∀ e ∈ (handleAuth lib tx (some token) st ss (.ok auth)).effects,
        e = .send (.ack
          { errorCodePresent := some 1, errorMessage := "authentication failed" }) := by
  simp only [handleAuth, hauth, Bool.false_eq_true, ↓reduceIte, Option.any_some, hpw,
    Bool.not_false, Outcome.sendAckErr]
  cases tx with
  | some e => exact ⟨rfl, fun e he => absurd he List.not_mem_nil⟩
  | none =>
    simp only [Outcome.send]
    split <;> exact ⟨rfl, fun e he => List.mem_singleton.1 he⟩

def ClientTask.isBefore : ClientTask → Bool
  | .connecting | .authenticating | .stopped => true
  | _ => false

/-- The error answers to a password. -/
def Response.isRefusal : Response → Bool
  | .ack a => !a.errorMessage.isEmpty
  | .messages _ => false

namespace ClientServer

/-- A client in front of a server with a token: nobody has an identity, the client has sent its
authentication at most, and what comes back are refusals. -/
structure LockedOut (client : CanalClient) (token : String) (s : ClientServer) : Prop where
  authToken : s.server.authToken = some token
  unauthenticated : (s.server.conns 0).state.authenticated = false
  phase : (s.server.conns 0).phase.isGet = false
  task : s.task.isBefore = true
  toServer : ∀ frame ∈ s.toServer,
    frame = .packet (.clientAuthentication (.ok client.clientAuth))
  toClient : ∀ r ∈ s.toClient, r.isRefusal = true

variable {lib : WireCrates} {client : CanalClient} {token : String} {s : ClientServer}

theorem LockedOut.serve (h : LockedOut client token s)
    (hauth : ((s.server.step lib.toCrates a).1.conns 0).state.authenticated = false)
    (hphase : ((s.server.step lib.toCrates a).1.conns 0).phase.isGet = false)
    (hsends : ∀ e ∈ trace 0 (s.server.step lib.toCrates a).2,
      (∃ r, e = .send r ∧ r.isRefusal = true) ∨ ∃ cid, e = .unregister cid) :
    LockedOut client token (s.serve lib a).1 ∧ (s.serve lib a).2 = [] := by
  refine ⟨⟨?_, hauth, hphase, h.task, h.toServer, ?_⟩, ?_⟩
  · exact (s.server.step_authToken lib.toCrates a).trans h.authToken
  · intro r hr
    rcases List.mem_append.1 hr with hr | hr
    · exact h.toClient r hr
    · obtain ⟨e, he, her⟩ := List.mem_filterMap.1 hr
      rcases hsends e he with ⟨r', rfl, hr'⟩ | ⟨cid, rfl⟩
      · cases her
        exact hr'
      · cases her
  · simp only [ClientServer.serve, Server.takenUp_of_isGet h.phase, List.nil_append,
      List.filterMap_eq_nil_iff]
    intro e he
    rcases hsends e he with ⟨r, rfl, -⟩ | ⟨cid, rfl⟩ <;> rfl

theorem LockedOut.idle (h : LockedOut client token s)
    (hs : s.server.step lib.toCrates a = (s.server, [])) :
    LockedOut client token (s.serve lib a).1 ∧ (s.serve lib a).2 = [] := by
  apply h.serve
  · rw [hs]
    exact h.unauthenticated
  · rw [hs]
    exact h.phase
  · rw [hs]
    exact fun e he => nomatch he

theorem LockedOut.elsewhere (h : LockedOut client token s) (ha : a.actor ≠ some 0) :
    LockedOut client token (s.serve lib a).1 ∧ (s.serve lib a).2 = [] := by
  rcases s.server.step_conn lib.toCrates a 0 with ⟨-, htr, hc⟩ | ⟨hactor, -⟩
  · have hconn : ((s.server.step lib.toCrates a).1.conns 0) = s.server.conns 0 := by
      rcases hc with hc | hc
      · exact hc
      · rcases (s.server.conns 0).notify_phase with hp | ⟨cid, call, hp, -⟩
        · rw [hc, Connection.notify]
          have hphase := h.phase
          split
          · rename_i hget
            rw [hget] at hphase
            cases hphase
          · rfl
        · have hphase := h.phase
          rw [hp] at hphase
          cases hphase
    apply h.serve
    · rw [hconn]
      exact h.unauthenticated
    · rw [hconn]
      exact h.phase
    · rw [htr]
      exact fun e he => nomatch he
  · exact absurd hactor ha

theorem LockedOut.receive (h : LockedOut client token s) (hpw : passwordMatches token [] = false)
    (hp : (s.server.conns 0).phase = .frame) (hq : s.toServer = frame :: frames)
    (tx : Option CanalError) :
    let t : ClientServer := { s with toServer := frames }
    LockedOut client token (t.serve lib (.receive 0 frame tx)).1 ∧
      (t.serve lib (.receive 0 frame tx)).2 = [] := by
  intro t
  have ht : LockedOut client token t :=
    ⟨h.authToken, h.unauthenticated, h.phase, h.task,
      fun frame' hmem => h.toServer frame' (hq ▸ List.mem_cons_of_mem _ hmem), h.toClient⟩
  have hframe := h.toServer frame (hq ▸ List.mem_cons_self ..)
  obtain ⟨hstate, heff⟩ := handleAuth_refused lib.toCrates tx client.clientAuth
    h.unauthenticated hpw s.server.sessions
  have hs : s.server.step lib.toCrates (.receive 0 frame tx) = s.server.settle 0
      (handleAuth lib.toCrates tx (some token) (s.server.conns 0).state s.server.sessions
        (.ok client.clientAuth)) := by
    rw [hframe, ← h.authToken]
    exact Server.step_packet_done lib.toCrates tx hp rfl
  obtain ⟨phase, hphase, -, hsettle⟩ := s.server.settle_eq 0
    (handleAuth lib.toCrates tx (some token) (s.server.conns 0).state s.server.sessions
      (.ok client.clientAuth))
  rw [hsettle] at hs
  apply ht.serve
  · change ((s.server.step lib.toCrates (.receive 0 frame tx)).1.conns 0).state.authenticated = _
    rw [hs]
    simp only [Function.update_self]
    exact hstate
  · change ((s.server.step lib.toCrates (.receive 0 frame tx)).1.conns 0).phase.isGet = _
    rw [hs]
    simp only [Function.update_self]
    exact hphase
  · change ∀ e ∈ trace 0 (s.server.step lib.toCrates (.receive 0 frame tx)).2, _
    rw [hs]
    simp only [trace_own]
    intro e he
    exact .inl ⟨_, heff e he, rfl⟩

theorem LockedOut.lose (h : LockedOut client token s) (hf : frame.isLoss = true) :
    LockedOut client token (s.serve lib (.receive 0 frame none)).1 ∧
      (s.serve lib (.receive 0 frame none)).2 = [] := by
  cases hp : (s.server.conns 0).phase with
  | get | answer | closed =>
    apply h.idle
    apply Server.step_receive_idle
    rw [hp]
    exact fun hno => (by cases hno)
  | frame =>
    have hleave : ∀ (conn : Connection) (sessions : SessionManager) (es : List Effect),
        s.server.step lib.toCrates (.receive 0 frame none) =
          ({ s.server with sessions, conns := Function.update s.server.conns 0 conn },
            es.map (0, ·)) →
        conn.state = (s.server.conns 0).state → conn.phase.isGet = false →
        (∀ e ∈ es, ∃ cid, e = .unregister cid) →
        LockedOut client token (s.serve lib (.receive 0 frame none)).1 ∧
          (s.serve lib (.receive 0 frame none)).2 = [] := by
      intro conn sessions es hs hstate hphase hes
      apply h.serve
      · rw [hs]
        simp only [Function.update_self, hstate]
        exact h.unauthenticated
      · rw [hs]
        simp only [Function.update_self]
        exact hphase
      · rw [hs, trace_own]
        exact fun e he => .inr (hes e he)
    cases frame with
    | endOfStream | idleTimeout =>
      cases hc : (s.server.conns 0).state.clientId with
      | none =>
        apply hleave { s.server.conns 0 with phase := .closed (.ok ()) } s.server.sessions []
        · simp only [Server.step, hp, Server.receive, Server.leave, hc]
          rfl
        · rfl
        · rfl
        · exact fun e he => absurd he List.not_mem_nil
      | some cid =>
        apply hleave { s.server.conns 0 with phase := .closed (.ok ()) }
          (s.server.sessions.unregister cid) [.unregister cid]
        · simp only [Server.step, hp, Server.receive, Server.leave, hc]
          rfl
        · rfl
        · rfl
        · exact fun e he => ⟨cid, List.mem_singleton.1 he⟩
    | transportError e =>
      apply hleave { s.server.conns 0 with phase := .closed (.error e) } s.server.sessions []
      · simp only [Server.step, hp, Server.receive]
        rfl
      · rfl
      · rfl
      · exact fun e he => absurd he List.not_mem_nil
    | keepalive | undecodable | packet => cases hf

theorem LockedOut.call (h : LockedOut client token s) (ha : a.actor = some 0)
    (hr : ∀ frame tx, a ≠ .receive 0 frame tx) :
    LockedOut client token (s.serve lib a).1 ∧ (s.serve lib a).2 = [] := by
  apply h.idle
  have hphase := h.phase
  cases a with
  | putBatch events => cases ha
  | receive c frame tx =>
    cases ha
    exact absurd rfl (hr frame tx)
  | arm c | check c | wake c | timeout c =>
    cases ha
    refine Server.step_of_no_call (c := 0) (fun cid call hp => ?_) (by simp) lib.toCrates
    rw [hp] at hphase
    cases hphase
  | answer c tx =>
    cases ha
    apply Server.step_answer_idle
    intro cid events hp
    rw [hp] at hphase
    cases hphase

theorem lockedOut_step (hpw : passwordMatches token [] = false) (h : LockedOut client token s)
    (m : Move) : LockedOut client token (s.step lib client m).1 ∧ (s.step lib client m).2 = [] := by
  have hstop : LockedOut client token { s with task := .stopped } :=
    ⟨h.authToken, h.unauthenticated, h.phase, rfl, h.toServer, h.toClient⟩
  cases m with
  | elsewhere a =>
    simp only [step]
    split
    · exact ⟨h, rfl⟩
    · rename_i ha
      exact h.elsewhere ha
  | send ok =>
    have htask := h.task
    cases ht : s.task with
    | connecting =>
      simp only [step, ht, ClientTask.next]
      cases ok with
      | false => exact ⟨hstop, rfl⟩
      | true =>
        refine ⟨⟨h.authToken, h.unauthenticated, h.phase, rfl, ?_, h.toClient⟩, rfl⟩
        intro frame hf
        rcases List.mem_append.1 hf with hf | hf
        · exact h.toServer frame hf
        · exact List.mem_singleton.1 hf
    | authenticating | stopped =>
      simp only [step, ht, ClientTask.next]
      exact ⟨h, trivial⟩
    | connected | subscribing | polling | awaiting | forwarding =>
      rw [ht] at htask
      cases htask
  | place consumer =>
    have htask := h.task
    cases ht : s.task with
    | forwarding =>
      rw [ht] at htask
      cases htask
    | _ =>
      simp only [step, ht]
      exact ⟨h, trivial⟩
  | read ok =>
    simp only [step]
    split
    · rename_i hr
      split
      · split
        · rename_i r rs hq
          refine ⟨⟨h.authToken, h.unauthenticated, h.phase, ?_, h.toServer,
            fun r' hr' => h.toClient r' (hq ▸ List.mem_cons_of_mem _ hr')⟩, rfl⟩
          have hrefusal := h.toClient r (hq ▸ List.mem_cons_self ..)
          have htask := h.task
          cases ht : s.task with
          | authenticating =>
            cases r with
            | ack a =>
              rw [Response.isRefusal, Bool.not_eq_true'] at hrefusal
              simp only [ClientTask.got, hrefusal, Bool.false_eq_true, ↓reduceIte]
              rfl
            | messages m => cases hrefusal
          | connecting | stopped =>
            rw [ht] at hr
            cases hr
          | connected | subscribing | polling | awaiting | forwarding =>
            rw [ht] at htask
            cases htask
        · exact ⟨h, rfl⟩
      · exact ⟨hstop, rfl⟩
    · exact ⟨h, rfl⟩
  | abort => exact ⟨hstop, rfl⟩
  | receive tx =>
    simp only [step]
    split
    · rename_i frame frames hq hp
      exact h.receive hpw hp hq tx
    · exact ⟨h, rfl⟩
  | lose frame =>
    simp only [step]
    split
    · rename_i hf
      exact h.lose hf
    · exact ⟨h, rfl⟩
  | arm => exact h.call rfl fun _ _ => Action.noConfusion
  | check => exact h.call rfl fun _ _ => Action.noConfusion
  | wake => exact h.call rfl fun _ _ => Action.noConfusion
  | timeout => exact h.call rfl fun _ _ => Action.noConfusion
  | answer tx => exact h.call rfl fun _ _ => Action.noConfusion

theorem lockedOut_run (hpw : passwordMatches token [] = false) (cap : Nat) (d : Bool)
    (ms : List Move) :
    LockedOut client token (Run.final (step lib client) (.new cap (some token) d) ms) ∧
      Run.outputs (step lib client) (.new cap (some token) d) ms = [] := by
  apply Run.history_invariant (step lib client) (.new cap (some token) d)
    (I := fun _ notes s => LockedOut client token s ∧ notes = [])
  · exact ⟨⟨rfl, rfl, rfl, rfl, (fun _ h => nomatch h), (fun _ h => nomatch h)⟩, rfl⟩
  · intro as os s m h
    obtain ⟨h', hn⟩ := @lockedOut_step lib client _ _ hpw h.1 m
    exact ⟨h', by rw [h.2, hn]; rfl⟩

end ClientServer

/-- Against a server with a token `CanalClient` never gets past its handshake: in every run on
bytes it is not authenticated, it does not come to poll, and nothing is read for it, placed on the
channel of its consumer or acked. -/
theorem ByteLoop.locked_out {lib : PeerCrates} (hlib : lib.Lawful) (client : CanalClient)
    (cap : Nat) (token : String) (d : Bool) (hauth : withAuth token = some t)
    (ms : List ByteMove)
    (hfit : Run.Along (step lib client) (fun _ s m => s.Fits lib client m)
      (.new cap (withAuth token) d) ms) :
    let after := Run.final (step lib client) (.new cap (withAuth token) d) ms
    (after.task = .connecting ∨ after.task = .authenticating ∨ after.task = .stopped) ∧
      (after.host.server.conns 0).state.authenticated = false ∧
      Run.outputs (step lib client) (.new cap (withAuth token) d) ms = [] := by
  intro after
  have hstart : Simulates lib (.new cap (withAuth token) d) (.new cap (withAuth token) d) :=
    ⟨rfl, rfl, .inr ⟨[], [], rfl, rfl, fun _ => rfl, fun _ h => nomatch h⟩,
      .inr ⟨rfl, fun _ h => nomatch h⟩⟩
  obtain ⟨moves, hs, ho⟩ := hfit.simulated hstart fun _ s t m h hm => simulates_step hlib h m hm
  obtain ⟨h, hnotes⟩ := @ClientServer.lockedOut_run lib.toWireCrates client _
    (passwordMatches_withAuth hauth) cap d moves
  rw [← hauth] at h hnotes
  refine ⟨?_, ?_, ho.trans hnotes⟩
  · have hbefore := h.task
    rw [show after.task = _ from hs.task]
    cases ht : (Run.final (ClientServer.step lib.toWireCrates client)
      (.new cap (withAuth token) d) moves).task with
    | connecting => exact .inl rfl
    | authenticating => exact .inr (.inl rfl)
    | stopped => exact .inr (.inr rfl)
    | connected | subscribing | polling | awaiting | forwarding =>
      rw [ht] at hbefore
      cases hbefore
  · rw [show after.host.server = _ from hs.server]
    exact h.unauthenticated

/-- A client that is refused and reads the refusal. -/
def ByteLoop.refusedRun : List ByteMove :=
  [.send true, .deliver 6, .deliver 100, .host (.next 0 none), .read true]

theorem ByteLoop.locked_out_refused :
    Run.outputs (step .protobuf { clientId := 1001 }) (.new 8 (withAuth "secret") true)
      refusedRun = [] := by
  refine (locked_out PeerCrates.protobuf_lawful { clientId := 1001 } 8 "secret" true
    (t := "secret") rfl refusedRun ?_).2.2
  intro pre m post he
  have hcheck : Run.check (step .protobuf { clientId := 1001 })
      (fun _ s m => decide (s.Fits .protobuf { clientId := 1001 } m)) []
      (.new 8 (withAuth "secret") true) refusedRun = true := by decide +kernel
  exact of_decide_eq_true (Run.Along.of_check hcheck pre m post he)

example : (Run.final (ByteLoop.step .protobuf { clientId := 1001 })
    (.new 8 (withAuth "secret") true) ByteLoop.refusedRun).task matches .stopped := by
  decide +kernel

end Canal
