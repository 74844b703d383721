import Canal.Turns

namespace Canal
set_option autoImplicit true

namespace Server

variable {s : Server}

theorem moved_idle (hw : s.refuses c a = false) : s.Moved lib c a (s, []) :=
  ⟨_, _, _, _, .idle hw, by simp⟩

theorem settle_eq (s : Server) (c : Nat) (o : Outcome) :
    ∃ phase : Phase, phase.isGet = false ∧
      (∀ e, o.result = .error e → phase = .closed (.error e)) ∧
      s.settle c o = ({ s with
        sessions := o.sessions
        conns := Function.update s.conns c { state := o.state, phase } },
        o.effects.map (c, ·)) := by
  cases hr : o.result with
  | ok u => exact ⟨.frame, rfl, by simp, by simp only [settle, setConn, hr]⟩
  | error e => exact ⟨.closed (.error e), rfl, by simp, by simp only [settle, setConn, hr]⟩

theorem moved_quiet (h : (s.conns c).phase = .frame)
    (hw : s.refuses c (.receive c frame tx) = false) (unknown : Nat) (acks : List Proto.Ack)
    (result : Except CanalError Unit) :
    s.Moved lib c (.receive c frame tx) (s.settle c
      { state := { (s.conns c).state with unknownPacketCount := unknown }, sessions := s.sessions,
        effects := acks.map Effect.ack, result }) := by
  obtain ⟨phase, hp, -, he⟩ := s.settle_eq c
    { state := { (s.conns c).state with unknownPacketCount := unknown }, sessions := s.sessions,
      effects := acks.map Effect.ack, result }
  exact ⟨_, _, _, _, .quiet h hw hp unknown acks, he⟩

theorem moved_answer (h : (s.conns c).phase = .frame)
    (hw : s.refuses c (.receive c frame tx) = false) (unknown : Nat) (tx' : Option CanalError)
    (ack : Proto.Ack) :
    s.Moved lib c (.receive c frame tx) (s.settle c (Outcome.send
      { state := { (s.conns c).state with unknownPacketCount := unknown }, sessions := s.sessions }
      tx' (.ack ack))) := by
  obtain ⟨acks, result, he⟩ := Outcome.send_ack
    { state := { (s.conns c).state with unknownPacketCount := unknown }, sessions := s.sessions }
    tx' ack
  rw [he, List.nil_append]
  exact moved_quiet h hw unknown acks result

theorem refuses_of_ne (h : ∀ c' auth tx,
      a ≠ .receive c' (.packet (.clientAuthentication (.ok auth))) tx) :
    s.refuses c a = false := by
  unfold refuses
  split
  · exact absurd rfl (h _ _ _)
  · rfl

theorem moved_auth (h : (s.conns c).phase = .frame) (body : Decoded ClientAuth) :
    s.Moved lib c (.receive c (.packet (.clientAuthentication body)) tx)
      (s.settle c (handleAuth lib tx s.authToken (s.conns c).state s.sessions body)) := by
  cases body with
  | error e =>
    exact moved_quiet h rfl (s.conns c).state.unknownPacketCount [] _
  | ok auth =>
    unfold handleAuth
    simp only
    split
    · rename_i hauth
      apply moved_answer h _ (s.conns c).state.unknownPacketCount
      simp only [refuses, h, hauth, Bool.not_true, Bool.and_false, Bool.false_and]
    rename_i hauth
    rw [Bool.not_eq_true] at hauth
    split
    · rename_i hpw
      have hw : s.refuses c (.receive c (.packet (.clientAuthentication (.ok auth))) tx) =
          true := by
        simp only [refuses, h, hauth, refuses_password, hpw, beq_self_eq_true, Bool.not_false,
          Bool.and_true]
      obtain ⟨acks, result, he⟩ := Outcome.send_ack
        { state := { (s.conns c).state with
            authErrorCount := (s.conns c).state.authErrorCount + 1 }, sessions := s.sessions } tx
        { errorCodePresent := some 1, errorMessage := "authentication failed" }
      simp only [Outcome.sendAckErr, he, List.nil_append]
      cases result with
      | error e =>
        obtain ⟨phase, hp, hc, hs⟩ := s.settle_eq c
          { state := { (s.conns c).state with
              authErrorCount := (s.conns c).state.authErrorCount + 1 }, sessions := s.sessions,
            effects := acks.map Effect.ack, result := .error e }
        exact ⟨_, _, _, _, .refused h hw hp (fun _ => ⟨_, hc e rfl⟩) acks, hs⟩
      | ok u =>
        simp only
        split
        · obtain ⟨phase, hp, hc, hs⟩ := s.settle_eq c
            { state := { (s.conns c).state with
                authErrorCount := (s.conns c).state.authErrorCount + 1 }, sessions := s.sessions,
              effects := acks.map Effect.ack, result := .error (.authFailed "too many failures") }
          exact ⟨_, _, _, _, .refused h hw hp (fun _ => ⟨_, hc _ rfl⟩) acks, hs⟩
        · rename_i h3
          obtain ⟨phase, hp, -, hs⟩ := s.settle_eq c
            { state := { (s.conns c).state with
                authErrorCount := (s.conns c).state.authErrorCount + 1 }, sessions := s.sessions,
              effects := acks.map Effect.ack, result := .ok u }
          exact ⟨_, _, _, _, .refused h hw hp (fun h3' => absurd h3' h3) acks, hs⟩
    · rename_i hpw
      rw [Bool.not_eq_true] at hpw
      cases hf : auth.acceptedFilter lib with
      | error message =>
        apply moved_answer h _ (s.conns c).state.unknownPacketCount
        simp only [refuses, h, hauth, refuses_password, hpw, Bool.and_false]
      | ok filter =>
        simp only [Outcome.sendAckOk]
        obtain ⟨acks, result, he⟩ := Outcome.send_ack
          { state := { (s.conns c).state with
              authenticated := true
              clientId := some auth.effectiveId
              currentPos := if 0 < auth.startTimestamp then
                some (timestampCursor auth.startTimestamp) else (s.conns c).state.currentPos }
            sessions := s.sessions.register lib auth.effectiveId auth.destination filter
            effects := [.authenticate auth, .register auth.effectiveId filter] } tx {}
        rw [he]
        obtain ⟨phase, hp, -, hs⟩ := s.settle_eq c
          { state := { (s.conns c).state with
              authenticated := true
              clientId := some auth.effectiveId
              currentPos := if 0 < auth.startTimestamp then
                some (timestampCursor auth.startTimestamp) else (s.conns c).state.currentPos }
            sessions := s.sessions.register lib auth.effectiveId auth.destination filter
            effects := [.authenticate auth, .register auth.effectiveId filter] ++
              acks.map Effect.ack, result }
        exact ⟨_, _, _, _, .authenticated h hauth hpw hf hp acks, hs⟩

theorem moved_sub (h : (s.conns c).phase = .frame)
    (hauth : (s.conns c).state.authenticated = true) (body : Decoded Sub) :
    s.Moved lib c (.receive c (.packet (.subscription body)) tx)
      (s.settle c (handleSub lib tx { (s.conns c).state with unknownPacketCount := 0 }
        s.sessions body)) := by
  cases body with
  | error e => exact moved_quiet h rfl 0 [] _
  | ok sub =>
    unfold handleSub
    simp only
    split
    · exact moved_answer h rfl 0 tx _
    rename_i hid
    cases hf : checkFilter lib sub.filter
        (((s.sessions.get sub.clientId).map fun s => s.filter.blackList).getD "") with
    | error message => exact moved_answer h rfl 0 tx _
    | ok filter =>
      have hid' : (s.conns c).state.clientId = none ∨
          (s.conns c).state.clientId = some sub.clientId := by
        cases hc : (s.conns c).state.clientId with
        | none => exact .inl rfl
        | some cid =>
          rw [hc, Option.filter_eq_none_iff] at hid
          simpa using hid cid rfl
      simp only [Outcome.sendAckOk]
      obtain ⟨acks, result, he⟩ := Outcome.send_ack
        { state := { (s.conns c).state with
            unknownPacketCount := 0, clientId := some sub.clientId }
          sessions := s.sessions.register lib sub.clientId sub.destination filter
          effects := [.register sub.clientId filter] } tx {}
      rw [he]
      obtain ⟨phase, hp, -, hs⟩ := s.settle_eq c
        { state := { (s.conns c).state with
            unknownPacketCount := 0, clientId := some sub.clientId }
          sessions := s.sessions.register lib sub.clientId sub.destination filter
          effects := [.register sub.clientId filter] ++ acks.map Effect.ack, result }
      exact ⟨_, _, _, _, .subscribed h hauth hid' hf hp acks, hs⟩

theorem moved_ack (h : (s.conns c).phase = .frame)
    (hauth : (s.conns c).state.authenticated = true) (body : Decoded ClientAck) :
    s.Moved lib c (.receive c (.packet (.clientAck body)) tx)
      (s.settle c (handleClientAck { (s.conns c).state with unknownPacketCount := 0 }
        s.sessions body)) := by
  unfold handleClientAck
  split
  · rename_i ack cid pos hcid hpos
    split
    · exact moved_quiet h rfl 0 [] _
    · rename_i hid
      exact ⟨_, _, _, _, .acked h hauth hcid hpos (not_not.1 hid), rfl⟩
  · exact moved_quiet h rfl 0 [] _

theorem moved_rollback (h : (s.conns c).phase = .frame)
    (hauth : (s.conns c).state.authenticated = true) (body : Decoded Unit) :
    s.Moved lib c (.receive c (.packet (.clientRollback body)) tx)
      (s.settle c (handleClientRollback { (s.conns c).state with unknownPacketCount := 0 }
        s.sessions body)) := by
  cases body with
  | error e => exact moved_quiet h rfl 0 [] _
  | ok u => exact ⟨_, _, _, _, .rolledBack h hauth, rfl⟩

theorem moved_leave (h : (s.conns c).phase = .frame)
    (hf : frame = .endOfStream ∨ frame = .idleTimeout) :
    s.Moved lib c (.receive c frame tx) (s.leave c) := by
  have hw : s.refuses c (.receive c frame tx) = false := by
    apply refuses_of_ne
    intro c' auth tx' he
    cases he
    cases hf <;> contradiction
  unfold leave
  simp only
  split
  · rename_i cid hcid
    exact ⟨_, _, _, _, .left h hcid hf, rfl⟩
  · exact ⟨_, _, _, _, .quiet h hw (rfl : (Phase.closed (.ok ())).isGet = false) _ [], rfl⟩

theorem moved_done (hp : handlePacket lib tx s.authToken (s.conns c).state s.sessions s.store p =
    .done o) (h : s.Moved lib c (.receive c (.packet p) tx) (s.settle c o)) :
    s.Moved lib c (.receive c (.packet p) tx) (s.receive lib c (.packet p) tx) := by
  simpa only [receive, hp] using h

theorem moved_get (h : (s.conns c).phase = .frame)
    (hauth : (s.conns c).state.authenticated = true) (body : Decoded Get) :
    s.Moved lib c (.receive c (.packet (.get body)) tx)
      (s.receive lib c (.packet (.get body)) tx) := by
  have hn : ¬ (!(s.conns c).state.authenticated) = true := by rw [hauth]; decide
  have hp : handlePacket lib tx s.authToken (s.conns c).state s.sessions s.store (.get body) =
      handleGet tx { (s.conns c).state with unknownPacketCount := 0 } s.sessions s.store body :=
    if_neg hn
  cases body with
  | error e =>
    exact moved_done hp (moved_quiet h rfl 0 [] _)
  | ok get =>
    cases hcid : (s.conns c).state.clientId with
    | none =>
      exact moved_done (hp.trans (handleGet_missing hcid)) (moved_quiet h rfl 0 [] _)
    | some cid =>
      cases hlost : lostWatermark (s.conns c).state s.sessions s.store cid with
      | some watermark =>
        exact moved_done (hp.trans (handleGet_refused hcid hlost)) (moved_answer h rfl 0 tx _)
      | none =>
        have he := hp.trans (handleGet_served hcid hlost)
        refine ⟨_, _, _, _, .awaiting h hauth hcid hlost, ?_⟩
        simp only [receive, he]
        rfl

theorem moved_packet (h : (s.conns c).phase = .frame)
    (hauth : (s.conns c).state.authenticated = true) (hp : ∀ body, p ≠ .clientAuthentication body) :
    s.Moved lib c (.receive c (.packet p) tx) (s.receive lib c (.packet p) tx) := by
  have hn : ¬ (!(s.conns c).state.authenticated) = true := by rw [hauth]; decide
  cases p with
  | clientAuthentication body => exact absurd rfl (hp body)
  | subscription body =>
    exact moved_done (if_neg hn) (moved_sub h hauth body)
  | get body => exact moved_get h hauth body
  | clientAck body =>
    exact moved_done (if_neg hn) (moved_ack h hauth body)
  | clientRollback body =>
    exact moved_done (if_neg hn) (moved_rollback h hauth body)
  | heartbeat =>
    exact moved_done (if_neg hn) (moved_answer h rfl 0 tx _)
  | unknown type =>
    by_cases h10 : 10 ≤ (s.conns c).state.unknownPacketCount + 1
    · exact moved_done ((if_neg hn).trans (if_pos h10)) (moved_quiet h rfl _ [] _)
    · exact moved_done ((if_neg hn).trans (if_neg h10)) (moved_quiet h rfl _ [] _)

theorem moved_receive (h : (s.conns c).phase = .frame) (frame : Frame) :
    s.Moved lib c (.receive c frame tx) (s.receive lib c frame tx) := by
  cases frame with
  | endOfStream => exact moved_leave h (.inl rfl)
  | idleTimeout => exact moved_leave h (.inr rfl)
  | transportError e => exact ⟨_, _, _, _, .quiet h rfl rfl _ [], rfl⟩
  | keepalive => exact moved_idle rfl
  | undecodable message => exact ⟨_, _, _, _, .quiet h rfl rfl _ [], rfl⟩
  | packet p =>
    by_cases hp : ∃ body, p = .clientAuthentication body
    · obtain ⟨body, rfl⟩ := hp
      exact moved_auth h body
    have hp' : ∀ body, p ≠ .clientAuthentication body := fun body he => hp ⟨body, he⟩
    cases hauth : (s.conns c).state.authenticated with
    | true => exact moved_packet h hauth hp'
    | false =>
      apply moved_done (handlePacket_unauthenticated hauth hp' ..)
      apply moved_answer h _ (s.conns c).state.unknownPacketCount
      apply refuses_of_ne
      intro c' auth tx' he
      cases he
      exact hp' _ rfl

theorem moved_check (h : (s.conns c).phase = .get cid call) (notified : Bool) :
    s.Moved lib c (.check c) (s.check c cid call notified) := by
  have hr := s.store.lockedRead_eq call.start call.batchSize
  unfold check
  split at hr
  · rw [hr]
    exact ⟨_, _, _, _, .stage h rfl (.waiting notified), rfl⟩
  · rename_i hne
    have hread : KeyedLog.page CanalEvent.key (max call.batchSize 1)
        (call.start.readable s.store.buffer) ≠ [] := KeyedLog.page_ne_nil (by omega) hne
    have hpage : (Events.withEvents (KeyedLog.page CanalEvent.key (max call.batchSize 1)
        (call.start.readable s.store.buffer)) s.store.batchIdSeq).isEmpty = false := by
      simpa [Events.isEmpty, Events.withEvents] using hread
    have hstate := (s.conns c).state.served_of_nonempty hpage
    rw [hr]
    simp only [hand, hstate]
    exact ⟨_, _, _, _, .served h hr hpage, rfl⟩

theorem moved_answered (h : (s.conns c).phase = .answer cid events) :
    s.Moved lib c (.answer c tx)
      (s.settle c (answerGet lib tx (s.conns c).state s.sessions cid events)) := by
  obtain ⟨sent, result, hs, he⟩ := answerGet_eq lib tx (s.conns c).state s.sessions cid events
  rw [he]
  obtain ⟨phase, hp, -, hq⟩ := s.settle_eq c
    { state := (s.conns c).state, sessions := s.sessions,
      effects := sent.map Effect.messages, result }
  exact ⟨_, _, _, _, .answered h hp sent hs, hq⟩

theorem step_cases (lib : Crates) (s : Server) (a : Action) :
    (∃ events, a = .putBatch events ∧
      s.step lib a = ({ s with
        store := (s.store.putBatch s.debugAssertions events).store
        conns := if (s.store.putBatch s.debugAssertions events).notified then
          fun c => (s.conns c).notify else s.conns }, [])) ∨
    ∃ c, a.actor = some c ∧ s.Moved lib c a (s.step lib a) := by
  cases a with
  | putBatch events => exact .inl ⟨events, rfl, rfl⟩
  | receive c frame tx =>
    refine .inr ⟨c, rfl, ?_⟩
    unfold step
    simp only
    split
    · rename_i h
      exact moved_receive h frame
    · rename_i h
      apply moved_idle
      unfold refuses
      split
      · rename_i he
        cases he
        split
        · rename_i h'
          exact absurd h' h
        · rfl
      · rfl
  | arm c =>
    refine .inr ⟨c, rfl, ?_⟩
    unfold step
    simp only
    split
    · rename_i cid call h
      split
      · exact ⟨_, _, _, _, .stage h rfl (.armed false), rfl⟩
      · exact moved_idle rfl
    · exact moved_idle rfl
  | check c =>
    refine .inr ⟨c, rfl, ?_⟩
    unfold step
    simp only
    split
    · rename_i cid call h
      split
      · exact moved_check h _
      · exact moved_idle rfl
    · exact moved_idle rfl
  | wake c =>
    refine .inr ⟨c, rfl, ?_⟩
    unfold step
    simp only
    split
    · rename_i cid call h
      split
      · exact ⟨_, _, _, _, .stage h rfl .loopHead, rfl⟩
      · exact moved_idle rfl
    · exact moved_idle rfl
  | timeout c =>
    refine .inr ⟨c, rfl, ?_⟩
    unfold step
    simp only
    split
    · rename_i cid call h
      split
      · exact ⟨_, _, _, _, .timedOut h, rfl⟩
      · exact moved_idle rfl
    · exact moved_idle rfl
  | answer c tx =>
    refine .inr ⟨c, rfl, ?_⟩
    unfold step
    simp only
    split
    · rename_i cid events h
      exact moved_answered h
    · exact moved_idle rfl

end Server

end Canal
