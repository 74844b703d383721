import Canal.Feed

namespace Canal
set_option autoImplicit true

open KeyedLog

theorem lockedRead_past {start : LogPosition} {s : MemoryEventStore}
    (hasc : Ascending CanalEvent.key s.buffer) (hpos : start.timestamp = none)
    (h : s.lockedRead start n = (store, some events)) :
    start.key < events.positionRange.stop.key := by
  obtain ⟨-, hpage, e, he, hstop⟩ := lockedRead_some h
  rw [LogPosition.readable_positional hpos hasc] at hpage
  have hmem := (page_isPrefix _ _).sublist.mem (hpage ▸ List.mem_of_getLast? he)
  rw [hstop]
  exact (mem_after.1 hmem).2

/-- Connection `c` acks its outstanding batch only while its cursor still stands at the end of this
batch, that is, while the batch has not been rolled back. -/
def Server.AcksCurrent (s : Server) (c : Nat) (a : Action) : Prop :=
  ∀ id tx pos, a = .receive c (.ack id) tx → id = (s.conns c).state.lastGetBatchId →
    (s.conns c).state.lastGetEndPos = some pos → (s.conns c).state.currentPos = some pos

/-- Neither the cursor nor a running read is behind the ack position. -/
structure Connection.AcksBehind (conn : Connection) : Prop where
  cursor : ∀ p, conn.state.lastAckPos = some p →
    ∃ q, conn.state.currentPos = some q ∧ q.timestamp = none ∧ p.key ≤ q.key
  call : ∀ cid call, conn.phase = .get cid call → ∀ p, conn.state.lastAckPos = some p →
    call.start.timestamp = none ∧ p.key ≤ call.start.key

namespace Connection.AcksBehind

variable {conn conn' : Connection}

theorem frame (h : AcksBehind conn) (hk : conn'.state.lastAckPos = conn.state.lastAckPos)
    (hc : conn'.state.currentPos = conn.state.currentPos)
    (hp : ∀ cid call, conn'.phase ≠ .get cid call) : AcksBehind conn' where
  cursor := by
    rw [hk, hc]
    exact h.cursor
  call _ _ hg := absurd hg (hp _ _)

theorem notify (h : AcksBehind conn) : AcksBehind conn.notify where
  cursor := conn.notify_state ▸ h.cursor
  call cid call hg p hp := by
    rw [conn.notify_state] at hp
    obtain ⟨call', hg', hs⟩ := notify_get hg
    rw [hs]
    exact h.call cid call' hg' p hp

theorem turn (h : AcksBehind (s.conns c)) (hx : (s.conns c).Explained es)
    (hps : (s.conns c).Positions es) (hasc : Ascending CanalEvent.key s.store.buffer)
    (hcur : s.AcksCurrent c a) (ht : Turn lib s c a conn ss store es') :
    AcksBehind conn ∧ ∀ p, (s.conns c).state.lastAckPos = some p →
      ∃ q, conn.state.lastAckPos = some q ∧ p.key ≤ q.key := by
  have same : ∀ p, (s.conns c).state.lastAckPos = some p →
      ∃ q, (s.conns c).state.lastAckPos = some q ∧ p.key ≤ q.key := fun p hp => ⟨p, hp, le_rfl⟩
  cases ht with
  | idle => exact ⟨h, same⟩
  | stage hg => exact ⟨⟨h.cursor, fun _ _ hg' p hp => by cases hg'; exact h.call _ _ hg p hp⟩, same⟩
  | quiet hf hw hp | refused hf hw hp | subscribed hf hauth hid hfilter hp | answered hg hp =>
    exact ⟨h.frame rfl rfl fun _ _ => Phase.ne_get hp, same⟩
  | timedOut | left => exact ⟨h.frame rfl rfl fun _ _ hg => (by cases hg), same⟩
  | authenticated hf hauth hpw hfilter hp acks =>
    have hnone := hx.ackPos_none hauth
    exact ⟨⟨fun p hp => absurd (hnone.symm.trans hp) nofun,
      fun _ _ hg => absurd hg (Phase.ne_get hp)⟩, same⟩
  | acked hf hauth hcid hpos hid =>
    rename_i pos tx ack
    have hcurrent := hcur ack.batchId tx pos rfl hid hpos
    have hts : pos.timestamp = none := by
      rw [hx.endPos, Option.map_eq_some_iff] at hpos
      obtain ⟨b, hb, rfl⟩ := hpos
      exact hps.stop_positional (List.mem_of_getLast? hb)
    refine ⟨⟨?_, nofun⟩, fun p hp => ?_⟩
    · rintro p ⟨⟩
      exact ⟨pos, hcurrent, hts, le_rfl⟩
    · obtain ⟨q, hq, -, hle⟩ := h.cursor p hp
      rw [hcurrent] at hq
      cases hq
      exact ⟨pos, rfl, hle⟩
  | rolledBack hf hauth =>
    refine ⟨⟨fun p hp => ⟨p, hp, ?_, le_rfl⟩, nofun⟩, same⟩
    exact hps.ack_positional (List.mem_of_getLast? (hx.ackPos.symm.trans hp))
  | awaiting hf hauth hcid hlost =>
    refine ⟨⟨h.cursor, ?_⟩, same⟩
    rintro cid call ⟨⟩ p hp
    obtain ⟨q, hq, hts, hle⟩ := h.cursor p hp
    simp only [getStart, ownCursor, hq, Option.some_or, Option.getD_some]
    exact ⟨hts, hle⟩
  | served hg hr hne =>
    refine ⟨⟨fun p hp => ⟨_, rfl, ?_, ?_⟩, fun _ _ hg' => (by cases hg')⟩, same⟩
    · obtain ⟨-, -, e, -, he⟩ := lockedRead_some hr
      rw [he]
      rfl
    · obtain ⟨hts, hle⟩ := h.call _ _ hg p hp
      exact hle.trans (lockedRead_past hasc hts hr).le

end Connection.AcksBehind

namespace Server

variable {cap : Nat} {authToken : Option String} {d : Bool}

theorem acksBehind (hm : Ascending CanalEvent.key (fedBy as))
    (hcur : Run.Along (step lib) (fun _ s a => s.AcksCurrent c a) (.new cap authToken d) as) :
    ((Run.final (step lib) (.new cap authToken d) as).conns c).AcksBehind := by
  induction as using List.reverseRecOn with
  | nil => exact ⟨nofun, nofun⟩
  | append_singleton as a ih =>
    rw [fedBy_concat] at hm
    have ih := ih hm.left hcur.left
    have hasc := (reflects lib cap authToken d hm.left).buffer_ascending hm.left
    rw [Run.final_concat]
    rcases step_conn lib _ a c with ⟨-, -, hc | hc⟩ | ⟨-, ht⟩
    · rw [hc]
      exact ih
    · rw [hc]
      exact ih.notify
    · exact (ih.turn (explained lib cap authToken d as c) (positions lib cap authToken d as c)
        hasc hcur.last ht).1

end Server

/-- As long as a connection acks no batch that it has rolled back, no step moves its ack position
backwards. -/
theorem acks_never_go_back (lib : Crates) (cap : Nat) (authToken : Option String) (d : Bool)
    (as : List Action) (c : Nat) (hm : Ascending CanalEvent.key (fedBy as))
    (hcur : Run.Along (Server.step lib) (fun _ s a => s.AcksCurrent c a)
      (.new cap authToken d) as) :
    let after := Run.final (Server.step lib) (.new cap authToken d)
    ∀ pre a post, as = pre ++ a :: post →
      ∀ p, ((after pre).conns c).state.lastAckPos = some p →
        ∃ q, ((after (pre ++ [a])).conns c).state.lastAckPos = some q ∧ p.key ≤ q.key := by
  rintro after pre a post rfl p hp
  rw [fedBy_append] at hm
  have hb := Server.acksBehind hm.left hcur.left
  have hasc := (Server.reflects lib cap authToken d hm.left).buffer_ascending hm.left
  simp only [after, Run.final_concat]
  rcases Server.step_conn lib (after pre) a c with ⟨-, -, hc | hc⟩ | ⟨-, ht⟩
  · rw [hc]
    exact ⟨p, hp, le_rfl⟩
  · rw [hc, Connection.notify_state]
    exact ⟨p, hp, le_rfl⟩
  · exact (hb.turn (Server.explained lib cap authToken d pre c)
      (Server.positions lib cap authToken d pre c) hasc (hcur pre a post rfl) ht).2 p hp

/-- The batch that is acked. -/
def Action.ackedBatch : Action → Option Int64
  | .receive _ (.packet (.clientAck (.ok ack))) _ => some ack.batchId
  | _ => none

/-- Two acks, and one more after a batch has been rolled back and read again. -/
theorem acks_never_go_back_single :
    let as := [.receive 0 (.login "app" "" 0) none,
      .putBatch [storedEvent 100, storedEvent 200, storedEvent 300],
      .receive 0 (.fetch 1) none, .arm 0, .check 0, .answer 0 none, .receive 0 (.ack 1) none,
      .receive 0 (.fetch 1) none, .arm 0, .check 0, .answer 0 none, .receive 0 (.ack 2) none,
      .receive 0 (.fetch 1) none, .arm 0, .check 0, .answer 0 none, .receive 0 .rollback none,
      .receive 0 (.fetch 1) none, .arm 0, .check 0, .answer 0 none, .receive 0 (.ack 4) none]
    let after := Run.final (Server.step .literal) (.new 8 none true)
    acked (trace 0 (Run.outputs (Server.step .literal) (.new 8 none true) as)) =
      [.new "mysql-bin.000001" 100, .new "mysql-bin.000001" 200, .new "mysql-bin.000001" 300] ∧
    ∀ pre a post, as = pre ++ a :: post →
      ∀ p, ((after pre).conns 0).state.lastAckPos = some p →
        ∃ q, ((after (pre ++ [a])).conns 0).state.lastAckPos = some q ∧ p.key ≤ q.key := by
  intro as after
  refine ⟨by decide, acks_never_go_back .literal 8 none true as 0 (by unfold Ascending; decide) ?_⟩
  have h : Run.check (Server.step .literal) (fun _ s a => a.ackedBatch.all fun _ =>
      decide ((s.conns 0).state.currentPos = (s.conns 0).state.lastGetEndPos)) [] (.new 8 none true)
      as = true := by decide
  intro pre a post he id tx pos ha hid hpos
  have hg := Run.Along.of_check h pre a post he
  rw [ha, Frame.ack, Action.ackedBatch, Option.all_some, decide_eq_true_eq] at hg
  exact hg.trans hpos

/-- An ack of a batch that was rolled back, then a small read from the old position and its ack. -/
theorem rolled_back_ack_goes_back :
    let shown := Run.outputs (Server.step .literal) (.new 8 none true)
      [.receive 0 (.login "app" "" 0) none,
        .putBatch [storedEvent 100, storedEvent 200, storedEvent 300],
        .receive 0 (.fetch 1) none, .arm 0, .check 0, .answer 0 none, .receive 0 (.ack 1) none,
        .receive 0 (.fetch 10) none, .arm 0, .check 0, .answer 0 none, .receive 0 .rollback none,
        .receive 0 (.ack 2) none,
        .receive 0 (.fetch 1) none, .arm 0, .check 0, .answer 0 none, .receive 0 (.ack 3) none]
    acked (trace 0 shown) = [.new "mysql-bin.000001" 100, .new "mysql-bin.000001" 300,
      .new "mysql-bin.000001" 200] ∧
      (LogPosition.new "mysql-bin.000001" 200).lt (.new "mysql-bin.000001" 300) = true := by
  decide

end Canal
