import Canal.Fetching

namespace Canal
set_option autoImplicit true

open KeyedLog

namespace Turn

theorem call_start (ht : Turn lib s c a conn ss store es) (ha : ∀ frame tx, a ≠ .receive c frame tx)
    (hg : conn.phase = .get cid call) :
    ∃ cid' call', (s.conns c).phase = .get cid' call' ∧ call.start = call'.start := by
  cases ht with
  | idle => exact ⟨_, _, hg, rfl⟩
  | stage hg' =>
    cases hg
    exact ⟨_, _, hg', rfl⟩
  | served | timedOut => cases hg
  | answered hg' hp => exact absurd hg (Phase.ne_get hp)
  | quiet | refused | authenticated | subscribed | acked | rolledBack | awaiting | left =>
    exact absurd rfl (ha _ _)

end Turn

namespace Server

/-- While nothing arrives on the connection, a call that waits there keeps its start. -/
theorem start_stands {s : Server} (hmid : ∀ a ∈ mid, ∀ frame tx, a ≠ .receive c frame tx)
    (h : ∀ cid call, (s.conns c).phase = .get cid call → call.start = cur) :
    ∀ cid call, ((Run.final (step lib) s mid).conns c).phase = .get cid call →
      call.start = cur := by
  induction mid generalizing s with
  | nil => exact h
  | cons a mid ih =>
    apply ih fun b hb => hmid b (List.mem_cons_of_mem _ hb)
    intro cid call hg
    rcases s.step_conn lib a c with ⟨ha, -⟩ | ⟨-, ht⟩
    · obtain ⟨call', hg', he⟩ := (step_other ha lib s).2 cid call hg
      rw [he]
      exact h cid call' hg'
    · obtain ⟨cid', call', hg', he⟩ := ht.call_start (hmid a (List.mem_cons_self ..)) hg
      rw [he]
      exact h _ _ hg'

section Get

variable {s : Server} (get : Get) (lib : Crates) (tx : Option CanalError)

theorem step_get_refused (hf : (s.conns c).phase = .frame)
    (hauth : (s.conns c).state.authenticated = true)
    (hcid : (s.conns c).state.clientId = some cid)
    (hlost : lostWatermark (s.conns c).state s.sessions s.store cid = some watermark) :
    s.step lib (.receive c (.packet (.get (.ok get))) tx) = s.settle c (Outcome.sendAckErr
      { state := { (s.conns c).state with unknownPacketCount := 0 }, sessions := s.sessions }
      tx (droppedMessage (getStart (s.conns c).state s.sessions cid) watermark)) := by
  have hp : handlePacket lib tx s.authToken (s.conns c).state s.sessions s.store
      (.get (.ok get)) = _ := if_neg (by rw [hauth]; decide)
  exact step_packet_done lib tx hf (hp.trans (handleGet_refused hcid hlost))

theorem step_get_served (hf : (s.conns c).phase = .frame)
    (hauth : (s.conns c).state.authenticated = true)
    (hcid : (s.conns c).state.clientId = some cid)
    (hlost : lostWatermark (s.conns c).state s.sessions s.store cid = none) :
    s.step lib (.receive c (.packet (.get (.ok get))) tx) = (s.setConn c
      { state := { (s.conns c).state with unknownPacketCount := 0 }
        phase := .get cid
          { start := getStart (s.conns c).state s.sessions cid, batchSize := get.batchSize } },
      []) := by
  have hp : handlePacket lib tx s.authToken (s.conns c).state s.sessions s.store
      (.get (.ok get)) = _ := if_neg (by rw [hauth]; decide)
  exact step_packet_call lib tx hf (hp.trans (handleGet_served hcid hlost))

end Get

end Server

theorem lostWatermark_own {st : ClientState} {ss : SessionManager} (store : MemoryEventStore)
    (hcur : ownCursor st ss cid = some cur) (hpos : cur.timestamp = none) :
    getStart st ss cid = cur ∧
      lostWatermark st ss store cid = store.evictedWatermark.filter cur.lt := by
  have hstart : getStart st ss cid = cur := by rw [getStart, hcur, Option.getD_some]
  refine ⟨hstart, ?_⟩
  simp only [lostWatermark, hstart, hcur, hpos, Option.isSome_some, Option.isNone_none,
    Bool.and_self, ↓reduceIte]

/-- A Get without a cursor of its own starts at the beginning and is never refused. -/
theorem lostWatermark_default {st : ClientState} {ss : SessionManager} (store : MemoryEventStore)
    (hcur : ownCursor st ss cid = none) :
    getStart st ss cid = defaultStart ∧ lostWatermark st ss store cid = none := by
  refine ⟨by rw [getStart, hcur, Option.getD_none], ?_⟩
  simp only [lostWatermark, hcur, Option.isSome_none, Bool.false_and, Bool.false_eq_true,
    ↓reduceIte]

theorem Reflects.filter_watermark (h : Reflects cap history s)
    (hm : Ascending CanalEvent.key history) (cur : LogPosition) :
    s.evictedWatermark.filter cur.lt = none ↔ ∀ e ∈ dropped cap history, e.key ≤ cur.key := by
  have hl := h.lost_iff hm cur
  rw [Option.filter_eq_none_iff]
  constructor
  · intro hw e he
    by_contra hlt
    obtain ⟨w, hsome, hc⟩ := hl.1 ⟨e, he, not_le.1 hlt⟩
    exact hw w hsome hc
  · intro hle w hsome hc
    obtain ⟨e, he, hlt⟩ := hl.2 ⟨w, hsome, hc⟩
    exact absurd (hle e he) (not_le.2 hlt)

/-- A Get with a positional cursor of its own: what was lost before its watermark check is
reported; after the check the batch leaves no gap exactly when the check would still pass at the
time of the locked read. -/
theorem batch_without_gap_iff (lib : Crates) (cap : Nat) (authToken : Option String) (d : Bool)
    (pre mid : List Action) (c : Nat) (get : Get) (cid : String) (cur : LogPosition) :
    let after := Run.final (Server.step lib) (.new cap authToken d)
    let s := after pre
    let s' := after (pre ++ .receive c (.packet (.get (.ok get))) none :: mid)
    Ascending CanalEvent.key (fedBy (pre ++ mid)) →
    (s.conns c).phase = .frame → (s.conns c).state.clientId = some cid →
    ownCursor (s.conns c).state s.sessions cid = some cur → cur.timestamp = none →
    (∀ a ∈ mid, ∀ frame tx, a ≠ .receive c frame tx) →
    ((∃ e ∈ dropped cap (fedBy pre), cur.key < e.key) →
      ∃ watermark, (s.step lib (.receive c (.packet (.get (.ok get))) none)).2 = [(c, .ack
        { errorCodePresent := some 1, errorMessage := droppedMessage cur watermark })]) ∧
    ((∀ e ∈ dropped cap (fedBy pre), e.key ≤ cur.key) →
      ∀ start events k, (c, .getBatch start events) ∈ (s'.step lib (.check c)).2 →
        events.events.head? = some k →
        start = cur ∧
          ((∀ e ∈ dropped cap (fedBy (pre ++ mid)), ¬ (cur.key < e.key ∧ e.key ≤ k.key)) ↔
            s'.store.evictedWatermark.filter cur.lt = none)) := by
  intro after s s' hm hf hcid hcur hpos hmid
  have hauth := (Server.explained lib cap authToken d pre c).authenticated_iff.2 ⟨cid, hcid⟩
  obtain ⟨hstart, hlost⟩ := lostWatermark_own s.store hcur hpos
  have hm' := fedBy_append pre mid ▸ hm
  have hr := Server.reflects lib cap authToken d hm'.left
  refine ⟨fun hgone => ?_, fun hkept start events k hread hk => ?_⟩
  · obtain ⟨w, hw, hlt⟩ := (hr.lost_iff hm'.left cur).1 hgone
    refine ⟨w, ?_⟩
    rw [show s.store.evictedWatermark = _ from hw, Option.filter_some_pos hlt] at hlost
    rw [Server.step_get_refused get lib none hf hauth hcid hlost, hstart]
    rfl
  · rw [(hr.filter_watermark hm'.left cur).2 hkept] at hlost
    have hstep := Server.step_get_served get lib none hf hauth hcid hlost
    rw [hstart] at hstep
    have hs' : s' = Run.final (Server.step lib)
        (s.step lib (.receive c (.packet (.get (.ok get))) none)).1 mid := by
      simp only [s', s, after, Run.final_append, Run.final]
    have hwaits : ∀ cid' call, ((Run.final (Server.step lib)
        (s.step lib (.receive c (.packet (.get (.ok get))) none)).1 mid).conns c).phase =
          .get cid' call → call.start = cur := by
      apply Server.start_stands hmid
      rw [hstep]
      simp only [Server.setConn, Function.update_self]
      rintro cid' call' ⟨⟩
      rfl
    rw [← hs'] at hwaits
    have hfed : fedBy (pre ++ .receive c (.packet (.get (.ok get))) none :: mid) =
        fedBy (pre ++ mid) := by
      rw [fedBy_append, fedBy_append]
      rfl
    have hr' := Server.reflects lib cap authToken d (hfed ▸ hm)
    rw [hfed] at hr'
    have hne : events.isEmpty = false := by
      cases he : events.events with
      | nil => rw [he] at hk; cases hk
      | cons => rw [Events.isEmpty, he]; rfl
    rw [← mem_trace] at hread
    rcases s'.step_conn lib (.check c) c with ⟨ha, -⟩ | ⟨-, ht⟩
    · exact absurd rfl ha
    obtain ⟨cid', call, hg, hcall, hlocked⟩ := ht.read hread hne
    refine ⟨hcall.symm.trans (hwaits cid' call hg), ?_⟩
    rw [hr'.filter_watermark hm]
    apply hm.dropped_between_iff
    -- the event that was read is still in the buffer
    have hpage := (lockedRead_some hlocked).2.1
    rw [← hr'.buffer]
    exact (start.readable_suffix _).mem
      ((page_isPrefix _ _).sublist.mem (hpage ▸ List.mem_of_mem_head? hk))

/-- With room for two, the put that wakes the Get takes the row before its cursor. -/
theorem batch_without_gap_iff_kept :
    let mid := [.arm 0, .check 0, .putBatch [storedEvent 200, storedEvent 300], .wake 0, .arm 0]
    dropped 2 (fedBy (readOne ++ mid)) = [storedEvent 100] ∧
      ∀ e ∈ dropped 2 (fedBy (readOne ++ mid)),
        ¬ ((LogPosition.new "mysql-bin.000001" 100).key < e.key ∧
          e.key ≤ (storedEvent 200).key) := by
  intro mid
  have h := (batch_without_gap_iff .literal 2 none true readOne mid 0 { fetchSize := 10 } "app"
    (.new "mysql-bin.000001" 100) (by unfold Ascending; decide) rfl (by decide) (by decide) rfl
    (by simp [mid])).2 (by decide)
  have hread := h (.new "mysql-bin.000001" 100)
    (.withEvents [storedEvent 200, storedEvent 300] 3) (storedEvent 200) (by decide) rfl
  exact ⟨by decide, hread.2.2 (by decide)⟩

/-- With room for one event, a put of two while a Get waits: the client is served the second and
never told of the first. -/
theorem waiting_get_skips_evicted :
    let run : List Action := readOne ++ [.receive 0 (.fetch 10) none, .arm 0, .check 0,
      .putBatch [storedEvent 200, storedEvent 300], .wake 0, .arm 0, .check 0, .answer 0 none]
    let shown := Run.outputs (Server.step .literal) (.new 1 none true) run
    dropped 1 (fedBy run) = [storedEvent 100, storedEvent 200] ∧
      (batches (trace 0 shown)).map Events.events = [[storedEvent 100], [storedEvent 300]] ∧
      (shown.countP fun
        | (0, .send (.ack a)) => a.errorCodePresent.isSome
        | _ => false) = 0 := by
  decide

end Canal
