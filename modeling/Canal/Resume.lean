import Canal.Cursor

namespace Canal
set_option autoImplicit true

theorem foldl_write_of_ne {os : List (Nat × Effect)} (h : ∀ o ∈ os, o.2.sessionWritten ≠ some cid)
    (sl : Option Slot) : os.foldl (Slot.write cid) sl = sl := by
  induction os generalizing sl with
  | nil => rfl
  | cons o os ih =>
    have ho := h o (List.mem_cons_self ..)
    have hw : Slot.write cid sl o = sl := by
      obtain ⟨c, e⟩ := o
      cases e with
      | send | authenticate | getBatch => rfl
      | register id | unregister id | updateAck id => exact if_neg fun he => ho (congrArg some he)
    rw [List.foldl_cons, hw]
    exact ih (fun o ho => h o (List.mem_cons_of_mem _ ho)) sl

/-- A registration or a disconnect under the client id forgets the ack position for good. -/
theorem foldl_write_forgets {os : List (Nat × Effect)}
    (hno : ∀ o ∈ os, ∀ p, o.2 ≠ .updateAck cid p) (sl : Option Slot)
    (h : ∃ o ∈ os, o.2.sessionWritten = some cid) :
    (os.foldl (Slot.write cid) sl).bind Slot.ackPos = none := by
  induction os using List.reverseRecOn with
  | nil =>
    obtain ⟨o, ho, -⟩ := h
    cases ho
  | append_singleton os o ih =>
    rw [List.foldl_append, List.foldl_cons, List.foldl_nil]
    by_cases ho : o.2.sessionWritten = some cid
    · have hack := hno o (List.mem_append_right _ (List.mem_singleton_self _))
      obtain ⟨c, e⟩ := o
      cases e with
      | send | authenticate | getBatch => cases ho
      | register id filter =>
        simp only [Slot.write, Option.some.inj ho, ↓reduceIte, Option.bind_some]
      | unregister id => simp only [Slot.write, Option.some.inj ho, ↓reduceIte, Option.bind_none]
      | updateAck id p =>
        exact absurd (congrArg (Effect.updateAck · p) (Option.some.inj ho)) (hack p)
    · have hlast : [o].foldl (Slot.write cid) (os.foldl (Slot.write cid) sl) = _ :=
        foldl_write_of_ne (fun o' ho' => List.mem_singleton.1 ho' ▸ ho) _
      rw [List.foldl_cons, List.foldl_nil] at hlast
      rw [hlast]
      apply ih fun o' ho' => hno o' (List.mem_append_left _ ho')
      obtain ⟨o', ho', hw⟩ := h
      refine ⟨o', (List.mem_append.1 ho').resolve_right fun hs => ho ?_, hw⟩
      exact List.mem_singleton.1 hs ▸ hw

theorem Effect.sessionWritten_ne_iff {e : Effect} (h : ∀ p, e ≠ .updateAck cid p) :
    e.sessionWritten ≠ some cid ↔ e ≠ .unregister cid ∧ ∀ filter, e ≠ .register cid filter := by
  cases e with
  | send | authenticate | getBatch => simp [sessionWritten]
  | register id filter => simp [sessionWritten]
  | unregister id => simp [sessionWritten]
  | updateAck id p =>
    have hid : id ≠ cid := fun he => h p (congrArg (Effect.updateAck · p) he)
    simp [sessionWritten, hid]

theorem Server.exists_slot {cap : Nat} {authToken : Option String} {d : Bool}
    (hone : Run.Along (step lib) (fun _ s _ => s.OneAtATime cid) (.new cap authToken d) as)
    (hlive : (Run.final (step lib) (.new cap authToken d) as).Live cid c) :
    ∃ sl, slot cid (Run.outputs (step lib) (.new cap authToken d) as) = some sl := by
  have hd := sessions_slot lib cap authToken d as cid
  obtain ⟨session, hsome⟩ := Option.isSome_iff_exists.1 (live_session hone hlive)
  rw [hsome] at hd
  generalize slot cid _ = sl at hd ⊢
  cases hd with
  | some => exact ⟨_, rfl⟩

theorem Server.step_of_updateAck {s : Server}
    (h : (c, Effect.updateAck cid p) ∈ (s.step lib a).2) :
    (s.step lib a).2 = [(c, .updateAck cid p)] ∧ s.Live cid c := by
  rcases s.step_cases lib a with ⟨events, -, he⟩ | ⟨c', -, conn, ss, store, es, ht, he⟩
  · rw [he] at h
    cases h
  rw [he] at h ⊢
  obtain ⟨e, hmem, heq⟩ := List.mem_map.1 h
  cases heq
  have hsend : ∀ r, Effect.updateAck cid p ≠ .send r := nofun
  cases ht with
  | acked hf hauth hcid hpos hid =>
    cases List.mem_singleton.1 hmem
    exact ⟨rfl, hcid, fun r hr => absurd (hf.symm.trans hr) nofun⟩
  | idle | stage | rolledBack | awaiting => cases hmem
  | served | timedOut | left => exact absurd (List.mem_singleton.1 hmem) nofun
  | quiet hf hw hp unknown acks => exact absurd hmem (not_mem_acks hsend acks)
  | refused hf hw hp h3 acks => exact absurd hmem (not_mem_acks hsend acks)
  | subscribed hf hauth hid hfilter hp acks | authenticated hf hauth hpw hfilter hp acks =>
    exact absurd hmem (by simpa using not_mem_acks hsend acks)
  | answered hg hp sent => exact absurd hmem (not_mem_messages hsend sent)

/-- After an accepted ack and up to the next one, the stored ack position is the acked one as long
as nothing registers or unregisters the client id; a later connection finds none and starts at the
beginning. -/
theorem stored_ack_stands_iff (lib : Crates) (cap : Nat) (authToken : Option String) (d : Bool)
    (pre post : List Action) (a : Action) (c : Nat) (cid : String) (p : LogPosition) :
    let after := Run.final (Server.step lib) (.new cap authToken d)
    let since := Run.outputs (Server.step lib) (after (pre ++ [a])) post
    let s := after (pre ++ a :: post)
    Run.Along (Server.step lib) (fun _ s _ => s.OneAtATime cid) (.new cap authToken d)
      (pre ++ a :: post) →
    (c, Effect.updateAck cid p) ∈ ((after pre).step lib a).2 →
    (∀ o ∈ since, ∀ q, o.2 ≠ .updateAck cid q) →
    (s.sessions.ack cid = some p ↔
      ∀ o ∈ since, o.2 ≠ .unregister cid ∧ ∀ filter, o.2 ≠ .register cid filter) ∧
    ∀ c', ((after (pre ++ [a])).conns c').state.clientId = none →
      (s.conns c').state.clientId = some cid →
      (∀ auth ∈ auths (trace c' since), ¬ 0 < auth.startTimestamp) →
      batches (trace c' since) = [] →
      getStart (s.conns c').state s.sessions cid = defaultStart := by
  intro after since s hone hack hno
  obtain ⟨hout, hlive⟩ := Server.step_of_updateAck hack
  have hos : Run.outputs (Server.step lib) (.new cap authToken d) (pre ++ a :: post) =
      Run.outputs (Server.step lib) (.new cap authToken d) pre ++
        (c, .updateAck cid p) :: since := by
    rw [Run.outputs_append, Run.outputs, hout]
    simp only [since, after, Run.final_concat, List.singleton_append]
  -- the entry exists when the ack arrives, since its connection is the only open one
  obtain ⟨sl, hsl⟩ := Server.exists_slot hone.left hlive
  have hacked : s.sessions.ack cid =
      (since.foldl (Slot.write cid) (some { sl with ackPos := some p })).bind Slot.ackPos := by
    rw [Server.ack_eq_slot, hos, slot, List.foldl_append, List.foldl_cons, ← slot, hsl]
    simp only [Slot.write, ↓reduceIte, Option.map_some]
  have hwrites : (∀ o ∈ since, o.2 ≠ .unregister cid ∧ ∀ filter, o.2 ≠ .register cid filter) ↔
      ∀ o ∈ since, o.2.sessionWritten ≠ some cid := by
    apply forall₂_congr
    intro o ho
    exact (Effect.sessionWritten_ne_iff (hno o ho)).symm
  constructor
  · rw [hacked, hwrites]
    constructor
    · intro h o ho hw
      rw [foldl_write_forgets hno _ ⟨o, ho, hw⟩] at h
      cases h
    · intro h
      rw [foldl_write_of_ne h]
      rfl
  · intro c' hfresh hcid hts hnone
    have hx := Server.explained lib cap authToken d (pre ++ a :: post) c'
    have hos' : trace c' (Run.outputs (Server.step lib) (.new cap authToken d) (pre ++ a :: post)) =
        trace c' (Run.outputs (Server.step lib) (.new cap authToken d) (pre ++ [a])) ++
          trace c' since := by
      rw [← trace_append, ← Run.outputs_append, List.append_assoc, List.singleton_append]
    obtain ⟨hauths, hbatches, hwritten⟩ :=
      (Server.explained lib cap authToken d (pre ++ [a]) c').unidentified hfresh
    have hforgot : s.sessions.ack cid = none := by
      rw [hacked]
      apply foldl_write_forgets hno
      have hw := (hx.written cid).2 hcid
      rw [hos', written_append, hwritten, List.nil_append, written, List.mem_filterMap] at hw
      obtain ⟨e, he, hw⟩ := hw
      exact ⟨(c', e), mem_trace.1 he, hw⟩
    have hcur : (s.conns c').state.currentPos = none := by
      cases hp : (s.conns c').state.currentPos with
      | none => rfl
      | some q =>
        have hq := (Server.positions lib cap authToken d (pre ++ a :: post) c').cursor q hp
        rw [hos', batches_append, hbatches, hnone, auths_append, hauths] at hq
        rcases hq with ⟨b, hb, -⟩ | ⟨-, auth, ha, hlt, -⟩
        · cases hb
        · exact absurd hlt (hts auth ha)
    simp only [getStart, ownCursor, hcur, hforgot, Option.or_none, Option.getD_none]

theorem stored_ack_stands_iff_heartbeat :
    (Run.final (Server.step .literal) (.new 8 none true)
      (readOne ++ .receive 0 (.ack 1) none :: [.receive 0 (.packet .heartbeat) none])).sessions.ack
        "app" = some (.new "mysql-bin.000001" 100) := by
  have hsince : Run.outputs (Server.step .literal)
      (Run.final (Server.step .literal) (.new 8 none true) (readOne ++ [.receive 0 (.ack 1) none]))
      [.receive 0 (.packet .heartbeat) none] = [(0, .send (.ack {}))] := by decide
  have h := (stored_ack_stands_iff .literal 8 none true readOne
    [.receive 0 (.packet .heartbeat) none] (.receive 0 (.ack 1) none) 0 "app"
    (.new "mysql-bin.000001" 100)
    (Server.oneAtATime_of_distinct fun _ _ =>
      @Server.distinct_of_acting _ _ _ _ _ _ [0] (fun _ => rfl) (by simp [readOne, Action.actor])
        (by decide))
    (by decide) (by rw [hsince]; simp)).1
  exact h.2 (by rw [hsince]; simp)

/-- The acked row is served again after a clean reconnect under the same client id. -/
theorem reconnect_redelivers_acked :
    let acks := readOne ++ [.receive 0 (.ack 1) none]
    let reconnects : List Action := [.receive 0 .endOfStream none,
      .receive 1 (.login "app" "" 0) none, .receive 1 (.fetch 10) none, .arm 1, .check 1,
      .answer 1 none]
    let after := Run.final (Server.step .literal) (.new 8 none true)
    let shown := Run.outputs (Server.step .literal) (.new 8 none true)
    (after acks).sessions.ack "app" = some (.new "mysql-bin.000001" 100) ∧
      (after (acks ++ reconnects)).sessions.ack "app" = none ∧
      (batches (trace 1 (shown (acks ++ reconnects)))).map Events.events = [[storedEvent 100]] := by
  decide

/-- Where a consumer starts that has acked nothing yet. -/
def ClientAuth.firstStart (auth : ClientAuth) : LogPosition :=
  if 0 < auth.startTimestamp then timestampCursor auth.startTimestamp else defaultStart

namespace Server

theorem step_rollback {s : Server} (hf : (s.conns c).phase = .frame)
    (hauth : (s.conns c).state.authenticated = true) (lib : Crates) (tx : Option CanalError) :
    s.step lib (.receive c .rollback tx) = (s.setConn c
      { state := { (s.conns c).state with
          unknownPacketCount := 0, currentPos := (s.conns c).state.lastAckPos }
        phase := .frame }, []) := by
  have hp : handlePacket lib tx s.authToken (s.conns c).state s.sessions s.store
      (.clientRollback (.ok ())) = _ := if_neg (by rw [hauth]; decide)
  exact step_packet_done lib tx hf hp

theorem ack_of_exclusive {cap : Nat} {authToken : Option String} {d : Bool}
    (hex : ∀ c', c' ≠ c →
      ((Run.final (step lib) (.new cap authToken d) as).conns c').state.clientId ≠ some cid)
    (hack : ((Run.final (step lib) (.new cap authToken d) as).conns c).state.lastAckPos = none) :
    (Run.final (step lib) (.new cap authToken d) as).sessions.ack cid = none := by
  cases hp : (Run.final (step lib) (.new cap authToken d) as).sessions.ack cid with
  | none => rfl
  | some p =>
    obtain ⟨c', hcid, hl⟩ := exists_of_ack lib cap authToken d as hp
    by_cases hc : c' = c
    · rw [hc, hack] at hl
      cases hl
    · exact absurd hcid (hex c' hc)

end Server

/-- A Get after a rollback starts where it should, unless the client asked for a point in time and
has acked nothing. -/
theorem rollback_start_iff (lib : Crates) (cap : Nat) (authToken : Option String) (d : Bool)
    (pre mid : List Action) (c : Nat) (tx : Option CanalError) (auth : ClientAuth) :
    let after := Run.final (Server.step lib) (.new cap authToken d)
    let es := trace c (Run.outputs (Server.step lib) (.new cap authToken d) pre)
    let s := after (pre ++ .receive c .rollback tx :: mid)
    ((after pre).conns c).phase = .frame →
    auths es = [auth] →
    (∀ a ∈ mid, a.actor ≠ some c) →
    (∀ c', c' ≠ c → (s.conns c').state.clientId ≠ some auth.effectiveId) →
    (getStart (s.conns c).state s.sessions auth.effectiveId =
        (acked es).getLast?.getD auth.firstStart ↔
      ¬ 0 < auth.startTimestamp ∨ acked es ≠ []) := by
  intro after es s hf hauths hmid hex
  have hx := Server.explained lib cap authToken d pre c
  have hauth : ((after pre).conns c).state.authenticated = true :=
    (hx.of_auths (by rw [show auths _ = _ from hauths]; exact List.mem_singleton_self auth)).1
  -- nobody moves the connection between its rollback and its Get
  have hstate : (s.conns c).state = { ((after pre).conns c).state with
      unknownPacketCount := 0, currentPos := ((after pre).conns c).state.lastAckPos } := by
    simp only [s, after, Run.final_append, Run.final]
    rw [Server.final_state_of_not_actor hmid, Server.step_rollback hf hauth lib tx]
    simp only [after, Server.setConn, Function.update_self]
  have hlast := hx.ackPos
  cases hacked : (acked es).getLast? with
  | none =>
    have hnil : acked es = [] := List.getLast?_eq_none_iff.1 hacked
    rw [hacked] at hlast
    have hforgot : s.sessions.ack auth.effectiveId = none :=
      Server.ack_of_exclusive hex (by rw [show _ = _ from hstate]; exact hlast)
    rw [hnil, getStart, ownCursor, hstate, hforgot, hlast]
    simp only [Option.or_none, Option.getD_none, ClientAuth.firstStart, ne_eq, not_true_eq_false,
      or_false]
    constructor
    · intro h hlt
      rw [if_pos hlt] at h
      cases congrArg LogPosition.timestamp h
    · intro h
      rw [if_neg h]
  | some p =>
    rw [hacked] at hlast
    have hne : acked es ≠ [] := by
      intro hnil
      rw [hnil] at hacked
      cases hacked
    rw [getStart, ownCursor, hstate, hlast]
    exact iff_of_true rfl (.inr hne)

theorem rollback_start_iff_unacked :
    let s := Run.final (Server.step .literal) (.new 8 none true)
      (readOne ++ .receive 0 .rollback none :: [.putBatch [storedEvent 200]])
    getStart (s.conns 0).state s.sessions "app" = defaultStart :=
  (rollback_start_iff .literal 8 none true readOne [.putBatch [storedEvent 200]] 0 none
    { password := [], destination := "example", clientId := "app", filter := ""
      startTimestamp := 0 } rfl (by decide) (by simp [Action.actor])
    (fun c' hc => by
      rw [Server.final_state_of_not_actor (by simpa [readOne, Action.actor] using hc.symm)]
      intro hid
      cases hid)).2 (.inl (by decide))

/-- A row of the given execute time. -/
def timedEvent (position : UInt64) (executeTime : Int64) : CanalEvent :=
  { storedEvent position with executeTime }

/-- The consumer asks for rows from time 5 on; after its rollback it is served a row of time 0. -/
theorem rollback_forgets_start_timestamp :
    let shown := Run.outputs (Server.step .literal) (.new 8 none true)
      [.putBatch [timedEvent 100 0, timedEvent 200 10], .receive 0 (.login "app" "" 5) none,
        .receive 0 (.fetch 10) none, .arm 0, .check 0, .answer 0 none, .receive 0 .rollback none,
        .receive 0 (.fetch 10) none, .arm 0, .check 0, .answer 0 none]
    acked (trace 0 shown) = [] ∧ (auths (trace 0 shown)).map ClientAuth.startTimestamp = [5] ∧
      (batches (trace 0 shown)).map Events.events =
        [[timedEvent 200 10], [timedEvent 100 0, timedEvent 200 10]] := by
  decide

end Canal
