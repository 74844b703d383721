import Canal.TurnCases

namespace Canal
set_option autoImplicit true

/-- The effects of one connection. -/
def trace (c : Nat) (os : List (Nat × Effect)) : List Effect :=
  os.filterMap fun o => if o.1 = c then some o.2 else none

@[simp] theorem trace_nil : trace c [] = [] := rfl

@[simp] theorem trace_append (os os' : List (Nat × Effect)) :
    trace c (os ++ os') = trace c os ++ trace c os' := List.filterMap_append ..

@[simp] theorem mem_trace : e ∈ trace c os ↔ (c, e) ∈ os := by
  rw [trace, List.mem_filterMap]
  constructor
  · rintro ⟨⟨c', e'⟩, ho, h⟩
    by_cases hc : c' = c
    · simp only [hc, ↓reduceIte, Option.some.injEq] at h
      exact hc ▸ h ▸ ho
    · simp only [hc, ↓reduceIte] at h
      cases h
  · exact fun h => ⟨(c, e), h, if_pos rfl⟩

@[simp] theorem trace_own (es : List Effect) : trace c (es.map (c, ·)) = es := by
  simp [trace, List.filterMap_map]

theorem trace_other (h : c' ≠ c) (es : List Effect) : trace c (es.map (c', ·)) = [] := by
  simp [trace, h]

namespace Effect

/-- A batch read from the store; an empty poll reads none. -/
def batchRead : Effect → Option Events
  | .getBatch _ events => if events.isEmpty then none else some events
  | _ => none

def ackedTo : Effect → Option LogPosition
  | .updateAck _ pos => some pos
  | _ => none

def authAccepted : Effect → Option ClientAuth
  | .authenticate auth => some auth
  | _ => none

def filterAccepted : Effect → Option FilterPattern
  | .register _ filter => some filter
  | _ => none

@[simp] theorem batchRead_some (h : events.isEmpty = false) :
    batchRead (.getBatch start events) = some events := by
  simp only [batchRead, h, Bool.false_eq_true, ↓reduceIte]

/-- The entry of the session table that the effect writes. -/
def sessionWritten : Effect → Option String
  | .register cid _ => some cid
  | .unregister cid => some cid
  | .updateAck cid _ => some cid
  | _ => none

end Effect

/-- The batches a connection has read, oldest first. -/
def batches (es : List Effect) : List Events := es.filterMap Effect.batchRead

/-- The positions a connection has acked. -/
def acked (es : List Effect) : List LogPosition := es.filterMap Effect.ackedTo

/-- The accepted authentications of a connection. -/
def auths (es : List Effect) : List ClientAuth := es.filterMap Effect.authAccepted

/-- The filters accepted from a connection. -/
def filters (es : List Effect) : List FilterPattern := es.filterMap Effect.filterAccepted

/-- The entries of the session table a connection has written. -/
def written (es : List Effect) : List String := es.filterMap Effect.sessionWritten

section Projections

@[simp] theorem batches_nil : batches [] = [] := rfl

@[simp] theorem batches_append (es es' : List Effect) :
    batches (es ++ es') = batches es ++ batches es' := List.filterMap_append ..

@[simp] theorem acked_append (es es' : List Effect) :
    acked (es ++ es') = acked es ++ acked es' := List.filterMap_append ..

@[simp] theorem auths_append (es es' : List Effect) :
    auths (es ++ es') = auths es ++ auths es' := List.filterMap_append ..

@[simp] theorem filters_append (es es' : List Effect) :
    filters (es ++ es') = filters es ++ filters es' := List.filterMap_append ..

@[simp] theorem written_append (es es' : List Effect) :
    written (es ++ es') = written es ++ written es' := List.filterMap_append ..

theorem filterMap_sends {f : Effect → Option α} (hf : ∀ r, f (.send r) = none) {es : List Effect}
    (h : ∀ e ∈ es, ∃ r, e = .send r) : es.filterMap f = [] := by
  rw [List.filterMap_eq_nil_iff]
  intro e he
  obtain ⟨r, rfl⟩ := h e he
  exact hf r

theorem acks_sends (acks : List Proto.Ack) : ∀ e ∈ acks.map Effect.ack, ∃ r, e = .send r := by
  intro e he
  obtain ⟨a, -, rfl⟩ := List.mem_map.1 he
  exact ⟨_, rfl⟩

theorem acks_acks (acks : List Proto.Ack) : ∀ e ∈ acks.map Effect.ack, ∃ a, e = .ack a := by
  intro e he
  obtain ⟨a, -, rfl⟩ := List.mem_map.1 he
  exact ⟨a, rfl⟩

theorem messages_sends (sent : List Proto.Messages) :
    ∀ e ∈ sent.map Effect.messages, ∃ r, e = .send r := by
  intro e he
  obtain ⟨m, -, rfl⟩ := List.mem_map.1 he
  exact ⟨_, rfl⟩

theorem not_mem_acks (h : ∀ r, e ≠ .send r) (acks : List Proto.Ack) : e ∉ acks.map Effect.ack := by
  intro he
  obtain ⟨r, hr⟩ := acks_sends acks e he
  exact h r hr

theorem not_mem_messages (h : ∀ r, e ≠ .send r) (sent : List Proto.Messages) :
    e ∉ sent.map Effect.messages := by
  intro he
  obtain ⟨r, hr⟩ := messages_sends sent e he
  exact h r hr

theorem filterMap_append_sends {f : Effect → Option α} (hf : ∀ r, f (.send r) = none)
    {sends : List Effect} (h : ∀ e ∈ sends, ∃ r, e = .send r) (es pre : List Effect) :
    (es ++ (pre ++ sends)).filterMap f = es.filterMap f ++ pre.filterMap f := by
  rw [List.filterMap_append, List.filterMap_append, filterMap_sends hf h, List.append_nil]

end Projections

/-- A `handle_get` works for the client of its connection, and the batch in its hand is the last
one read. -/
def Phase.Grounded (clientId : Option String) (last : Option Events) : Phase → Prop
  | .get cid _ => clientId = some cid
  | .answer cid events => clientId = some cid ∧ (events.isEmpty = false → last = some events)
  | _ => True

theorem Phase.Grounded.of_isGet {phase : Phase} (h : phase.isGet = false) :
    phase.Grounded clientId last := by
  cases phase with
  | frame | closed => exact trivial
  | get | answer => cases h

/-- The state of a connection as its effects determine it. -/
structure Connection.Explained (conn : Connection) (es : List Effect) : Prop where
  identity : (auths es = [] ∧ conn.state.authenticated = false ∧ conn.state.clientId = none ∧
      ∀ e ∈ es, ∃ a, e = .ack a) ∨
    ∃ auth, auths es = [auth] ∧ conn.state.authenticated = true ∧
      conn.state.clientId = some auth.effectiveId
  written : ∀ cid, cid ∈ written es ↔ conn.state.clientId = some cid
  phase : conn.phase.Grounded conn.state.clientId (batches es).getLast?
  batchId : conn.state.lastGetBatchId = ((batches es).getLast?.map Events.batchId).getD 0
  endPos : conn.state.lastGetEndPos = (batches es).getLast?.map fun b => b.positionRange.stop
  ackPos : conn.state.lastAckPos = (acked es).getLast?

namespace Connection.Explained

variable {conn conn' : Connection} {es es' : List Effect}

theorem init : Explained {} [] where
  identity := .inl ⟨rfl, rfl, rfl, fun _ h => absurd h List.not_mem_nil⟩
  written _ := iff_of_false List.not_mem_nil nofun
  phase := trivial
  batchId := rfl
  endPos := rfl
  ackPos := rfl

theorem call (h : Explained conn es) (cid : String) (call : GetBatch)
    (hg : conn.phase = .get cid call) : conn.state.clientId = some cid := by
  have hp := h.phase
  rwa [hg] at hp

theorem answer (h : Explained conn es) (hg : conn.phase = .answer cid events) :
    conn.state.clientId = some cid ∧
      (events.isEmpty = false → (batches es).getLast? = some events) := by
  have hp := h.phase
  rwa [hg] at hp

theorem authenticated_iff (h : Explained conn es) :
    conn.state.authenticated = true ↔ ∃ cid, conn.state.clientId = some cid := by
  rcases h.identity with ⟨-, ha, hc, -⟩ | ⟨auth, -, ha, hc⟩ <;> simp [ha, hc]

theorem of_auths (h : Explained conn es) (hm : auth ∈ auths es) :
    conn.state.authenticated = true ∧ conn.state.clientId = some auth.effectiveId := by
  rcases h.identity with ⟨hnone, -⟩ | ⟨auth', hone, hlogged, hcid⟩
  · rw [hnone] at hm
    cases hm
  · rw [hone, List.mem_singleton] at hm
    rw [hm]
    exact ⟨hlogged, hcid⟩

theorem of_batches (h : Explained conn es) (hb : (batches es).getLast? = some b) :
    conn.state.authenticated = true := by
  rcases h.identity with ⟨-, -, -, hacks⟩ | ⟨auth, -, ha, -⟩
  · rw [batches, filterMap_sends (fun _ => rfl) fun e he => (hacks e he).imp' Response.ack
      fun _ => id] at hb
    cases hb
  · exact ha

theorem unidentified (h : Explained conn es) (hcid : conn.state.clientId = none) :
    auths es = [] ∧ batches es = [] ∧ Canal.written es = [] := by
  rcases h.identity with ⟨-, -, -, hacks⟩ | ⟨auth, -, -, hc⟩
  · have hsend : ∀ e ∈ es, ∃ r, e = .send r := fun e he =>
      (hacks e he).imp' Response.ack fun _ => id
    exact ⟨filterMap_sends (fun _ => rfl) hsend, filterMap_sends (fun _ => rfl) hsend,
      filterMap_sends (fun _ => rfl) hsend⟩
  · rw [hcid] at hc
    cases hc

theorem ackPos_none (h : Explained conn es) (hauth : conn.state.authenticated = false) :
    conn.state.lastAckPos = none := by
  rcases h.identity with ⟨-, -, -, hacks⟩ | ⟨auth, -, ha, -⟩
  · rw [h.ackPos, Canal.acked, filterMap_sends (fun _ => rfl) fun e he =>
      (hacks e he).imp' Response.ack fun _ => id]
    rfl
  · rw [hauth] at ha
    cases ha

theorem frame (h : Explained conn es) (hacks : ∀ e ∈ es', ∃ a, e = .ack a)
    (hs : conn'.state = { conn.state with
      authErrorCount := errors, unknownPacketCount := unknown, currentPos := cur })
    (hp : conn'.phase.Grounded conn.state.clientId (batches es).getLast?) :
    Explained conn' (es ++ es') := by
  have hsend : ∀ e ∈ es', ∃ r, e = .send r := fun e he =>
    (hacks e he).imp' Response.ack fun _ => id
  have hn : ∀ {α} {f : Effect → Option α}, (∀ r, f (.send r) = none) → es'.filterMap f = [] :=
    fun hf => filterMap_sends hf hsend
  have hb : batches (es ++ es') = batches es := by
    rw [batches_append, batches, batches, hn (fun _ => rfl), List.append_nil]
  have ha : auths (es ++ es') = auths es := by
    rw [auths_append, auths, auths, hn (fun _ => rfl), List.append_nil]
  have hk : acked (es ++ es') = acked es := by
    rw [acked_append, acked, acked, hn (fun _ => rfl), List.append_nil]
  have hw : Canal.written (es ++ es') = Canal.written es := by
    rw [written_append, Canal.written, Canal.written, hn (fun _ => rfl), List.append_nil]
  constructor
  · rw [ha, hs]
    rcases h.identity with ⟨h1, h2, h3, h4⟩ | hid
    · refine .inl ⟨h1, h2, h3, fun e he => ?_⟩
      rcases List.mem_append.1 he with he | he
      · exact h4 e he
      · exact hacks e he
    · exact .inr hid
  · rw [hw, hs]
    exact h.written
  · rw [hb, hs]
    exact hp
  · rw [hb, hs]
    exact h.batchId
  · rw [hb, hs]
    exact h.endPos
  · rw [hk, hs]
    exact h.ackPos

theorem of_call (h : Explained conn es) (hg : conn.phase = .get cid g) :
    conn.state.authenticated = true := h.authenticated_iff.2 ⟨cid, h.call cid g hg⟩

theorem of_answer (h : Explained conn es) (hg : conn.phase = .answer cid events) :
    conn.state.authenticated = true := h.authenticated_iff.2 ⟨cid, (h.answer hg).1⟩

theorem extend (pre : List Effect) {sends : List Effect} (hsends : ∀ e ∈ sends, ∃ r, e = .send r)
    (hid : ∃ auth, auths es ++ auths pre = [auth] ∧ conn'.state.authenticated = true ∧
      conn'.state.clientId = some auth.effectiveId)
    (hw : ∀ cid, cid ∈ Canal.written es ++ Canal.written pre ↔ conn'.state.clientId = some cid)
    (hc : conn'.phase.Grounded conn'.state.clientId (batches es ++ batches pre).getLast?)
    (hn : conn'.state.lastGetBatchId =
      ((batches es ++ batches pre).getLast?.map Events.batchId).getD 0)
    (hp : conn'.state.lastGetEndPos =
      (batches es ++ batches pre).getLast?.map fun b => b.positionRange.stop)
    (hk : conn'.state.lastAckPos = (Canal.acked es ++ Canal.acked pre).getLast?) :
    Explained conn' (es ++ (pre ++ sends)) where
  identity := by
    obtain ⟨auth, h1, h2, h3⟩ := hid
    refine .inr ⟨auth, ?_, h2, h3⟩
    rw [auths, filterMap_append_sends (fun _ => rfl) hsends]
    exact h1
  written := by
    rw [Canal.written, filterMap_append_sends (fun _ => rfl) hsends]
    exact hw
  phase := by
    rw [batches, filterMap_append_sends (fun _ => rfl) hsends]
    exact hc
  batchId := by
    rw [batches, filterMap_append_sends (fun _ => rfl) hsends]
    exact hn
  endPos := by
    rw [batches, filterMap_append_sends (fun _ => rfl) hsends]
    exact hp
  ackPos := by
    rw [Canal.acked, filterMap_append_sends (fun _ => rfl) hsends]
    exact hk

theorem identity_keep (h : Explained conn es) (hauth : conn.state.authenticated = true)
    (hid : conn'.state.clientId = conn.state.clientId)
    (ha : conn'.state.authenticated = conn.state.authenticated) :
    ∃ auth, auths es ++ [] = [auth] ∧ conn'.state.authenticated = true ∧
      conn'.state.clientId = some auth.effectiveId := by
  rcases h.identity with ⟨-, hn, -⟩ | ⟨auth, h1, h2, h3⟩
  · rw [hauth] at hn
    cases hn
  · exact ⟨auth, by rw [List.append_nil, h1], ha.trans h2, hid.trans h3⟩

theorem written_keep (h : Explained conn es) (hcid : conn.state.clientId = some cid)
    (hid : conn'.state.clientId = some cid) (id : String) :
    id ∈ Canal.written es ++ [cid] ↔ conn'.state.clientId = some id := by
  rw [List.mem_append, h.written id, hcid, hid, List.mem_singleton, Option.some.injEq]
  exact ⟨fun h => h.elim (fun h => h) Eq.symm, .inl⟩

theorem keep_batchId (h : Explained conn es) (hb : batches es' = []) :
    conn.state.lastGetBatchId =
      ((batches es ++ batches es').getLast?.map Events.batchId).getD 0 := by
  rw [hb, List.append_nil, h.batchId]

theorem keep_endPos (h : Explained conn es) (hb : batches es' = []) :
    conn.state.lastGetEndPos =
      (batches es ++ batches es').getLast?.map fun b => b.positionRange.stop := by
  rw [hb, List.append_nil, h.endPos]

theorem keep_ackPos (h : Explained conn es) (hk : Canal.acked es' = []) :
    conn.state.lastAckPos = (Canal.acked es ++ Canal.acked es').getLast? := by
  rw [hk, List.append_nil, h.ackPos]

theorem turn (h : Explained (s.conns c) es) (ht : Turn lib s c a conn ss store es') :
    Explained conn (es ++ es') := by
  cases ht with
  | idle hw => exact h.frame (fun _ he => absurd he List.not_mem_nil) rfl h.phase
  | stage hg hw stage =>
    exact h.frame (fun _ he => absurd he List.not_mem_nil) rfl (h.call _ _ hg)
  | quiet hf hw hp unknown acks => exact h.frame (acks_acks acks) rfl (.of_isGet hp)
  | refused hf hw hp h3 acks => exact h.frame (acks_acks acks) rfl (.of_isGet hp)
  | authenticated hf hauth hpw hfilter hp acks =>
    obtain ⟨h1, -, hcid, -⟩ := h.identity.resolve_right (by
      rintro ⟨auth', -, ha, -⟩
      rw [hauth] at ha
      cases ha)
    refine extend [.authenticate _, .register _ _] (acks_sends acks)
      ⟨_, by rw [h1]; rfl, rfl, rfl⟩ ?_ (.of_isGet hp) ?_ ?_ ?_
    · intro id
      rw [List.mem_append, h.written id, hcid]
      exact ⟨fun hw => hw.elim nofun fun hw => congrArg some (List.mem_singleton.1 hw).symm,
        fun hw => .inr (List.mem_singleton.2 (Option.some.inj hw).symm)⟩
    · exact h.keep_batchId rfl
    · exact h.keep_endPos rfl
    · exact h.keep_ackPos rfl
  | subscribed hf hauth hid hfilter hp acks =>
    have hcid := hid.resolve_left (by
      obtain ⟨cid, hcid⟩ := h.authenticated_iff.1 hauth
      rw [hcid]
      exact Option.some_ne_none cid)
    refine extend [.register _ _] (acks_sends acks) (h.identity_keep hauth hcid.symm rfl)
      (h.written_keep hcid rfl) (.of_isGet hp) ?_ ?_ ?_
    · exact h.keep_batchId rfl
    · exact h.keep_endPos rfl
    · exact h.keep_ackPos rfl
  | acked hf hauth hcid hpos hid =>
    refine extend [.updateAck _ _] (acks_sends []) (h.identity_keep hauth rfl rfl)
      (h.written_keep hcid hcid) trivial ?_ ?_ ?_
    · exact h.keep_batchId rfl
    · exact h.keep_endPos rfl
    · exact List.getLast?_concat.symm
  | rolledBack hf hauth =>
    exact h.frame (fun _ he => absurd he List.not_mem_nil) rfl trivial
  | awaiting hf hauth hcid hlost =>
    exact h.frame (fun _ he => absurd he List.not_mem_nil) rfl hcid
  | served hg hr hne =>
    refine extend [.getBatch _ _] (messages_sends []) (h.identity_keep (h.of_call hg) rfl rfl)
      ?_ ⟨h.call _ _ hg, fun _ => ?_⟩ ?_ ?_ ?_
    · exact fun id => by simpa [Canal.written, Effect.sessionWritten] using h.written id
    · simp [batches, hne]
    · simp [batches, hne]
    · simp [batches, hne]
    · exact h.keep_ackPos rfl
  | timedOut hg =>
    refine extend [.getBatch _ _] (messages_sends []) (h.identity_keep (h.of_call hg) rfl rfl)
      ?_ ⟨h.call _ _ hg, fun hne => ?_⟩ ?_ ?_ ?_
    · exact fun id => by simpa [Canal.written, Effect.sessionWritten] using h.written id
    · cases hne
    · exact h.keep_batchId rfl
    · exact h.keep_endPos rfl
    · exact h.keep_ackPos rfl
  | answered hg hp sent hs =>
    refine extend [] (messages_sends sent) (h.identity_keep (h.of_answer hg) rfl rfl) ?_
      (.of_isGet hp) ?_ ?_ ?_
    · exact fun id => by simpa [Canal.written] using h.written id
    · exact h.keep_batchId rfl
    · exact h.keep_endPos rfl
    · exact h.keep_ackPos rfl
  | left hf hcid hframe =>
    refine extend [.unregister _] (acks_sends []) (h.identity_keep
      (h.authenticated_iff.2 ⟨_, hcid⟩) rfl rfl) (h.written_keep hcid hcid) trivial ?_ ?_ ?_
    · exact h.keep_batchId rfl
    · exact h.keep_endPos rfl
    · exact h.keep_ackPos rfl

end Connection.Explained

@[simp] theorem Connection.notify_state (conn : Connection) : conn.notify.state = conn.state := by
  unfold notify
  split <;> rfl

theorem Connection.notify_phase (conn : Connection) : conn.notify.phase = conn.phase ∨
    ∃ cid call, conn.phase = .get cid call ∧ conn.notify.phase = .get cid call.notify := by
  unfold notify
  split
  · rename_i cid call h
    exact .inr ⟨cid, call, h, rfl⟩
  · exact .inl rfl

theorem Connection.notify_get {conn : Connection} (h : conn.notify.phase = .get cid call) :
    ∃ call', conn.phase = .get cid call' ∧ call.start = call'.start := by
  rcases conn.notify_phase with hp | ⟨cid', call', hp, hp'⟩
  · exact ⟨call, hp ▸ h, rfl⟩
  · rw [hp'] at h
    cases h
    exact ⟨call', hp, rfl⟩

theorem Connection.notify_answer (conn : Connection) :
    conn.notify.phase = .answer cid events ↔ conn.phase = .answer cid events := by
  rcases conn.notify_phase with h | ⟨cid', call, h, h'⟩
  · rw [h]
  · rw [h, h']
    exact iff_of_false (fun h => (by cases h)) (fun h => (by cases h))

theorem Connection.notify_closed (conn : Connection) :
    conn.notify.phase = .closed r ↔ conn.phase = .closed r := by
  rcases conn.notify_phase with h | ⟨cid, call, h, h'⟩
  · rw [h]
  · rw [h, h']
    exact ⟨nofun, nofun⟩

theorem Connection.Explained.notify {conn : Connection} (h : conn.Explained es) :
    conn.notify.Explained es := by
  have hs := conn.notify_state
  refine ⟨hs ▸ h.identity, hs ▸ h.written, ?_, hs ▸ h.batchId, hs ▸ h.endPos, hs ▸ h.ackPos⟩
  rw [hs]
  rcases conn.notify_phase with hp | ⟨cid, call, hp, hp'⟩
  · rw [hp]
    exact h.phase
  · rw [hp']
    exact h.call cid call hp

namespace Server

theorem step_conn (lib : Crates) (s : Server) (a : Action) (c : Nat) :
    (a.actor ≠ some c ∧ trace c (s.step lib a).2 = [] ∧
      ((s.step lib a).1.conns c = s.conns c ∨ (s.step lib a).1.conns c = (s.conns c).notify)) ∨
    (a.actor = some c ∧ Turn lib s c a ((s.step lib a).1.conns c) (s.step lib a).1.sessions
      (s.step lib a).1.store (trace c (s.step lib a).2)) := by
  rcases s.step_cases lib a with ⟨events, rfl, h⟩ | ⟨c', hc', conn, ss, store, es, ht, h⟩
  · left
    refine ⟨nofun, by rw [h]; rfl, ?_⟩
    rw [h]
    simp only
    split
    · exact .inr rfl
    · exact .inl rfl
  · by_cases he : c' = c
    · subst he
      right
      rw [h]
      simp only [Function.update_self, trace_own]
      exact ⟨hc', ht⟩
    · left
      rw [h]
      refine ⟨by rw [hc']; simpa using he, trace_other he es, .inl ?_⟩
      exact Function.update_of_ne (Ne.symm he) ..

theorem step_other (ha : a.actor ≠ some c) (lib : Crates) (s : Server) :
    ((s.step lib a).1.conns c).state = (s.conns c).state ∧
      ∀ cid call, ((s.step lib a).1.conns c).phase = .get cid call →
        ∃ call', (s.conns c).phase = .get cid call' ∧ call.start = call'.start := by
  rcases s.step_conn lib a c with ⟨-, -, hc | hc⟩ | ⟨ha', -⟩
  · rw [hc]
    exact ⟨rfl, fun cid call hg => ⟨call, hg, rfl⟩⟩
  · rw [hc]
    exact ⟨Connection.notify_state _, fun cid call hg => Connection.notify_get hg⟩
  · exact absurd ha' ha

theorem step_other_answer (ha : a.actor ≠ some c) (lib : Crates) (s : Server) :
    ((s.step lib a).1.conns c).phase = .answer cid events ↔
      (s.conns c).phase = .answer cid events := by
  rcases s.step_conn lib a c with ⟨-, -, hc | hc⟩ | ⟨ha', -⟩
  · rw [hc]
  · rw [hc, Connection.notify_answer]
  · exact absurd ha' ha

theorem step_conn_of_ne (ha : a.actor = some c) (hc : c' ≠ c) (s : Server) :
    (s.step lib a).1.conns c' = s.conns c' := by
  rcases s.step_cases lib a with ⟨events, rfl, -⟩ | ⟨c₁, h₁, conn, ss, store, es, -, h⟩
  · cases ha
  · rw [ha, Option.some.injEq] at h₁
    rw [h, ← h₁]
    exact Function.update_of_ne hc ..

theorem final_state_of_not_actor (h : ∀ a ∈ as, a.actor ≠ some c) :
    ((Run.final (step lib) s as).conns c).state = (s.conns c).state := by
  induction as generalizing s with
  | nil => rfl
  | cons a as ih =>
    rw [Run.final, ih fun b hb => h b (List.mem_cons_of_mem _ hb)]
    exact (step_other (h a (List.mem_cons_self ..)) lib s).1

theorem step_authToken (lib : Crates) (s : Server) (a : Action) :
    (s.step lib a).1.authToken = s.authToken := by
  rcases s.step_cases lib a with ⟨events, -, h⟩ | ⟨c', -, conn, ss, store, es, -, h⟩ <;> rw [h]

/-- What the turns of a connection and its wake-ups preserve holds along every run. -/
theorem conn_invariant (lib : Crates) (s : Server) (c : Nat)
    {I : Connection → List Effect → Prop} (h0 : I (s.conns c) [])
    (hn : ∀ conn es, I conn es → I conn.notify es)
    (ht : ∀ t a conn ss store es es', t.authToken = s.authToken →
      Turn lib t c a conn ss store es' → I (t.conns c) es → I conn (es ++ es'))
    (as : List Action) :
    I ((Run.final (step lib) s as).conns c) (trace c (Run.outputs (step lib) s as)) := by
  have h := Run.history_invariant (step lib) s
    (I := fun _ os t => t.authToken = s.authToken ∧ I (t.conns c) (trace c os)) ⟨rfl, h0⟩ ?_ as
  · exact h.2
  intro as os t a ⟨htok, hI⟩
  refine ⟨(t.step_authToken lib a).trans htok, ?_⟩
  rw [trace_append]
  rcases t.step_conn lib a c with ⟨-, he, hc | hc⟩ | ⟨-, hturn⟩
  · rw [he, List.append_nil, hc]
    exact hI
  · rw [he, List.append_nil, hc]
    exact hn _ _ hI
  · exact ht t a _ _ _ _ _ htok hturn hI

theorem explained (lib : Crates) (cap : Nat) (authToken : Option String) (d : Bool)
    (as : List Action) (c : Nat) :
    ((Run.final (step lib) (.new cap authToken d) as).conns c).Explained
      (trace c (Run.outputs (step lib) (.new cap authToken d) as)) := by
  exact conn_invariant lib _ c (I := Connection.Explained) .init (fun _ _ h => h.notify)
    (fun _ _ _ _ _ _ _ _ ht h => h.turn ht) as

theorem clientId_persists {cap : Nat} {authToken : Option String} {d : Bool}
    (h : ((Run.final (step lib) (.new cap authToken d) as).conns c).state.clientId = some cid)
    (bs : List Action) :
    ((Run.final (step lib) (.new cap authToken d) (as ++ bs)).conns c).state.clientId =
      some cid := by
  have h1 := (explained lib cap authToken d as c).identity
  have h2 := (explained lib cap authToken d (as ++ bs) c).identity
  rcases h1 with ⟨-, -, hn, -⟩ | ⟨auth, ha, -, hcid⟩
  · rw [h] at hn
    cases hn
  rw [Run.outputs_append, trace_append, auths_append, ha, List.singleton_append] at h2
  rcases h2 with ⟨hn, -⟩ | ⟨auth', ha', -, hcid'⟩
  · cases hn
  · rw [hcid', ← (List.cons.inj ha').1, ← hcid, h]

end Server

end Canal
