import Canal.Feed

namespace Canal
set_option autoImplicit true

open KeyedLog

/-- No packet but a Get arrives on connection `c`. -/
def Action.Fetches (c : Nat) (a : Action) : Prop :=
  ∀ frame tx, a = .receive c frame tx → ∃ n, frame = .fetch n

/-- What a turn does on such a connection. -/
inductive Fetched (s : Server) (c : Nat) :
    Action → Connection → MemoryEventStore → List Effect → Prop
  | waits {es : List Effect} (unknown : Nat)
      (hg : ∀ cid call, phase = .get cid call →
        ∃ call', (s.conns c).phase = .get cid call' ∧ call.start = call'.start)
      (hb : batches es = []) :
      Fetched s c a { state := { (s.conns c).state with unknownPacketCount := unknown }, phase }
        s.store es
  | calls (hf : (s.conns c).phase = .frame) (hcid : (s.conns c).state.clientId = some cid)
      (hlost : lostWatermark (s.conns c).state s.sessions s.store cid = none) (n : Nat) :
      Fetched s c (.receive c (.fetch size) tx)
        { state := { (s.conns c).state with unknownPacketCount := 0 }
          phase := .get cid
            { start := getStart (s.conns c).state s.sessions cid, batchSize := n } } s.store []
  | reads {es : List Effect} (hg : (s.conns c).phase = .get cid call)
      (hr : s.store.lockedRead call.start call.batchSize = (store, some events))
      (hp : ∀ cid call, phase ≠ .get cid call) (hb : batches es = [events]) :
      Fetched s c a
        { state := { (s.conns c).state with
            currentPos := some events.positionRange.stop
            lastGetBatchId := events.batchId
            lastGetEndPos := some events.positionRange.stop }, phase } store es

namespace Turn

theorem fetched (ht : Turn lib s c a conn ss store es) (hget : a.Fetches c) :
    ss = s.sessions ∧ Fetched s c a conn store es := by
  have hsends : ∀ {es : List Effect}, (∀ e ∈ es, ∃ r, e = .send r) → batches es = [] :=
    fun hes => filterMap_sends (fun _ => rfl) hes
  have closed : ∀ {phase : Phase}, phase.isGet = false → ∀ cid call, phase = .get cid call →
      ∃ call', (s.conns c).phase = .get cid call' ∧ call.start = call'.start :=
    fun hp _ _ hg => absurd hg (Phase.ne_get hp)
  cases ht with
  | idle => exact ⟨rfl, .waits _ (fun _ call hg => ⟨call, hg, rfl⟩) rfl⟩
  | stage hg =>
    refine ⟨rfl, .waits _ ?_ rfl⟩
    rintro _ _ ⟨⟩
    exact ⟨_, hg, rfl⟩
  | quiet hf hw hp unknown acks =>
    exact ⟨rfl, .waits _ (closed hp) (hsends (acks_sends acks))⟩
  | timedOut hg => exact ⟨rfl, .waits _ (fun _ _ hg => (by cases hg)) rfl⟩
  | answered hg hp sent =>
    exact ⟨rfl, .waits _ (closed hp) (hsends (messages_sends sent))⟩
  | awaiting hf hauth hcid hlost => exact ⟨rfl, .calls hf hcid hlost _⟩
  | served hg hr hne =>
    refine ⟨rfl, .reads hg hr (fun _ _ hg => (by cases hg)) ?_⟩
    rw [batches, List.filterMap_cons_some (Effect.batchRead_some hne), List.filterMap_nil]
  | refused hf hw =>
    obtain ⟨n, rfl⟩ := hget _ _ rfl
    cases hw
  | authenticated | subscribed | acked | rolledBack =>
    obtain ⟨n, hn⟩ := hget _ _ rfl
    cases hn
  | left hf hcid hframe =>
    obtain ⟨n, rfl⟩ := hget _ _ rfl
    rcases hframe with hframe | hframe <;> cases hframe

theorem read (ht : Turn lib s c a conn ss store es) (h : .getBatch start events ∈ es)
    (hne : events.isEmpty = false) :
    ∃ cid call, (s.conns c).phase = .get cid call ∧ call.start = start ∧
      s.store.lockedRead start call.batchSize = (store, some events) := by
  have hsend : ∀ r, Effect.getBatch start events ≠ .send r := nofun
  cases ht with
  | idle | stage | rolledBack | awaiting => cases h
  | acked | left => exact absurd (List.mem_singleton.1 h) nofun
  | quiet hf hw hp unknown acks => exact absurd h (not_mem_acks hsend acks)
  | refused hf hw hp h3 acks => exact absurd h (not_mem_acks hsend acks)
  | subscribed hf hauth hid hfilter hp acks | authenticated hf hauth hpw hfilter hp acks =>
    exact absurd h (by simpa using not_mem_acks hsend acks)
  | served hg hr =>
    cases List.mem_singleton.1 h
    exact ⟨_, _, hg, rfl, hr⟩
  | timedOut =>
    cases List.mem_singleton.1 h
    cases hne
  | answered hg hp sent => exact absurd h (not_mem_messages hsend sent)

end Turn

theorem Server.batches_fed (lib : Crates) (cap : Nat) (authToken : Option String) (d : Bool)
    (c : Nat) (hm : Ascending CanalEvent.key (fedBy as)) :
    ∀ b ∈ batches (trace c (Run.outputs (step lib) (.new cap authToken d) as)),
      b.events <:+: fedBy as := by
  induction as using List.reverseRecOn with
  | nil => exact fun b hb => absurd hb List.not_mem_nil
  | append_singleton as a ih =>
    rw [fedBy_concat] at hm ⊢
    rw [Run.outputs_concat, trace_append, batches_append]
    intro b hb
    have hstore := reflects lib cap authToken d hm.left
    rcases List.mem_append.1 hb with hb | hb
    · exact (ih hm.left b hb).trans (List.prefix_append ..).isInfix
    rcases step_conn lib (Run.final (step lib) (.new cap authToken d) as) a c with
      ⟨-, hn, -⟩ | ⟨-, ht⟩
    · rw [hn] at hb
      cases hb
    obtain ⟨e, he, hbatch⟩ := List.mem_filterMap.1 hb
    cases e with
    | getBatch start events =>
      cases hne : events.isEmpty with
      | true => simp [Effect.batchRead, hne] at hbatch
      | false =>
        rw [Effect.batchRead_some hne] at hbatch
        cases hbatch
        obtain ⟨cid, call, -, -, hr⟩ := ht.read he hne
        rw [(lockedRead_some hr).2.1]
        apply ((page_isPrefix _ _).isInfix.trans (start.readable_suffix _).isInfix).trans
        rw [hstore.buffer]
        exact (List.drop_suffix ..).isInfix.trans (List.prefix_append ..).isInfix
    | _ => cases hbatch

end Canal
