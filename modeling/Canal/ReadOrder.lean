import Canal.Delivery
import Canal.Feed

namespace Canal
set_option autoImplicit true

open KeyedLog

/-- No rollback arrives on connection `c`. -/
def Action.Forward (c : Nat) (a : Action) : Prop :=
  ∀ tx, a ≠ .receive c (.packet (.clientRollback (.ok ()))) tx

/-- A connection that has read `bs` in the order of the feed. -/
structure Reading (feed : List CanalEvent) (bs : List Events) (conn : Connection) : Prop where
  authenticated : bs ≠ [] → conn.state.authenticated = true
  cursor : ∀ p, lastEnd bs = some p → conn.state.currentPos = some p ∧ p.timestamp = none
  call : ∀ id call, conn.phase = .get id call → conn.state.authenticated = true ∧
    ∀ p, lastEnd bs = some p → call.start = p
  order : (delivered bs).Sublist feed
  past : ∀ p, lastEnd bs = some p → ∀ e ∈ delivered bs, e.key ≤ p.key

theorem lastEnd_eq_none (h : lastEnd bs = none) : bs = [] :=
  List.getLast?_eq_none_iff.1 (Option.map_eq_none_iff.1 h)

namespace Reading

theorem put (h : Reading feed bs conn) (events : List CanalEvent) :
    Reading (feed ++ events) bs conn :=
  { h with order := h.order.trans (List.sublist_append_left ..) }

theorem notify (h : Reading feed bs conn) : Reading feed bs conn.notify where
  authenticated hne := conn.notify_state ▸ h.authenticated hne
  cursor := conn.notify_state ▸ h.cursor
  call id call hg := by
    obtain ⟨call', hg', hs⟩ := Connection.notify_get hg
    rw [hs, conn.notify_state]
    exact h.call id call' hg'
  order := h.order
  past := h.past

theorem keep (h : Reading feed bs conn) (hb : batches es = [])
    (hauth : conn.state.authenticated = true → conn'.state.authenticated = true)
    (hpos : conn'.state.currentPos = conn.state.currentPos)
    (hcall : ∀ id call, conn'.phase = .get id call → conn'.state.authenticated = true ∧
      ∀ p, lastEnd bs = some p → call.start = p) :
    Reading feed (bs ++ batches es) conn' := by
  rw [hb, List.append_nil]
  exact ⟨fun hne => hauth (h.authenticated hne), hpos ▸ h.cursor, hcall, h.order, h.past⟩

theorem extend (h : Reading feed bs conn) {id : String} {call : GetBatch}
    {store store' : MemoryEventStore}
    (hstore : Reflects cap feed store) (hm : Ascending CanalEvent.key feed)
    (hg : conn.phase = .get id call)
    (hr : store.lockedRead call.start call.batchSize = (store', some events)) :
    (delivered bs ++ events.events).Sublist feed ∧
      ∀ e ∈ delivered bs ++ events.events, e.key ≤ events.positionRange.stop.key := by
  obtain ⟨-, hpage, last, hlast, hstop⟩ := lockedRead_some hr
  have hsub : store.buffer.Sublist feed := hstore.buffer ▸ List.drop_sublist ..
  have hread : events.events.Sublist (call.start.readable store.buffer) :=
    hpage ▸ (page_isPrefix _ _).sublist
  have hall : events.events.Sublist feed :=
    hread.trans ((call.start.readable_suffix _).sublist.trans hsub)
  have hle : ∀ e ∈ events.events, e.key ≤ events.positionRange.stop.key := by
    intro e he
    rw [hstop]
    exact (hm.sublist hall).le_last hlast he
  cases hp : lastEnd bs with
  | none =>
    rw [lastEnd_eq_none hp]
    exact ⟨hall, hle⟩
  | some p =>
    rw [(h.call id call hg).2 p hp, LogPosition.readable_positional (h.cursor p hp).2
      (hm.sublist hsub)] at hread
    have hbefore : (delivered bs).Sublist (upTo CanalEvent.key p.key feed) := by
      have hself := upTo_eq_self (h.past p hp)
      rw [← hself]
      exact h.order.filter _
    have hpast : events.events.Sublist (after CanalEvent.key p.key feed) :=
      hread.trans (hsub.filter _)
    constructor
    · rw [← hm.upTo_append_after p.key]
      exact hbefore.append hpast
    · intro e he
      rcases List.mem_append.1 he with he | he
      · have hnew := (mem_after.1 (hpast.mem (List.mem_of_getLast? hlast))).2
        exact (h.past p hp e he).trans (hnew.le.trans (hle last (List.mem_of_getLast? hlast)))
      · exact hle e he

theorem turn {s : Server} (h : Reading feed bs (s.conns c)) (hstore : Reflects cap feed s.store)
    (hm : Ascending CanalEvent.key feed) (hf : a.Forward c)
    (ht : Turn lib s c a conn ss store es) : Reading feed (bs ++ batches es) conn := by
  have hsends : ∀ {es : List Effect}, (∀ e ∈ es, ∃ r, e = .send r) → batches es = [] :=
    fun hes => filterMap_sends (fun _ => rfl) hes
  have closed : ∀ {phase : Phase} {st : ClientState}, phase.isGet = false → ∀ id call,
      phase = .get id call → st.authenticated = true ∧ ∀ p, lastEnd bs = some p → call.start = p :=
    fun hp _ _ hg => absurd hg (Phase.ne_get hp)
  cases ht with
  | idle => exact h.keep rfl id rfl h.call
  | stage hg =>
    have hcall := h.call _ _ hg
    refine h.keep rfl id rfl ?_
    rintro _ _ ⟨⟩
    exact hcall
  | quiet hf hw hp unknown acks => exact h.keep (hsends (acks_sends acks)) id rfl (closed hp)
  | refused hf hw hp h3 acks => exact h.keep (hsends (acks_sends acks)) id rfl (closed hp)
  | subscribed hf hauth hid hfilter hp acks =>
    have hb : batches (acks.map Effect.ack) = [] := hsends (acks_sends acks)
    exact h.keep hb id rfl (closed hp)
  | authenticated hf hauth hpw hfilter hp acks =>
    have hnil : bs = [] := by
      by_contra hne
      exact absurd (hauth.symm.trans (h.authenticated hne)) (by decide)
    have hb : batches (acks.map Effect.ack) = [] := hsends (acks_sends acks)
    rw [hnil, batches, List.filterMap_cons_none rfl, List.filterMap_cons_none rfl, ← batches, hb]
    exact ⟨fun _ => rfl, fun p hp => absurd hp (Option.some_ne_none p).symm,
      fun _ _ hg => absurd hg (Phase.ne_get hp), List.nil_sublist _,
      fun p hp => absurd hp (Option.some_ne_none p).symm⟩
  | acked hf hauth hcid hpos hid => exact h.keep rfl id rfl (closed rfl)
  | rolledBack => exact absurd rfl (hf _)
  | awaiting hf hauth hcid hlost =>
    refine h.keep rfl id rfl ?_
    rintro _ _ ⟨⟩
    refine ⟨hauth, fun p hp => ?_⟩
    rw [getStart, ownCursor, (h.cursor p hp).1, Option.some_or, Option.getD_some]
  | timedOut hg => exact h.keep rfl id rfl fun _ _ hg => (by cases hg)
  | answered hg hp sent =>
    have hb : batches (sent.map Effect.messages) = [] := hsends (messages_sends sent)
    exact h.keep hb id rfl (closed hp)
  | left => exact h.keep rfl id rfl (closed rfl)
  | served hg hr hne =>
    obtain ⟨horder, hpast⟩ := h.extend hstore hm hg hr
    obtain ⟨-, -, last, -, hstop⟩ := lockedRead_some hr
    rw [batches, List.filterMap_cons_some (Effect.batchRead_some hne), List.filterMap_nil]
    refine ⟨fun _ => (h.call _ _ hg).1, ?_, fun _ _ hg' => (by cases hg'), ?_, ?_⟩
    · rw [lastEnd_concat]
      rintro p ⟨⟩
      exact ⟨rfl, by rw [hstop]; rfl⟩
    · rw [delivered_concat]
      exact horder
    · rw [lastEnd_concat, delivered_concat]
      rintro p ⟨⟩
      exact hpast

theorem step {s : Server} (h : Reading feed bs (s.conns c)) (hstore : Reflects cap feed s.store)
    (hm : Ascending CanalEvent.key feed) (hf : a.Forward c) (lib : Crates) :
    Reading (feed ++ a.fed) (bs ++ batches (trace c (s.step lib a).2))
      ((s.step lib a).1.conns c) := by
  rcases s.step_conn lib a c with ⟨-, htr, hc⟩ | ⟨hactor, ht⟩
  · rw [htr, batches_nil, List.append_nil]
    rcases hc with hc | hc
    · rw [hc]
      exact h.put a.fed
    · rw [hc]
      exact (h.put a.fed).notify
  · rw [Action.fed_of_actor hactor, List.append_nil]
    exact h.turn hstore hm hf ht

theorem new (cap : Nat) (authToken : Option String) (d : Bool) (c : Nat) :
    Reading [] [] ((Server.new cap authToken d).conns c) where
  authenticated hne := absurd rfl hne
  cursor p hp := absurd hp (Option.some_ne_none p).symm
  call _ _ hg := by cases hg
  order := List.Sublist.refl _
  past p hp := absurd hp (Option.some_ne_none p).symm

end Reading

/-- A connection on which no rollback arrives is given the feed in its order and nothing twice,
whatever the other connections do and however much the store evicts. -/
theorem reads_in_order (lib : Crates) (cap : Nat) (authToken : Option String) (d : Bool)
    (as : List Action) (c : Nat) (hno : ∀ a ∈ as, a.Forward c)
    (hm : Ascending CanalEvent.key (fedBy as)) :
    (delivered (batches (trace c
      (Run.outputs (Server.step lib) (.new cap authToken d) as)))).Sublist (fedBy as) := by
  suffices h : Reading (fedBy as)
      (batches (trace c (Run.outputs (Server.step lib) (.new cap authToken d) as)))
      ((Run.final (Server.step lib) (.new cap authToken d) as).conns c) from h.order
  induction as using List.reverseRecOn with
  | nil => exact Reading.new cap authToken d c
  | append_singleton as a ih =>
    rw [fedBy_concat] at hm ⊢
    rw [Run.final_concat, Run.outputs_concat, trace_append, batches_append]
    have hstore := Server.reflects lib cap authToken d hm.left
    have hread := ih (fun b hb => hno b (List.mem_append_left _ hb)) hm.left
    exact hread.step hstore hm.left
      (hno a (List.mem_append_right _ (List.mem_singleton_self _))) lib

/-- A connection that reads from a store for two rows while four are put, beside one that reads
none. -/
theorem reads_in_order_evicting :
    let as : List Action := [.receive 0 (.login "app" "" 0) none,
      .receive 1 (.login "other" "" 0) none,
      .putBatch [storedEvent 100, storedEvent 200, storedEvent 300],
      .receive 0 (.fetch 1) none, .arm 0, .check 0, .putBatch [storedEvent 400], .answer 0 none,
      .receive 1 .rollback none, .receive 0 (.fetch 10) none, .arm 0, .check 0, .answer 0 none]
    let read := delivered (batches (trace 0
      (Run.outputs (Server.step .literal) (.new 2 none true) as)))
    read = [storedEvent 200, storedEvent 300, storedEvent 400] ∧ read.Sublist (fedBy as) := by
  intro as read
  refine ⟨by decide, reads_in_order .literal 2 none true as 0 ?_ (by unfold Ascending; decide)⟩
  simp [as, Action.Forward, Frame.login, Frame.fetch, Frame.rollback]

/-- After a rollback the same event comes again. -/
example : delivered (batches (trace 0 (Run.outputs (Server.step .literal) (.new 8 none true)
    (readOne ++ [.receive 0 .rollback none, .receive 0 (.fetch 10) none, .arm 0, .check 0])))) =
    [storedEvent 100, storedEvent 100] := by decide

end Canal
