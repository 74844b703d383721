import Canal.Delivery
import Canal.Gaps
import Canal.Resume

namespace Canal
set_option autoImplicit true

open KeyedLog

/-- What is left of a stretch of events for a reader that has come to `pos`. -/
def remaining (pos : Option LogPosition) (events : List CanalEvent) : List CanalEvent :=
  match pos with
  | none => events
  | some p => after CanalEvent.key p.key events

/-- A put while a Get of connection `c` is being handled evicts nothing. -/
def Server.Spares (s : Server) (c : Nat) (a : Action) : Prop :=
  ∀ events cid call, a = .putBatch events → (s.conns c).phase = .get cid call →
    s.store.buffer.length + events.length ≤ s.store.capacity

theorem Server.spares_of_frame {s : Server} (h : (s.conns c).phase = .frame) : s.Spares c a := by
  intro events cid call _ hg
  rw [h] at hg
  cases hg

theorem Server.spares_of_actor {s : Server} (h : a.actor = some c') : s.Spares c a := by
  rintro events cid call rfl
  cases h

/-- A Get that is handled on connection `c` without a cursor finds the stretches whole in the buffer
and above the position where it starts. -/
def Server.Holds (s : Server) (c : Nat) (stretches : List (List CanalEvent)) (a : Action) : Prop :=
  ∀ n tx, a = .receive c (.fetch n) tx → (s.conns c).phase = .frame →
    (s.conns c).state.currentPos = none →
    ∀ u ∈ stretches, u <:+: s.store.buffer ∧ ∀ e ∈ u, defaultStart.key < e.key

/-- The batches `again` redeliver the stretches: they begin no later than any of them, they run
through a window of the feed that holds them all, and a running Get finds what is left of them. -/
structure Redelivered (feed : List CanalEvent) (stretches : List (List CanalEvent))
    (again : List Events) (conn : Connection) (store : MemoryEventStore) : Prop where
  first : ∀ r ∈ (delivered again).head?, ∀ u ∈ stretches, ∀ e ∈ u, r.key ≤ e.key
  through : ∀ p ∈ lastEnd again, ∃ w, w <:+: feed ∧ (∀ u ∈ stretches, u <:+: w) ∧
    Through CanalEvent.key p.key w (delivered again)
  left : ∀ cid call, conn.phase = .get cid call → ∀ u ∈ stretches,
    remaining (lastEnd again) u <:+: call.start.readable store.buffer

theorem Reflects.fits {s : MemoryEventStore} (h : Reflects cap history s)
    (hfit : s.buffer.length + events.length ≤ s.capacity) :
    retain cap (history ++ events) = s.buffer ++ events ∧
      dropped cap (history ++ events) = dropped cap history := by
  have hlen : (retain cap history ++ events).length ≤ cap := by
    rw [← h.buffer, ← h.capacity, List.length_append]
    exact hfit
  constructor
  · rw [← retain_append, retain_eq_self hlen, h.buffer]
  · rw [dropped_append, dropped_eq_nil hlen, List.append_nil]

/-- A connection that has read `again` since a rollback to `lastAck`. -/
structure Redelivery (cap : Nat) (cid : String) (lastAck : Option LogPosition)
    (stretches : List (List CanalEvent)) (feed : List CanalEvent) (again : List Events)
    (conn : Connection) (store : MemoryEventStore) : Prop where
  stored : Reflects cap feed store
  clientId : conn.state.clientId = some cid
  ackPos : conn.state.lastAckPos = lastAck
  cursor : conn.state.currentPos = (lastEnd again).or lastAck
  fed : ∀ u ∈ stretches, u <:+: feed
  start : ∀ id call, conn.phase = .get id call →
    call.start = ((lastEnd again).or lastAck).getD defaultStart
  held : ∀ id call, conn.phase = .get id call → lastEnd again = none → ∀ u ∈ stretches,
    u <:+: after CanalEvent.key call.start.key store.buffer
  kept : ∀ id call, conn.phase = .get id call → ∀ p ∈ lastEnd again,
    ∀ e ∈ dropped cap feed, e.key ≤ p.key
  ends : ∀ p ∈ lastEnd again, p.timestamp = none ∧ delivered again ≠ []
  through : ∀ p ∈ lastEnd again, ∃ w, w <:+: feed ∧ (∀ u ∈ stretches, u <:+: w) ∧
    Through CanalEvent.key p.key w (delivered again)

namespace Redelivery

theorem start_positional (h : Redelivery cap cid lastAck stretches feed again conn store)
    (hack : ∀ p ∈ lastAck, p.timestamp = none) :
    (((lastEnd again).or lastAck).getD defaultStart).timestamp = none := by
  cases hp : lastEnd again with
  | some p => exact (h.ends p hp).1
  | none =>
    cases lastAck with
    | none => rfl
    | some q => exact hack q rfl

theorem redelivered (h : Redelivery cap cid lastAck stretches feed again conn store)
    (hm : Ascending CanalEvent.key feed) (hack : ∀ p ∈ lastAck, p.timestamp = none) :
    Redelivered feed stretches again conn store where
  first r hr u hu e he := by
    cases hp : lastEnd again with
    | none =>
      rw [lastEnd, Option.map_eq_none_iff, List.getLast?_eq_none_iff] at hp
      rw [hp] at hr
      cases hr
    | some p =>
      obtain ⟨w, hw, hin, ht⟩ := h.through p hp
      exact ht.head_le (hm.sublist hw.sublist) hr ((hin u hu).sublist.mem he)
  through := h.through
  left id call hg u hu := by
    have hts := h.start_positional hack
    have hstart := h.start id call hg
    rw [← hstart] at hts
    cases hp : lastEnd again with
    | none =>
      rw [LogPosition.readable_positional hts (h.stored.buffer_ascending hm)]
      exact h.held id call hg hp u hu
    | some p =>
      rw [hp, Option.some_or, Option.getD_some] at hstart
      rw [h.stored.read_eq hm hts (hstart ▸ h.kept id call hg p hp), hstart]
      exact (h.fed u hu).filter _

theorem init (hstored : Reflects cap feed store) (hid : conn.state.clientId = some cid)
    (hack : conn.state.lastAckPos = lastAck) (hcur : conn.state.currentPos = lastAck)
    (hp : conn.phase.isGet = false) (hfed : ∀ u ∈ stretches, u <:+: feed) :
    Redelivery cap cid lastAck stretches feed [] conn store where
  stored := hstored
  clientId := hid
  ackPos := hack
  cursor := hcur
  fed := hfed
  start _ _ hg := absurd hg (Phase.ne_get hp)
  held _ _ hg := absurd hg (Phase.ne_get hp)
  kept _ _ hg := absurd hg (Phase.ne_get hp)
  ends p hp := by cases hp
  through p hp := by cases hp

theorem frame {conn' : Connection} (h : Redelivery cap cid lastAck stretches feed again conn store)
    (hstored : Reflects cap feed store')
    (hs : conn'.state = { conn.state with unknownPacketCount := unknown })
    (hg : ∀ id call, conn'.phase = .get id call →
      ∃ call', conn.phase = .get id call' ∧ call.start = call'.start) :
    Redelivery cap cid lastAck stretches feed again conn' store' where
  stored := hstored
  clientId := hs ▸ h.clientId
  ackPos := hs ▸ h.ackPos
  cursor := hs ▸ h.cursor
  fed := h.fed
  start id call hc := by
    obtain ⟨call', hc', he⟩ := hg id call hc
    exact he.trans (h.start id call' hc')
  held id call hc := by
    obtain ⟨call', hc', he⟩ := hg id call hc
    rw [he, hstored.buffer, ← h.stored.buffer]
    exact h.held id call' hc'
  kept id call hc := by
    obtain ⟨call', hc', -⟩ := hg id call hc
    exact h.kept id call' hc'
  ends := h.ends
  through := h.through

theorem put {s : Server}
    (h : Redelivery cap cid lastAck stretches feed again (s.conns c) s.store)
    (hm : Ascending CanalEvent.key (feed ++ events)) (hfit : s.Spares c (.putBatch events))
    (lib : Crates) :
    let s' := (s.step lib (.putBatch events)).1
    Redelivery cap cid lastAck stretches (feed ++ events) again (s'.conns c) s'.store := by
  intro s'
  obtain ⟨hstate, hcall⟩ := Server.step_other (a := .putBatch events) (c := c) nofun lib s
  have hstored : Reflects cap (feed ++ events) s'.store := h.stored.putBatch hm s.debugAssertions
  have grows : ∀ {w}, w <:+: feed → w <:+: feed ++ events := fun hw =>
    hw.trans (List.prefix_append ..).isInfix
  refine ⟨hstored, hstate ▸ h.clientId, hstate ▸ h.ackPos, hstate ▸ h.cursor,
    fun u hu => grows (h.fed u hu), ?_, ?_, ?_, h.ends, fun p hp => ?_⟩
  · intro id call hg
    obtain ⟨call', hg', he⟩ := hcall id call hg
    exact he.trans (h.start id call' hg')
  · intro id call hg hn u hu
    obtain ⟨call', hg', he⟩ := hcall id call hg
    rw [he, hstored.buffer, (h.stored.fits (hfit events id call' rfl hg')).1, after_append]
    exact (h.held id call' hg' hn u hu).trans (List.prefix_append ..).isInfix
  · intro id call hg
    obtain ⟨call', hg', -⟩ := hcall id call hg
    rw [(h.stored.fits (hfit events id call' rfl hg')).2]
    exact h.kept id call' hg'
  · obtain ⟨w, hw, hin, ht⟩ := h.through p hp
    exact ⟨w, grows hw, hin, ht⟩

theorem calls {s : Server} (h : Redelivery cap cid lastAck stretches feed again (s.conns c) s.store)
    (hm : Ascending CanalEvent.key feed) (hack : ∀ p ∈ lastAck, p.timestamp = none)
    (hpast : ∀ p ∈ lastAck, ∀ u ∈ stretches, ∀ e ∈ u, p.key < e.key)
    (hforgot : (s.conns c).state.currentPos = none → s.sessions.ack cid = none)
    (hholds : s.Holds c stretches (.receive c (.fetch size) tx))
    (hf : (s.conns c).phase = .frame)
    (hlost : lostWatermark (s.conns c).state s.sessions s.store cid = none) :
    getStart (s.conns c).state s.sessions cid = ((lastEnd again).or lastAck).getD defaultStart ∧
      (lastEnd again = none → ∀ u ∈ stretches, u <:+: after CanalEvent.key
        (getStart (s.conns c).state s.sessions cid).key s.store.buffer) ∧
      ∀ p ∈ lastEnd again, ∀ e ∈ dropped cap feed, e.key ≤ p.key := by
  cases hcur : (lastEnd again).or lastAck with
  | none =>
    obtain ⟨hnone, rfl⟩ := Option.or_eq_none_iff.1 hcur
    have hpos := h.cursor.trans hcur
    have hown : ownCursor (s.conns c).state s.sessions cid = none := by
      rw [ownCursor, hpos, hforgot hpos, Option.or_none]
    obtain ⟨hstart, -⟩ := lostWatermark_default s.store hown
    refine ⟨hstart, fun _ u hu => ?_, fun p hp => ?_⟩
    case refine_2 =>
      rw [hnone] at hp
      cases hp
    obtain ⟨hbuf, habove⟩ := hholds size tx rfl hf hpos u hu
    rw [hstart, ← after_eq_self habove]
    exact hbuf.filter _
  | some q =>
    have hts := h.start_positional hack
    rw [hcur, Option.getD_some] at hts
    have hown : ownCursor (s.conns c).state s.sessions cid = some q := by
      rw [ownCursor, h.cursor, hcur, Option.some_or]
    obtain ⟨hstart, hw⟩ := lostWatermark_own s.store hown hts
    rw [hw, h.stored.filter_watermark hm] at hlost
    refine ⟨hstart, fun hnone u hu => ?_, fun p hp => ?_⟩
    · rw [hnone, Option.none_or] at hcur
      rw [hstart, h.stored.buffer, after_retain hlost, ← after_eq_self (hpast q hcur u hu)]
      exact (h.fed u hu).filter _
    · rw [hp, Option.some_or, Option.some.injEq] at hcur
      rw [hcur]
      exact hlost

theorem read {s : Server} (h : Redelivery cap cid lastAck stretches feed again (s.conns c) s.store)
    (hm : Ascending CanalEvent.key feed) (hack : ∀ p ∈ lastAck, p.timestamp = none)
    (hg : (s.conns c).phase = .get cid' call)
    (hr : s.store.lockedRead call.start n = (store, some events)) :
    delivered (again ++ [events]) ≠ [] ∧ ∃ w, w <:+: feed ∧ (∀ u ∈ stretches, u <:+: w) ∧
      Through CanalEvent.key events.positionRange.stop.key w (delivered (again ++ [events])) := by
  obtain ⟨-, hpage, e, he, hstop⟩ := lockedRead_some hr
  have hasc := h.stored.buffer_ascending hm
  have hts := h.start_positional hack
  have hstart := h.start cid' call hg
  rw [← hstart] at hts
  have hne : events.events ≠ [] := List.ne_nil_of_mem (List.mem_of_getLast? he)
  rw [delivered_concat, hstop, CanalEvent.key_logPosition]
  refine ⟨List.append_ne_nil_of_right_ne_nil _ hne, ?_⟩
  rw [hpage] at he ⊢
  cases hp : lastEnd again with
  | none =>
    rw [LogPosition.readable_positional hts hasc] at he ⊢
    have hnil : delivered again = [] := by
      rw [lastEnd, Option.map_eq_none_iff, List.getLast?_eq_none_iff] at hp
      rw [hp]
      rfl
    refine ⟨after CanalEvent.key call.start.key s.store.buffer, ?_, h.held cid' call hg hp, ?_⟩
    · apply (hasc.after_suffix _).isInfix.trans
      rw [h.stored.buffer]
      exact (List.drop_suffix ..).isInfix
    · rw [hnil, List.nil_append]
      exact .first (hasc.sublist (hasc.after_suffix _).sublist) he
  | some p =>
    obtain ⟨w, hw, hin, ht⟩ := h.through p hp
    rw [hp, Option.some_or, Option.getD_some] at hstart
    rw [h.stored.read_eq hm hts (hstart ▸ h.kept cid' call hg p hp), hstart] at he ⊢
    exact ⟨w, hw, hin, ht.next (h.ends p hp).2 hm hw he⟩

theorem turn {s : Server} (h : Redelivery cap cid lastAck stretches feed again (s.conns c) s.store)
    (hm : Ascending CanalEvent.key feed) (hack : ∀ p ∈ lastAck, p.timestamp = none)
    (hpast : ∀ p ∈ lastAck, ∀ u ∈ stretches, ∀ e ∈ u, p.key < e.key)
    (hforgot : (s.conns c).state.currentPos = none → s.sessions.ack cid = none)
    (hholds : s.Holds c stretches a) (hget : a.Fetches c)
    (ht : Turn lib s c a conn ss store es) :
    Redelivery cap cid lastAck stretches feed (again ++ batches es) conn store := by
  obtain ⟨-, hf⟩ := ht.fetched hget
  cases hf with
  | waits unknown hg hb =>
    rw [hb, List.append_nil]
    exact h.frame h.stored rfl hg
  | calls hf hcid hlost n =>
    rw [h.clientId, Option.some.injEq] at hcid
    subst hcid
    obtain ⟨hstart, hheld, hkept⟩ := h.calls hm hack hpast hforgot hholds hf hlost
    rw [batches_nil, List.append_nil]
    refine ⟨h.stored, h.clientId, h.ackPos, h.cursor, h.fed, ?_, ?_, ?_, h.ends, h.through⟩
    · rintro id call ⟨⟩
      exact hstart
    · rintro id call ⟨⟩
      exact hheld
    · rintro id call ⟨⟩
      exact hkept
  | reads hg hr hp hb =>
    rename_i id call events phase
    obtain ⟨hne, hthrough⟩ := h.read hm hack hg hr
    obtain ⟨-, -, e, -, hstop⟩ := lockedRead_some hr
    have closed : ∀ {id' call'}, phase ≠ .get id' call' := hp _ _
    rw [hb]
    refine ⟨?_, h.clientId, h.ackPos, ?_, h.fed, fun _ _ hg' => absurd hg' closed,
      fun _ _ hg' => absurd hg' closed, fun _ _ hg' => absurd hg' closed, ?_, ?_⟩
    · rw [show store = _ from (congrArg Prod.fst hr).symm]
      exact h.stored.lockedRead _ _
    · rw [lastEnd_concat]
      rfl
    · rw [lastEnd_concat]
      rintro p ⟨⟩
      exact ⟨by rw [hstop]; rfl, hne⟩
    · rw [lastEnd_concat]
      rintro p ⟨⟩
      exact hthrough

theorem ackPos_none (h : Redelivery cap cid lastAck stretches feed again conn store)
    (hcur : conn.state.currentPos = none) : conn.state.lastAckPos = none := by
  rw [h.cursor, Option.or_eq_none_iff] at hcur
  rw [h.ackPos, hcur.2]

theorem step {s : Server} (h : Redelivery cap cid lastAck stretches feed again (s.conns c) s.store)
    (hm : Ascending CanalEvent.key (feed ++ a.fed)) (hack : ∀ p ∈ lastAck, p.timestamp = none)
    (hpast : ∀ p ∈ lastAck, ∀ u ∈ stretches, ∀ e ∈ u, p.key < e.key)
    (hforgot : (s.conns c).state.lastAckPos = none → s.sessions.ack cid = none)
    (hfit : s.Spares c a) (hholds : s.Holds c stretches a) (hget : a.Fetches c) (lib : Crates) :
    Redelivery cap cid lastAck stretches (feed ++ a.fed)
      (again ++ batches (trace c (s.step lib a).2))
      ((s.step lib a).1.conns c) (s.step lib a).1.store := by
  cases hactor : a.actor with
  | none =>
    obtain ⟨events, rfl⟩ := Action.eq_putBatch hactor
    exact (List.append_nil again).symm ▸ h.put hm hfit lib
  | some c' =>
    have hstored := h.stored.step hm lib
    rw [Action.fed_of_actor hactor, List.append_nil] at hm hstored ⊢
    rcases s.step_conn lib a c with ⟨hne, hnone, -⟩ | ⟨-, ht⟩
    · have hc : c ≠ c' := fun hc => hne (hc ▸ hactor)
      rw [hnone, batches_nil, List.append_nil, Server.step_conn_of_ne hactor hc]
      exact h.frame hstored rfl fun _ call hg => ⟨call, hg, rfl⟩
    · exact h.turn hm hack hpast (fun hcur => hforgot (h.ackPos_none hcur)) hholds hget ht

theorem run {s₁ : Server}
    (h : Redelivery cap cid lastAck stretches history [] (s₁.conns c) s₁.store)
    (hm : Ascending CanalEvent.key (history ++ fedBy as)) (hack : ∀ p ∈ lastAck, p.timestamp = none)
    (hpast : ∀ p ∈ lastAck, ∀ u ∈ stretches, ∀ e ∈ u, p.key < e.key)
    (hforgot : Run.Along (Server.step lib) (fun _ s _ => (s.conns c).state.lastAckPos = none →
      s.sessions.ack cid = none) s₁ as)
    (hfit : Run.Along (Server.step lib) (fun _ s a => s.Spares c a) s₁ as)
    (hholds : Run.Along (Server.step lib) (fun _ s a => s.Holds c stretches a) s₁ as)
    (hget : ∀ a ∈ as, a.Fetches c) :
    let s := Run.final (Server.step lib) s₁ as
    Redelivery cap cid lastAck stretches (history ++ fedBy as)
      (batches (trace c (Run.outputs (Server.step lib) s₁ as))) (s.conns c) s.store := by
  induction as using List.reverseRecOn with
  | nil =>
    rw [fedBy_nil, List.append_nil]
    exact h
  | append_singleton as a ih =>
    rw [fedBy_concat, ← List.append_assoc] at hm ⊢
    rw [Run.final_concat, Run.outputs_concat, trace_append, batches_append]
    have ih := ih hm.left hforgot.left hfit.left hholds.left
      fun b hb => hget b (List.mem_append_left _ hb)
    exact ih.step hm hack hpast hforgot.last hfit.last hholds.last
      (hget a (List.mem_append_right _ (List.mem_singleton_self _))) lib

end Redelivery

theorem redelivery_init (lib : Crates) (cap : Nat) (authToken : Option String) (d : Bool)
    (pre : List Action) (c : Nat) (cid : String) (tx : Option CanalError) :
    let s := Run.final (Server.step lib) (.new cap authToken d) pre
    let es := trace c (Run.outputs (Server.step lib) (.new cap authToken d) pre)
    let lastAck := (acked es).getLast?
    let s₁ := (s.step lib (.receive c .rollback tx)).1
    (s.conns c).phase = .frame → (s.conns c).state.clientId = some cid →
    Ascending CanalEvent.key (fedBy pre) →
    Redelivery cap cid lastAck ((batches es).map fun b => remaining lastAck b.events) (fedBy pre) []
      (s₁.conns c) s₁.store := by
  intro s es lastAck s₁ hf hcid hm
  have hx := Server.explained lib cap authToken d pre c
  have hstored := Server.reflects lib cap authToken d hm
  have hs₁ : s₁ = _ :=
    congrArg Prod.fst (Server.step_rollback hf (hx.authenticated_iff.2 ⟨cid, hcid⟩) lib tx)
  rw [hs₁]
  simp only [Server.setConn, Function.update_self]
  refine .init hstored hcid hx.ackPos hx.ackPos rfl ?_
  intro u hu
  obtain ⟨b, hb, rfl⟩ := List.mem_map.1 hu
  have hfed := Server.batches_fed lib cap authToken d c hm b hb
  cases lastAck with
  | none => exact hfed
  | some p => exact ((hm.sublist hfed.sublist).after_suffix p.key).isInfix.trans hfed

/-- A Get that is handled without a cursor reads from the start, and with the stretches left there
it holds them. -/
theorem Redelivered.holds {s : Server}
    (h : Redelivery cap cid lastAck stretches feed again (s.conns c) s.store)
    (hm : Ascending CanalEvent.key feed) (hauth : (s.conns c).state.authenticated = true)
    (hforgot : (s.conns c).state.lastAckPos = none → s.sessions.ack cid = none)
    (hr : Redelivered feed' stretches (again ++ batches (trace c (s.step lib a).2))
      ((s.step lib a).1.conns c) (s.step lib a).1.store) : s.Holds c stretches a := by
  rintro n tx rfl hf hcur u hu
  have hown : ownCursor (s.conns c).state s.sessions cid = none := by
    rw [ownCursor, hcur, hforgot (h.ackPos_none hcur), Option.or_none]
  obtain ⟨hstart, hlost⟩ := lostWatermark_default s.store hown
  have hnone : lastEnd again = none := (Option.or_eq_none_iff.1 (h.cursor.symm.trans hcur)).1
  have hstep := Server.step_get_served { fetchSize := n } lib tx hf hauth h.clientId hlost
  rw [Frame.fetch, hstep, hstart] at hr
  have hleft := hr.left cid { start := defaultStart, batchSize := Get.batchSize { fetchSize := n } }
    (by simp only [Server.setConn, Function.update_self]) u hu
  have hbuf := h.stored.buffer_ascending hm
  rw [trace_nil, batches_nil, List.append_nil, hnone, show (s.setConn c _).store = s.store from rfl,
    LogPosition.readable_positional rfl hbuf] at hleft
  exact ⟨hleft.trans (hbuf.after_suffix _).isInfix, fun e he =>
    (mem_after.1 (hleft.sublist.mem he)).2⟩

/-- After a rollback the Gets of the connection redeliver what it had read and not acked, at every
point and however the store evicts between them, if and only if each of them that is handled without
a cursor finds all of it in the buffer and above the position where it starts. -/
theorem unacked_redelivered_iff (lib : Crates) (cap : Nat) (authToken : Option String) (d : Bool)
    (pre post : List Action) (c : Nat) (cid : String) (tx : Option CanalError) :
    let after := Run.final (Server.step lib) (.new cap authToken d)
    let es := trace c (Run.outputs (Server.step lib) (.new cap authToken d) pre)
    let unacked := (batches es).map fun b => remaining (acked es).getLast? b.events
    let s₁ := after (pre ++ [.receive c .rollback tx])
    let since := Run.final (Server.step lib) s₁
    let again := fun post' => batches (trace c (Run.outputs (Server.step lib) s₁ post'))
    ((after pre).conns c).phase = .frame → ((after pre).conns c).state.clientId = some cid →
    (∀ c', c' ≠ c → ((since post).conns c').state.clientId ≠ some cid) →
    Ascending CanalEvent.key (fedBy (pre ++ post)) → (∀ a ∈ post, a.Fetches c) →
    Run.Along (Server.step lib) (fun _ s a => s.Spares c a) s₁ post →
    ((∀ post', post' <+: post → Redelivered (fedBy (pre ++ post')) unacked (again post')
        ((since post').conns c) (since post').store) ↔
      Run.Along (Server.step lib) (fun _ s a => s.Holds c unacked a) s₁ post) := by
  intro after es unacked s₁ since again hf hcid hex hm hget hfit
  have hfeed : ∀ post', post' <+: post → Ascending CanalEvent.key (fedBy (pre ++ post')) :=
    fun post' hp => hm.sublist (fedBy_isPrefix ((List.prefix_append_right_inj pre).2 hp)).sublist
  have hstate : ∀ post', since post' = after (pre ++ [.receive c .rollback tx] ++ post') :=
    fun post' => (Run.final_append _ _).symm
  have hinit := redelivery_init lib cap authToken d pre c cid tx hf hcid
    (fedBy_append pre post ▸ hm).left
  have hs₁ : s₁ = ((after pre).step lib (.receive c .rollback tx)).1 := Run.final_concat
  rw [← hs₁] at hinit
  have hpos := Server.positions lib cap authToken d pre c
  have hack : ∀ p ∈ (acked es).getLast?, p.timestamp = none := fun p hp =>
    hpos.ack_positional (List.mem_of_getLast? hp)
  have hpast : ∀ p ∈ (acked es).getLast?, ∀ u ∈ unacked, ∀ e ∈ u, p.key < e.key := by
    intro p hp u hu e he
    obtain ⟨b, -, rfl⟩ := List.mem_map.1 hu
    rw [show (acked es).getLast? = some p from hp] at he
    exact (mem_after.1 he).2
  have hforgot : ∀ post', post' <+: post → ((since post').conns c).state.lastAckPos = none →
      (since post').sessions.ack cid = none := by
    rintro post' ⟨rest, rfl⟩
    rw [hstate]
    apply Server.ack_of_exclusive
    intro c' hc h
    apply hex c' hc
    rw [hstate, ← List.append_assoc]
    exact Server.clientId_persists h rest
  have along : ∀ post', post' <+: post →
      Run.Along (Server.step lib) (fun _ s a => s.Holds c unacked a) s₁ post' →
      Redelivery cap cid (acked es).getLast? unacked (fedBy (pre ++ post')) (again post')
        ((since post').conns c) (since post').store := by
    intro post' hp hh
    have hm := hfeed post' hp
    rw [fedBy_append] at hm ⊢
    refine hinit.run hm hack hpast ?_ (hfit.of_prefix hp) hh fun a ha => hget a (hp.subset ha)
    rintro p a q rfl
    exact hforgot p ((List.prefix_append ..).trans hp)
  constructor
  · intro hall
    apply Run.Along.of_prefixes
    intro post' a hpa hh
    have hp : post' <+: post := (List.prefix_append post' [a]).trans hpa
    have hr := along post' hp hh
    have hauth : ((since post').conns c).state.authenticated = true := by
      have hid := hr.clientId
      rw [hstate] at hid ⊢
      exact (Server.explained lib cap authToken d _ c).authenticated_iff.2 ⟨cid, hid⟩
    have hshown := hall _ hpa
    simp only [since, again, Run.final_concat, Run.outputs_concat, trace_append,
      batches_append] at hshown
    exact Redelivered.holds hr (hfeed post' hp) hauth (hforgot post' hp) hshown
  · intro hh post' hp
    exact (along post' hp (hh.of_prefix hp)).redelivered (hfeed post' hp) hack

/-- The consumer rolls back the row it has read, which the store still holds. -/
theorem unacked_redelivered_iff_kept :
    let unacked := [[storedEvent 100]]
    let s₁ := Run.final (Server.step .literal) (.new 2 none true)
      (readOne ++ [.receive 0 .rollback none])
    let post : List Action := [.putBatch [storedEvent 200], .receive 0 (.fetch 10) none, .arm 0,
      .check 0, .answer 0 none]
    let s := Run.final (Server.step .literal) s₁ post
    Redelivered [storedEvent 100, storedEvent 200] unacked
      (batches (trace 0 (Run.outputs (Server.step .literal) s₁ post))) (s.conns 0) s.store := by
  have h := unacked_redelivered_iff .literal 2 none true readOne
    [.putBatch [storedEvent 200], .receive 0 (.fetch 10) none, .arm 0, .check 0,
      .answer 0 none] 0 "app" none
    rfl rfl (fun c' hc => by
      rw [← Run.final_append, Server.final_state_of_not_actor
        (by simpa [readOne, Action.actor] using hc.symm)]
      intro hid
      cases hid) (by unfold Ascending; decide) (by simp [Action.Fetches, Frame.fetch])
    (.cons (Server.spares_of_frame rfl) (.cons (Server.spares_of_actor rfl)
      (.cons (Server.spares_of_actor rfl) (.cons (Server.spares_of_actor rfl)
        (.cons (Server.spares_of_actor rfl) .nil)))))
  refine h.2 (.cons ?_ (.cons ?_ (.cons ?_ (.cons ?_ (.cons ?_ .nil))))) _ (List.prefix_refl _)
  case refine_2 =>
    rintro n tx - - - u hu
    exact ⟨by revert u; decide, by revert u; decide⟩
  all_goals
    intro n tx ha
    cases ha

/-- Two rows are read and not acked, the store evicts the first, and after the rollback the consumer
is served from the second on, with no word of the loss. -/
theorem evicted_unacked_skipped :
    let run : List Action := [.receive 0 (.login "app" "" 0) none,
      .putBatch [storedEvent 100, storedEvent 200], .receive 0 (.fetch 10) none, .arm 0,
      .check 0, .answer 0 none, .putBatch [storedEvent 300], .receive 0 .rollback none,
      .receive 0 (.fetch 10) none, .arm 0, .check 0, .answer 0 none]
    let shown := Run.outputs (Server.step .literal) (.new 2 none true) run
    acked (trace 0 shown) = [] ∧
      (batches (trace 0 shown)).map Events.events =
        [[storedEvent 100, storedEvent 200], [storedEvent 200, storedEvent 300]] ∧
      (shown.countP fun
        | (0, .send (.ack a)) => a.errorCodePresent.isSome
        | _ => false) = 0 := by
  decide

end Canal
