import Canal.SessionTable

namespace Canal
set_option autoImplicit true

open KeyedLog

theorem lockedRead_some {s : MemoryEventStore} (h : s.lockedRead start n = (store, some events)) :
    start.readable s.buffer ≠ [] ∧
      events.events = page CanalEvent.key (max n 1) (start.readable s.buffer) ∧
      ∃ e, events.events.getLast? = some e ∧ events.positionRange.stop = e.logPosition := by
  rw [MemoryEventStore.lockedRead_eq] at h
  split at h
  · cases h
  rename_i hne
  cases h
  have hp : page CanalEvent.key (max n 1) (start.readable s.buffer) ≠ [] :=
    page_ne_nil (by omega) hne
  refine ⟨hne, rfl, ?_⟩
  obtain ⟨e, he⟩ := Option.ne_none_iff_exists'.1 (mt List.getLast?_eq_none_iff.1 hp)
  exact ⟨e, he, Events.withEvents_stop he _⟩

/-- The cursor of a connection stands at the end of a batch it has read, or at the point in time its
authentication asked for. -/
structure Connection.Positions (conn : Connection) (es : List Effect) : Prop where
  stop : ∀ b ∈ batches es, ∃ e, b.events.getLast? = some e ∧ b.positionRange.stop = e.logPosition
  acks : ∀ p ∈ acked es, ∃ b ∈ batches es, b.positionRange.stop = p
  cursor : ∀ p, conn.state.currentPos = some p →
    (∃ b ∈ batches es, b.positionRange.stop = p) ∨ batches es = [] ∧
      ∃ auth ∈ auths es, 0 < auth.startTimestamp ∧ p = timestampCursor auth.startTimestamp

namespace Connection.Positions

variable {conn conn' : Connection} {es es' : List Effect}

theorem init : Positions {} [] := ⟨nofun, nofun, nofun⟩

theorem stop_positional (h : Positions conn es) (hb : b ∈ batches es) :
    b.positionRange.stop.timestamp = none := by
  obtain ⟨e, -, he⟩ := h.stop b hb
  rw [he]
  rfl

theorem ack_positional (h : Positions conn es) (hp : p ∈ acked es) : p.timestamp = none := by
  obtain ⟨b, hb, rfl⟩ := h.acks p hp
  exact h.stop_positional hb

theorem frame (h : Positions conn es) (hb : batches es' = []) (hk : acked es' = [])
    (hc : conn'.state.currentPos = conn.state.currentPos) : Positions conn' (es ++ es') := by
  constructor
  · rw [batches_append, hb, List.append_nil]
    exact h.stop
  · rw [batches_append, acked_append, hb, hk, List.append_nil, List.append_nil]
    exact h.acks
  · rw [batches_append, hb, List.append_nil, hc, auths_append]
    intro p hp
    refine (h.cursor p hp).imp_right fun ⟨hn, auth, ha, ht⟩ => ⟨hn, auth, ?_, ht⟩
    exact List.mem_append_left _ ha

theorem turn (h : Positions (s.conns c) es) (hx : (s.conns c).Explained es)
    (ht : Turn lib s c a conn ss store es') : Positions conn (es ++ es') := by
  have hsends : ∀ {es : List Effect}, (∀ e ∈ es, ∃ r, e = .send r) →
      batches es = [] ∧ acked es = [] := fun hes =>
    ⟨filterMap_sends (fun _ => rfl) hes, filterMap_sends (fun _ => rfl) hes⟩
  cases ht with
  | idle | stage | awaiting | timedOut | left => exact h.frame rfl rfl rfl
  | quiet hf hw hp unknown acks | refused hf hw hp h3 acks =>
    obtain ⟨hb, hk⟩ := hsends (acks_sends acks)
    exact h.frame hb hk rfl
  | subscribed hf hauth hid hfilter hp acks =>
    obtain ⟨hb, hk⟩ := hsends (acks_sends acks)
    exact h.frame hb hk rfl
  | answered hg hp sent hs =>
    obtain ⟨hb, hk⟩ := hsends (messages_sends sent)
    exact h.frame hb hk rfl
  | authenticated hf hauth hpw hfilter hp acks =>
    obtain ⟨hb, hk⟩ := hsends (acks_sends acks)
    have hnil : batches es = [] := by
      cases hlast : (batches es).getLast? with
      | none => exact List.getLast?_eq_none_iff.1 hlast
      | some b => exact absurd ((hx.of_batches hlast).symm.trans hauth) nofun
    rename_i auth tx phase filter
    have h' : Positions (s.conns c)
        (es ++ (.authenticate auth :: .register auth.effectiveId filter :: acks.map Effect.ack)) :=
      h.frame hb hk rfl
    refine ⟨h'.stop, h'.acks, fun p hpos => ?_⟩
    simp only at hpos
    split at hpos
    · rename_i hts
      refine .inr ⟨by rw [batches_append, hnil]; exact hb, auth, ?_, hts,
        (Option.some.inj hpos).symm⟩
      rw [auths_append]
      exact List.mem_append_right _ (List.mem_cons_self ..)
    · exact h'.cursor p hpos
  | acked hf hauth hcid hpos hid =>
    rename_i cid pos tx ack
    have hn : batches [.updateAck cid pos] = [] := rfl
    have hs := h.stop
    have hc := h.cursor
    refine ⟨?_, ?_, ?_⟩ <;> rw [batches_append, hn, List.append_nil]
    · exact hs
    · rw [hx.endPos, Option.map_eq_some_iff] at hpos
      obtain ⟨b, hb, rfl⟩ := hpos
      intro p hp
      rw [acked_append, List.mem_append] at hp
      rcases hp with hp | hp
      · exact h.acks p hp
      · exact ⟨b, List.mem_of_getLast? hb, (List.mem_singleton.1 hp).symm⟩
    · rw [auths_append]
      intro p hp
      refine (hc p hp).imp_right fun ⟨hn, auth, ha, ht⟩ => ⟨hn, auth, ?_, ht⟩
      exact List.mem_append_left _ ha
  | rolledBack hf hauth =>
    rw [List.append_nil]
    refine ⟨h.stop, h.acks, fun p hp => .inl (h.acks p ?_)⟩
    exact List.mem_of_getLast? (hx.ackPos.symm.trans hp)
  | served hg hr hne =>
    rename_i cid call events
    have hbatch : batches [.getBatch call.start events] = [events] := by
      rw [batches, List.filterMap_cons_some (Effect.batchRead_some hne), List.filterMap_nil]
    have hack : Canal.acked [.getBatch call.start events] = [] := rfl
    constructor <;> rw [batches_append, hbatch]
    · intro b hb
      rcases List.mem_append.1 hb with hb | hb
      · exact h.stop b hb
      · rw [List.mem_singleton.1 hb]
        exact (lockedRead_some hr).2.2
    · rw [acked_append, hack, List.append_nil]
      exact fun p hp => (h.acks p hp).imp fun b hb => ⟨List.mem_append_left _ hb.1, hb.2⟩
    · rintro p ⟨⟩
      exact .inl ⟨events, List.mem_append_right _ (List.mem_singleton_self _), rfl⟩

end Connection.Positions

namespace Server

theorem positions (lib : Crates) (cap : Nat) (authToken : Option String) (d : Bool)
    (as : List Action) (c : Nat) :
    ((Run.final (step lib) (.new cap authToken d) as).conns c).Positions
      (trace c (Run.outputs (step lib) (.new cap authToken d) as)) := by
  have h := conn_invariant lib (.new cap authToken d) c
    (I := fun conn es => conn.Explained es ∧ conn.Positions es) ⟨.init, .init⟩ ?_ ?_ as
  · exact h.2
  · rintro conn es ⟨hx, h⟩
    exact ⟨hx.notify, h.stop, h.acks, conn.notify_state ▸ h.cursor⟩
  · rintro t a conn ss store es es' - ht ⟨hx, h⟩
    exact ⟨hx.turn ht, h.turn hx ht⟩

end Server

end Canal
