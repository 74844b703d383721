import Canal.Trace

namespace Canal
set_option autoImplicit true

/-- What the writers of an entry left in it, and the connection that registered it. -/
structure Slot where
  owner : Nat
  filter : FilterPattern
  ackPos : Option LogPosition
deriving DecidableEq

def Slot.write (cid : String) (slot : Option Slot) (o : Nat × Effect) : Option Slot :=
  match o.2 with
  | .register id filter => if id = cid then some { owner := o.1, filter, ackPos := none } else slot
  | .unregister id => if id = cid then none else slot
  | .updateAck id pos =>
    if id = cid then slot.map fun s => { s with ackPos := some pos } else slot
  | _ => slot

/-- The entry under a client id after the effects of all connections. -/
def slot (cid : String) (os : List (Nat × Effect)) : Option Slot := os.foldl (Slot.write cid) none

@[simp] theorem slot_concat (cid : String) (os : List (Nat × Effect)) (o : Nat × Effect) :
    slot cid (os ++ [o]) = Slot.write cid (slot cid os) o := by
  rw [slot, List.foldl_append]
  rfl

/-- The session that a slot describes. -/
def Slot.Describes (lib : Crates) (cid : String) (sl : Slot) (session : ClientSession) : Prop :=
  ∃ destination, session =
    { ClientSession.new lib cid destination sl.filter with lastAckPosition := sl.ackPos }

theorem foldl_write_sends {es : List Effect} (h : ∀ e ∈ es, ∃ r, e = .send r) (c : Nat)
    (sl : Option Slot) : (es.map (c, ·)).foldl (Slot.write cid) sl = sl := by
  induction es generalizing sl with
  | nil => rfl
  | cons e es ih =>
    obtain ⟨r, rfl⟩ := h e (List.mem_cons_self ..)
    exact ih (fun e he => h e (List.mem_cons_of_mem _ he)) sl

theorem describes_register (lib : Crates) (ss : SessionManager) (c : Nat) (id destination : String)
    (filter : FilterPattern)
    (h : Option.Rel (Slot.Describes lib cid) sl (ss.get cid)) :
    Option.Rel (Slot.Describes lib cid) (Slot.write cid sl (c, .register id filter))
      ((ss.register lib id destination filter).get cid) := by
  by_cases he : id = cid
  · subst he
    simp only [Slot.write, ↓reduceIte, SessionManager.get_register_self]
    exact .some ⟨destination, rfl⟩
  · simp only [Slot.write, he, ↓reduceIte, SessionManager.get_register_of_ne (Ne.symm he)]
    exact h

theorem describes_unregister (ss : SessionManager) (c : Nat) (id : String)
    (h : Option.Rel (Slot.Describes lib cid) sl (ss.get cid)) :
    Option.Rel (Slot.Describes lib cid) (Slot.write cid sl (c, .unregister id))
      ((ss.unregister id).get cid) := by
  by_cases he : id = cid
  · subst he
    simp only [Slot.write, ↓reduceIte, SessionManager.get_unregister_self]
    exact .none
  · simp only [Slot.write, he, ↓reduceIte, SessionManager.get_unregister_of_ne (Ne.symm he)]
    exact h

theorem describes_updateAck (ss : SessionManager) (c : Nat) (id : String) (pos : LogPosition)
    (h : Option.Rel (Slot.Describes lib cid) sl (ss.get cid)) :
    Option.Rel (Slot.Describes lib cid) (Slot.write cid sl (c, .updateAck id pos))
      ((ss.updateAck id pos).get cid) := by
  by_cases he : id = cid
  · subst he
    simp only [Slot.write, ↓reduceIte, SessionManager.get_updateAck_self]
    generalize ss.get id = session at h ⊢
    cases h with
    | none => exact .none
    | some hd =>
      obtain ⟨destination, rfl⟩ := hd
      exact .some ⟨destination, rfl⟩
  · simp only [Slot.write, he, ↓reduceIte, SessionManager.get_updateAck_of_ne (Ne.symm he)]
    exact h

theorem Turn.describes (ht : Turn lib s c a conn ss store es)
    (h : Option.Rel (Slot.Describes lib cid) sl (s.sessions.get cid)) :
    Option.Rel (Slot.Describes lib cid) ((es.map (c, ·)).foldl (Slot.write cid) sl)
      (ss.get cid) := by
  cases ht with
  | idle | stage | rolledBack | awaiting | served | timedOut => exact h
  | quiet hf hw hp unknown acks | refused hf hw hp h3 acks =>
    rw [foldl_write_sends (acks_sends acks)]
    exact h
  | authenticated hf hauth hpw hfilter hp acks =>
    rw [List.map_cons, List.map_cons, List.foldl_cons, List.foldl_cons,
      foldl_write_sends (acks_sends acks)]
    exact describes_register lib _ _ _ _ _ h
  | subscribed hf hauth hid hfilter hp acks =>
    rw [List.map_cons, List.foldl_cons, foldl_write_sends (acks_sends acks)]
    exact describes_register lib _ _ _ _ _ h
  | acked => exact describes_updateAck _ c _ _ h
  | answered hg hp sent =>
    rw [foldl_write_sends (messages_sends sent)]
    exact h
  | left => exact describes_unregister _ c _ h

theorem Server.sessions_slot (lib : Crates) (cap : Nat) (authToken : Option String) (d : Bool)
    (as : List Action) (cid : String) :
    Option.Rel (Slot.Describes lib cid)
      (slot cid (Run.outputs (step lib) (.new cap authToken d) as))
      ((Run.final (step lib) (.new cap authToken d) as).sessions.get cid) := by
  refine Run.history_invariant (step lib) (.new cap authToken d) (I := fun _ os t =>
    Option.Rel (Slot.Describes lib cid) (slot cid os) (t.sessions.get cid)) .none ?_ as
  intro as os t a h
  rcases t.step_cases lib a with ⟨events, -, he⟩ | ⟨c, -, conn, ss, store, es, ht, he⟩
  · rw [he, List.append_nil]
    exact h
  · rw [he, slot, List.foldl_append]
    exact ht.describes h

/-- Nobody writes the session table under two client ids. -/
def SingleId (os : List (Nat × Effect)) : Prop :=
  ∀ c, ∀ i ∈ written (trace c os), ∀ j ∈ written (trace c os), i = j

theorem SingleId.left (h : SingleId (os ++ os')) : SingleId os := by
  intro c i hi j hj
  apply h c i _ j _ <;> rw [trace_append, written_append]
  · exact List.mem_append_left _ hi
  · exact List.mem_append_left _ hj

@[simp] theorem trace_self (c : Nat) (e : Effect) : trace c [(c, e)] = [e] := trace_own [e]

theorem trace_ne (h : c' ≠ c) (e : Effect) : trace c [(c', e)] = [] := trace_other h [e]

/-- Connection `c` writes under the client id `cid`, and `x` is the last of its effects that `f`
sees. -/
def Latest (f : Effect → Option α) (os : List (Nat × Effect)) (cid : String) (c : Nat) (x : α) :
    Prop :=
  cid ∈ written (trace c os) ∧ ((trace c os).filterMap f).getLast? = some x

namespace Latest

variable {f : Effect → Option α}

theorem new (hf : f e = some x) (hw : e.sessionWritten = some cid) (os : List (Nat × Effect))
    (c : Nat) : Latest f (os ++ [(c, e)]) cid c x := by
  constructor
  · rw [trace_append, written_append, trace_self]
    exact List.mem_append_right _ (by simp [written, hw])
  · rw [trace_append, trace_self, List.filterMap_append, List.getLast?_append]
    simp [hf]

theorem concat (h : Latest f os cid c x) (hown : SingleId (os ++ [(c', e)]))
    (he : ∀ y, f e = some y → ∃ id, e.sessionWritten = some id ∧ id ≠ cid) :
    Latest f (os ++ [(c', e)]) cid c x := by
  by_cases hc : c' = c
  · subst hc
    have hcid : cid ∈ written (trace c' (os ++ [(c', e)])) := by
      rw [trace_append, written_append]
      exact List.mem_append_left _ h.1
    refine ⟨hcid, ?_⟩
    cases hf : f e with
    | none =>
      rw [trace_append, trace_self, List.filterMap_append, List.filterMap_cons_none hf,
        List.filterMap_nil, List.append_nil]
      exact h.2
    | some y =>
      obtain ⟨id, hid, hne⟩ := he y hf
      have hw : id ∈ written (trace c' (os ++ [(c', e)])) := by
        rw [trace_append, written_append, trace_self]
        exact List.mem_append_right _ (by simp [written, hid])
      exact absurd (hown c' id hw cid hcid) hne
  · unfold Latest
    rw [trace_append, trace_ne hc, List.append_nil]
    exact h

end Latest

/-- Who is behind an entry of the table, when nobody writes under two client ids: the filter is the
last that its owner got accepted, and the ack position is the last of one of its writers. -/
theorem slot_some {os : List (Nat × Effect)} (hown : SingleId os) (h : slot cid os = some sl) :
    Latest Effect.filterAccepted os cid sl.owner sl.filter ∧
      ∀ p, sl.ackPos = some p → ∃ c, Latest Effect.ackedTo os cid c p := by
  induction os using List.reverseRecOn generalizing sl with
  | nil => cases h
  | append_singleton os o ih =>
    obtain ⟨c', e⟩ := o
    rw [slot_concat] at h
    have keep : slot cid os = some sl →
        (∀ f, e.filterAccepted = some f → ∃ id, e.sessionWritten = some id ∧ id ≠ cid) →
        (∀ p, e.ackedTo = some p → ∃ id, e.sessionWritten = some id ∧ id ≠ cid) →
        Latest Effect.filterAccepted (os ++ [(c', e)]) cid sl.owner sl.filter ∧
          ∀ p, sl.ackPos = some p → ∃ c, Latest Effect.ackedTo (os ++ [(c', e)]) cid c p := by
      intro hs hf hk
      obtain ⟨h1, h2⟩ := ih hown.left hs
      exact ⟨h1.concat hown hf, fun p hp => (h2 p hp).imp fun c hc => hc.concat hown hk⟩
    cases e with
    | send | authenticate | getBatch => exact keep h nofun nofun
    | register id filter =>
      by_cases hid : id = cid
      · subst hid
        simp only [Slot.write, ↓reduceIte, Option.some.injEq] at h
        subst h
        exact ⟨Latest.new (f := Effect.filterAccepted) rfl rfl os c', nofun⟩
      · simp only [Slot.write, hid, ↓reduceIte] at h
        exact keep h (fun f _ => ⟨id, rfl, hid⟩) nofun
    | unregister id =>
      by_cases hid : id = cid
      · simp only [Slot.write, hid, ↓reduceIte] at h
        cases h
      · simp only [Slot.write, hid, ↓reduceIte] at h
        exact keep h nofun nofun
    | updateAck id pos =>
      by_cases hid : id = cid
      · subst hid
        simp only [Slot.write, ↓reduceIte, Option.map_eq_some_iff] at h
        obtain ⟨sl', hs, rfl⟩ := h
        refine ⟨(ih hown.left hs).1.concat hown nofun, ?_⟩
        intro p hp
        cases hp
        exact ⟨c', Latest.new (f := Effect.ackedTo) rfl rfl os c'⟩
      · simp only [Slot.write, hid, ↓reduceIte] at h
        exact keep h nofun fun p _ => ⟨id, rfl, hid⟩

namespace Server

variable (lib : Crates) (cap : Nat) (authToken : Option String) (d : Bool) (as : List Action)

theorem singleId : SingleId (Run.outputs (step lib) (.new cap authToken d) as) := by
  intro c i hi j hj
  have hx := (explained lib cap authToken d as c).written
  exact Option.some.inj (((hx i).1 hi).symm.trans ((hx j).1 hj))

theorem ack_eq_slot (cid : String) :
    (Run.final (step lib) (.new cap authToken d) as).sessions.ack cid =
      (slot cid (Run.outputs (step lib) (.new cap authToken d) as)).bind Slot.ackPos := by
  have hd := sessions_slot lib cap authToken d as cid
  unfold SessionManager.ack
  generalize slot cid _ = sl at hd ⊢
  generalize SessionManager.get _ cid = session at hd ⊢
  cases hd with
  | none => rfl
  | some h =>
    obtain ⟨destination, rfl⟩ := h
    rfl

theorem exists_of_ack
    (h : (Run.final (step lib) (.new cap authToken d) as).sessions.ack cid = some p) :
    ∃ c, ((Run.final (step lib) (.new cap authToken d) as).conns c).state.clientId = some cid ∧
      ((Run.final (step lib) (.new cap authToken d) as).conns c).state.lastAckPos = some p := by
  rw [ack_eq_slot, Option.bind_eq_some_iff] at h
  obtain ⟨sl, hs, hp⟩ := h
  obtain ⟨c, hw, hl⟩ := (slot_some (singleId lib cap authToken d as) hs).2 p hp
  have hx := explained lib cap authToken d as c
  exact ⟨c, (hx.written cid).1 hw, hx.ackPos.trans hl⟩

end Server

/-- An open connection under the client id. -/
def Server.Live (s : Server) (cid : String) (c : Nat) : Prop :=
  (s.conns c).state.clientId = some cid ∧ ∀ r, (s.conns c).phase ≠ .closed r

/-- No two open connections share the client id. -/
def Server.OneAtATime (s : Server) (cid : String) : Prop :=
  ∀ c c', s.Live cid c → s.Live cid c' → c = c'

/-- The client of connection `c` hangs up or has been silent for too long. -/
def Action.Leaves (c : Nat) (a : Action) : Prop :=
  ∃ frame tx, a = .receive c frame tx ∧ (frame = .endOfStream ∨ frame = .idleTimeout)

theorem Turn.get_isSome (ht : Turn lib s c a conn ss store es)
    (h : (s.sessions.get cid).isSome = true) :
    (ss.get cid).isSome = true ∨
      s.Live cid c ∧ a.Leaves c ∧ ∃ r, conn.phase = .closed r := by
  have hreg : ∀ id d f, ((s.sessions.register lib id d f).get cid).isSome = true := by
    intro id d f
    by_cases he : cid = id
    · rw [he, SessionManager.get_register_self]
      rfl
    · rw [SessionManager.get_register_of_ne he]
      exact h
  cases ht with
  | idle | stage | rolledBack | awaiting | quiet | refused | served | timedOut | answered =>
    exact .inl h
  | authenticated | subscribed => exact .inl (hreg ..)
  | acked hf hauth hcid hpos hid =>
    rename_i id pos tx ack
    by_cases he : cid = id
    · left
      rw [he, SessionManager.get_updateAck_self, Option.isSome_map, ← he]
      exact h
    · left
      rw [SessionManager.get_updateAck_of_ne he]
      exact h
  | left hf hcid =>
    rename_i id frame tx hframe
    by_cases he : cid = id
    · exact .inr ⟨⟨he ▸ hcid, fun r hr => absurd (hf.symm.trans hr) nofun⟩,
        ⟨frame, tx, rfl, hframe⟩, _, rfl⟩
    · left
      rw [SessionManager.get_unregister_of_ne he]
      exact h

theorem Turn.of_closed (ht : Turn lib s c a conn ss store es)
    (hr : (s.conns c).phase = .closed r) : conn = s.conns c ∧ ss = s.sessions := by
  cases ht with
  | idle => exact ⟨rfl, rfl⟩
  | stage hp | quiet hp | refused hp | authenticated hp | subscribed hp | acked hp
  | rolledBack hp | awaiting hp | served hp | timedOut hp | answered hp | left hp =>
    rw [hr] at hp
    cases hp

theorem Turn.registered (ht : Turn lib s c a conn ss store es)
    (hcid : conn.state.clientId = some cid) :
    (s.conns c).state.clientId = some cid ∨ (ss.get cid).isSome = true := by
  cases ht with
  | idle | stage | served | timedOut | answered | quiet | refused | acked | rolledBack | awaiting
  | left => exact .inl hcid
  | authenticated | subscribed =>
    right
    rw [← Option.some.inj hcid, SessionManager.get_register_self]
    rfl

/-- While the connections under a client id follow one another, an open one has its session. -/
theorem Server.live_session {cap : Nat} {authToken : Option String} {d : Bool}
    (hone : Run.Along (step lib) (fun _ s _ => s.OneAtATime cid) (.new cap authToken d) as)
    (hlive : (Run.final (step lib) (.new cap authToken d) as).Live cid c) :
    ((Run.final (step lib) (.new cap authToken d) as).sessions.get cid).isSome = true := by
  induction as using List.reverseRecOn generalizing c with
  | nil => exact absurd hlive.1 nofun
  | append_singleton as a ih =>
    have hone' := hone.last
    rw [Run.final_concat] at hlive ⊢
    generalize Run.final (step lib) (.new cap authToken d) as = s at ih hlive hone' ⊢
    have ih : ∀ {c}, s.Live cid c → (s.sessions.get cid).isSome = true := ih hone.left
    rcases s.step_cases lib a with ⟨events, -, he⟩ | ⟨c', -, conn, ss, store, es, ht, he⟩
    · rw [he] at hlive ⊢
      apply ih (c := c)
      cases hn : (s.store.putBatch s.debugAssertions events).notified with
      | true =>
        simp only [Live, hn, ↓reduceIte, Connection.notify_state] at hlive
        exact ⟨hlive.1, fun r hr => hlive.2 r ((s.conns c).notify_closed.2 hr)⟩
      | false =>
        simp only [Live, hn, Bool.false_eq_true, ↓reduceIte] at hlive
        exact hlive
    · rw [he] at hlive ⊢
      by_cases hc : c' = c
      · subst hc
        simp only [Live, Function.update_self] at hlive
        rcases ht.registered hlive.1 with hcid | hs
        · have hl : s.Live cid c' := ⟨hcid, fun r hr => hlive.2 r ((ht.of_closed hr).1 ▸ hr)⟩
          exact (ht.get_isSome (ih hl)).resolve_right fun ⟨_, _, r, hr⟩ => hlive.2 r hr
        · exact hs
      · simp only [Live, Function.update_of_ne (Ne.symm hc)] at hlive
        exact (ht.get_isSome (ih hlive)).resolve_right fun ⟨hl, _⟩ => hc (hone' _ _ hl hlive)

theorem Server.oneAtATime_of_distinct {cap : Nat} {authToken : Option String} {d : Bool}
    (h : ∀ c c', c ≠ c' →
      ((Run.final (step lib) (.new cap authToken d) as).conns c).state.clientId = some cid →
      ((Run.final (step lib) (.new cap authToken d) as).conns c').state.clientId ≠ some cid) :
    Run.Along (step lib) (fun _ s _ => s.OneAtATime cid) (.new cap authToken d) as := by
  rintro pre a post rfl c c' ⟨hc, -⟩ ⟨hc', -⟩
  by_contra hne
  exact h c c' hne (clientId_persists hc _) (clientId_persists hc' _)

theorem Server.distinct_of_acting {cs : List Nat}
    (hs : ∀ c, ((s : Server).conns c).state.clientId = none)
    (h : ∀ a ∈ as, ∀ c, a.actor = some c → c ∈ cs)
    (hcs : ∀ c ∈ cs, ∀ c' ∈ cs, c ≠ c' → ((Run.final (step lib) s as).conns c).state.clientId ≠
      ((Run.final (step lib) s as).conns c').state.clientId) (hne : c ≠ c')
    (hc : ((Run.final (step lib) s as).conns c).state.clientId = some cid) :
    ((Run.final (step lib) s as).conns c').state.clientId ≠ some cid := by
  have hnone : ∀ {c}, c ∉ cs → ((Run.final (step lib) s as).conns c).state.clientId = none := by
    intro c hc
    rw [final_state_of_not_actor fun a ha hac => hc (h a ha c hac), hs]
  by_cases hmem : c ∈ cs
  · by_cases hmem' : c' ∈ cs
    · rw [← hc]
      exact (hcs c hmem c' hmem' hne).symm
    · rw [hnone hmem']
      exact nofun
  · rw [hnone hmem] at hc
    cases hc

end Canal
