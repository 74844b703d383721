import Canal.LateAck

namespace Canal
set_option autoImplicit true

open SessionManager (Agree)

namespace Observed

variable {lib : Crates} {b : Nat} {w w' : Observed}

/-- The client id of connection `b` is nobody else's, and the ids have not run out. -/
def Good (b : Nat) (w : Observed) : Prop :=
  (∀ c, c ≠ b → ∀ cid, (w.server.conns c).state.clientId = some cid →
    (w.server.conns b).state.clientId ≠ some cid) ∧ w.drawn < 2 ^ 64

/-- A world that begins with a new server. -/
def Reached (lib : Crates) (cap : Nat) (authToken : Option String) (d : Bool) (w : Observed) :
    Prop := ∃ as, w.server = Run.final (Server.step lib) (.new cap authToken d) as

variable {cap : Nat} {authToken : Option String} {d : Bool}

theorem Reached.act (h : Reached lib cap authToken d w) (b : Nat) (a : Action) :
    Reached lib cap authToken d (w.act lib b a).1 := by
  obtain ⟨as, hw⟩ := h
  refine ⟨as ++ [a], ?_⟩
  rw [Run.final_concat, ← hw]
  rfl

theorem Reached.clientId_keep (h : Reached lib cap authToken d w) (a : Action) (c : Nat)
    (cid : String) (hcid : (w.server.conns c).state.clientId = some cid) :
    ((w.server.step lib a).1.conns c).state.clientId = some cid := by
  obtain ⟨as, hw⟩ := h
  rw [hw] at hcid ⊢
  have hp := Server.clientId_persists hcid [a]
  rw [Run.final_concat] at hp
  exact hp

theorem Good.of_act (h : Reached lib cap authToken d w) {a : Action}
    (hg : (w.act lib b a).1.Good b) : w.Good b := by
  constructor
  · intro c hc cid hcid hb
    exact hg.1 c hc cid (h.clientId_keep a c cid hcid) (h.clientId_keep a b cid hb)
  · exact (drawn_le lib b w a).trans_lt hg.2

theorem Good.own (hg : w.Good b) (h : Reached lib cap authToken d w) : Own b w := by
  obtain ⟨as, hw⟩ := h
  have hx := Server.explained lib cap authToken d as b
  rw [← hw] at hx
  constructor
  · exact hx.authenticated_iff.1
  · exact hx.call
  · exact fun cid events ha => (hx.answer ha).1
  · intro cid hcid c hc hcid'
    exact hg.1 c hc cid hcid' hcid

/-- What holds of a world with the others and one without them, step by step. -/
structure Related (lib : Crates) (cap : Nat) (authToken : Option String) (d : Bool) (b : Nat)
    (w w' : Observed) : Prop where
  reached : Reached lib cap authToken d w
  counted : w.Counted
  counted' : w'.Counted
  alike : w.Good b → Alike b w w'

theorem Related.new : Related lib cap authToken d b (.new cap authToken d)
    (.new cap authToken d) where
  reached := ⟨[], rfl⟩
  counted := .new ..
  counted' := .new ..
  alike _ := ⟨rfl, rfl, rfl, rfl, rfl, fun _ _ => rfl, rfl, rfl, le_rfl⟩

theorem Related.kept (h : Related lib cap authToken d b w w') {p : Play}
    (hp : p.concerns b = true) (hn : p.Named b) :
    Related lib cap authToken d b (w.step lib b p).1 (w'.step lib b p).1 where
  reached := by
    cases p with
    | act a => exact h.reached.act b a
    | ackNth i tx =>
      simp only [Observed.step]
      split
      · exact h.reached.act b _
      · exact h.reached
  counted := h.counted.step lib b p
  counted' := h.counted'.step lib b p
  alike hg := by
    have hg' : w.Good b := by
      cases p with
      | act a => exact hg.of_act h.reached
      | ackNth i tx =>
        simp only [Observed.step] at hg
        split at hg
        · exact hg.of_act h.reached
        · exact hg
    exact (h.alike hg').step (hg'.own h.reached) h.counted h.counted' hg'.2 hp hn

theorem Related.dropped (h : Related lib cap authToken d b w w') {p : Play}
    (hp : p.concerns b = false) : Related lib cap authToken d b (w.step lib b p).1 w' := by
  cases p with
  | ackNth i tx => cases hp
  | act a =>
    cases ha : a.actor with
    | none =>
      simp only [Play.concerns, ha, Option.all_none] at hp
      cases hp
    | some c =>
      have hc : c ≠ b := by
        simp only [Play.concerns, ha, Option.all_some] at hp
        exact of_decide_eq_false hp
      exact {
        reached := h.reached.act b a
        counted := h.counted.act lib b a
        counted' := h.counted'
        alike := fun hg => (h.alike (hg.of_act h.reached)).other h.counted ha hc
          (h.reached.clientId_keep a c) }

/-- Connections with different client ids do not interfere, as long as the store has not handed out
all its batch ids: connection `b` gets the same answers up to the numbers of batches, and ends in
the same state up to the number of its last batch and with the same session, as if the steps of all
other connections had not been taken. -/
theorem other_connections_do_not_interfere (lib : Crates) (cap : Nat) (authToken : Option String)
    (d : Bool) (b : Nat) (ps : List Play) (hnamed : ∀ p ∈ ps, p.Named b) :
    let w := Run.final (step lib b) (.new cap authToken d) ps
    let w' := Run.final (step lib b) (.new cap authToken d) (ps.filter (Play.concerns b))
    (∀ c, c ≠ b → ∀ cid, (w.server.conns c).state.clientId = some cid →
      (w.server.conns b).state.clientId ≠ some cid) →
    w.drawn < 2 ^ 64 →
      w.got.map Response.unnumbered = w'.got.map Response.unnumbered ∧
      (w.server.conns b).state.Renumbered (w'.server.conns b).state ∧
      (w'.server.conns b).phase.unnumbered = (w.server.conns b).phase.unnumbered ∧
      ∀ cid, (w.server.conns b).state.clientId = some cid →
        w.server.sessions.get cid = w'.server.sessions.get cid := by
  intro w w' hids hdrawn
  have h : Related lib cap authToken d b w w' := by
    apply Run.final_filter Related.new
    · exact fun _ _ p _ hp h => h.dropped hp
    · exact fun _ _ p hmem hp h => h.kept hp (hnamed p hmem)
  have hg : w.Good b := ⟨hids, hdrawn⟩
  have ha := h.alike hg
  exact ⟨ha.got, ha.state, ha.phase, fun cid hcid =>
    ha.sessions cid ((hg.own h.reached).apart cid hcid)⟩

theorem other_connections_do_not_interfere_late :
    let w := Run.final (step .literal 1) (.new 8 none true) (lateAck 1)
    let w' := Run.final (step .literal 1) (.new 8 none true)
      ((lateAck 1).filter (Play.concerns 1))
    w.got.map Response.unnumbered = w'.got.map Response.unnumbered :=
  (other_connections_do_not_interfere .literal 8 none true 1 (lateAck 1) (lateAck_named 1)
    (lateAck_ends 1).1 (by decide)).1

theorem batch_id_comes_again :
    let ps := lateAck (2 ^ 64 - 1)
    let w := Run.final (step .literal 1) (.new 8 none true) ps
    let w' := Run.final (step .literal 1) (.new 8 none true) (ps.filter (Play.concerns 1))
    (∀ p ∈ ps, p.Named 1) ∧
      (∀ c, c ≠ 1 → ∀ cid, (w.server.conns c).state.clientId = some cid →
        (w.server.conns 1).state.clientId ≠ some cid) ∧
      (w.server.conns 1).state.lastAckPos = some (.new "mysql-bin.000001" 200) ∧
      (w'.server.conns 1).state.lastAckPos = none :=
  lateAck_counts (by decide)

end Observed

end Canal
