import Canal.AlikeSteps

namespace Canal
set_option autoImplicit true

open SessionManager (Agree)

namespace Observed

variable {lib : Crates} {b : Nat} {w w' : Observed}

/-- The steps before the ids run out. -/
def opening : List Play :=
  [.putBatch [storedEvent 100, storedEvent 200], .receive 0 (.login "other" "" 0) none,
    .receive 1 (.login "app" "" 0) none].map Play.act ++ (Server.fetching 1 1).map Play.act

/-- Connection 1 reads two batches and acks the first of them, after connection 0 has taken `k` Gets
back. -/
def lateAck (k : Nat) : List Play :=
  opening ++ ((List.replicate k (Server.replay 0 1)).flatten.map Play.act ++
    ((Server.fetching 1 1).map Play.act ++ [.ackNth 0 none]))

def opened : Observed := Run.final (step .literal 1) (.new 8 none true) opening

theorem opened_page :
    opened.server.page (opened.server.callOf 0 "other" 1) = [storedEvent 100] := by
  decide

theorem opened_page_app :
    opened.server.page (opened.server.callOf 1 "app" 1) = [storedEvent 200] := by
  decide

theorem opened_serves_other : opened.server.Serves .literal 0 "other" 1 where
  phase := rfl
  authenticated := rfl
  clientId := rfl
  kept := rfl
  found := by rw [opened_page]; decide
  answered _ := ⟨_, rfl⟩

theorem opened_serves_app : opened.server.Serves .literal 1 "app" 1 where
  phase := rfl
  authenticated := rfl
  clientId := rfl
  kept := rfl
  found := by rw [opened_page_app]; decide
  answered _ := ⟨_, rfl⟩

theorem opened_idle (h0 : c ≠ 0) (h1 : c ≠ 1) :
    (opened.server.conns c).state.clientId = none := by
  match c with
  | 0 => exact absurd rfl h0
  | 1 => exact absurd rfl h1
  | c + 2 => rfl

def spun (k : Nat) : Observed :=
  Run.final (step .literal 1) opened ((List.replicate k (Server.replay 0 1)).flatten.map Play.act)

theorem spun_server (k : Nat) : ∃ st, st.clientId = some "other" ∧
    (spun k).server = (opened.server.draw k).setConn 0 { state := st } := by
  obtain ⟨st, hcid, hspun⟩ := Server.final_replays opened_serves_other rfl k
  exact ⟨st, hcid, (final_acts ..).trans hspun⟩

theorem spun_app (k : Nat) : (spun k).server.conns 1 = opened.server.conns 1 := by
  obtain ⟨st, -, hs⟩ := spun_server k
  rw [hs]
  exact Server.setConn_conns_of_ne Nat.one_ne_zero ..

theorem spun_others (k : Nat) (h : c ≠ 1)
    (hcid : ((spun k).server.conns c).state.clientId = some cid) : cid = "other" := by
  obtain ⟨st, hother, hs⟩ := spun_server k
  rw [hs] at hcid
  by_cases h0 : c = 0
  · subst h0
    rw [Server.setConn_conns_self, hother] at hcid
    exact (Option.some.inj hcid).symm
  · rw [Server.setConn_conns_of_ne h0] at hcid
    have hcid : (opened.server.conns c).state.clientId = some cid := hcid
    rw [opened_idle h0 h] at hcid
    cases hcid

theorem spun_serves_app (k : Nat) : (spun k).server.Serves .literal 1 "app" 1 := by
  obtain ⟨st, -, hs⟩ := spun_server k
  have happ := spun_app k
  rw [hs] at happ ⊢
  apply opened_serves_app.of_eq
  · rw [happ]
    rfl
  · rw [happ]
    rfl
  · rw [happ]
    rfl
  · rw [happ]
  · rfl
  · rfl
  · rfl

theorem spun_page (k : Nat) :
    (spun k).server.page ((spun k).server.callOf 1 "app" 1) = [storedEvent 200] := by
  obtain ⟨st, -, hs⟩ := spun_server k
  have happ := spun_app k
  rw [hs] at happ ⊢
  apply (Server.page_of_eq _ _ _ ..).trans opened_page_app
  · rw [happ]
  · rfl
  · rfl

theorem lateAck_ends (k : Nat) :
    let w := Run.final (step .literal 1) (.new 8 none true) (lateAck k)
    (∀ c, c ≠ 1 → ∀ cid, (w.server.conns c).state.clientId = some cid →
        (w.server.conns 1).state.clientId ≠ some cid) ∧
      (w.server.conns 1).state.lastAckPos =
        if 1 = 2 + Int64.ofNat k then some (.new "mysql-bin.000001" 200) else none := by
  let w := Run.final (step .literal 1) (spun k) ((Server.fetching 1 1).map Play.act)
  have hw : w.server = Run.final (Server.step .literal) (spun k).server (Server.fetching 1 1) :=
    final_acts ..
  -- no later frame takes the first id out of reach
  have hfirst : (batchIds w.got)[0]? = some 1 := by
    obtain ⟨rs, hrs⟩ := (got_grows .literal 1 opened _).trans (got_grows .literal 1 (spun k) _)
    have hrs : opened.got ++ rs = w.got := hrs
    rw [← hrs, batchIds_append]
    rfl
  have hend : (Run.final (step .literal 1) (.new 8 none true) (lateAck k)).server =
      (w.server.step .literal (.receive 1 (.ack 1) none)).1 := by
    rw [lateAck, Run.final_append, Run.final_append, Run.final_append]
    have hstep : (step .literal 1 w (.ackNth 0 none)).1.server =
        (w.server.step .literal (.receive 1 (.ack 1) none)).1 := by
      simp only [step, hfirst]
      rfl
    exact hstep
  simp only
  rw [hend]
  obtain ⟨happ, hpos⟩ := Server.acked_fetching (spun_serves_app k) 1
  rw [← hw] at happ hpos
  refine ⟨?_, hpos.trans ?_⟩
  · intro c hc cid hcid
    rw [Server.step_conn_of_ne rfl hc, hw, Server.final_fetching (spun_serves_app k),
      Server.setConn_conns_of_ne hc] at hcid
    rw [happ, spun_others k hc hcid]
    decide
  · have hseq : (spun k).server.store.batchIdSeq = 2 + .ofNat k := by
      obtain ⟨st, -, hs⟩ := spun_server k
      rw [hs]
      rfl
    rw [hseq, spun_page, spun_app]
    rfl

theorem lateAck_named (k : Nat) : ∀ p ∈ lateAck k, p.Named 1 := by
  have hspin : ∀ a ∈ Server.replay 0 1, (Play.act a).Named 1 := by
    simp [Server.replay, Server.fetching, Play.Named]
  simp only [lateAck, List.forall_mem_append]
  refine ⟨?_, ?_, ?_, ?_⟩
  · simp [opening, Server.fetching, Play.Named, Frame.login, Frame.fetch]
  · intro p hp
    obtain ⟨a, ha, rfl⟩ := List.mem_map.1 hp
    exact hspin a (Server.mem_replays ha)
  · simp [Server.fetching, Play.Named, Frame.fetch]
  · simp [Play.Named]

theorem lateAck_filter (k : Nat) :
    (lateAck k).filter (Play.concerns 1) = opening.filter (Play.concerns 1) ++
      ((Server.fetching 1 1).map Play.act ++ [.ackNth 0 none]) := by
  have hspins : ((List.replicate k (Server.replay 0 1)).flatten.map Play.act).filter
      (Play.concerns 1) = [] := by
    have hspin : ∀ a ∈ Server.replay 0 1, ¬(Play.act a).concerns 1 = true := by
      decide
    rw [List.filter_eq_nil_iff]
    intro p hp
    obtain ⟨a, ha, rfl⟩ := List.mem_map.1 hp
    exact hspin a (Server.mem_replays ha)
  rw [lateAck, List.filter_append, List.filter_append, hspins]
  rfl

theorem lateAck_counts (hk : 1 = 2 + Int64.ofNat k) :
    let ps := lateAck k
    let w := Run.final (step .literal 1) (.new 8 none true) ps
    let w' := Run.final (step .literal 1) (.new 8 none true) (ps.filter (Play.concerns 1))
    (∀ p ∈ ps, p.Named 1) ∧
      (∀ c, c ≠ 1 → ∀ cid, (w.server.conns c).state.clientId = some cid →
        (w.server.conns 1).state.clientId ≠ some cid) ∧
      (w.server.conns 1).state.lastAckPos = some (.new "mysql-bin.000001" 200) ∧
      (w'.server.conns 1).state.lastAckPos = none := by
  intro ps w w'
  obtain ⟨hapart, hpos⟩ := lateAck_ends k
  refine ⟨lateAck_named k, hapart, hpos.trans (if_pos hk), ?_⟩
  simp only [w', ps, lateAck_filter]
  rfl

end Observed

end Canal
