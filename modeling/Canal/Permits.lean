import Canal.Listener

namespace Canal
set_option autoImplicit true

namespace Listener

variable {lib : PeerCrates} {s : Listener}

/-- Every permit is there or with a live task, the set holds the live tasks and not many more, and a
connection that has not been accepted is as it was. -/
structure Bounded (s : Listener) : Prop where
  permits : s.permits + s.live.card = maxConnections
  nodup : s.tasks.Nodup
  known : ∀ c ∈ s.tasks, c < s.accepted
  running : ∀ c ∈ s.live, c ∈ s.tasks
  size : s.tasks.length ≤ maxConnections + s.phase.slack
  fresh : ∀ c, s.accepted ≤ c → s.host.server.conns c = {}

theorem Bounded.accept (h : s.Bounded) (hp : s.phase = .accepting) (hn : s.permits ≠ 0) :
    Bounded { s with phase := .reaping, permits := s.permits - 1, tasks := s.tasks ++ [s.accepted],
                     accepted := s.accepted + 1 } := by
  have hopen : s.isOpen s.accepted = true := by
    rw [isOpen, h.fresh _ (Nat.le_refl _)]
    rfl
  have hnot : s.accepted ∉ s.live := by
    intro hmem
    exact Nat.lt_irrefl _ (Finset.mem_range.1 (Finset.mem_filter.1 hmem).1)
  have hlive : live { s with
      phase := .reaping, permits := s.permits - 1, tasks := s.tasks ++ [s.accepted],
      accepted := s.accepted + 1 } = insert s.accepted s.live := by
    change (Finset.range (s.accepted + 1)).filter (fun c => s.isOpen c = true) = _
    rw [Finset.range_add_one, Finset.filter_insert, if_pos hopen]
    rfl
  constructor
  · rw [hlive, Finset.card_insert_of_notMem hnot]
    have hpermits := h.permits
    change s.permits - 1 + (s.live.card + 1) = maxConnections
    omega
  · change (s.tasks ++ [s.accepted]).Nodup
    rw [List.nodup_append]
    refine ⟨h.nodup, List.nodup_singleton _, ?_⟩
    intro c hc c' hc'
    have hlt := h.known c hc
    rw [List.mem_singleton.1 hc']
    omega
  · intro c hc
    rcases List.mem_append.1 hc with hc | hc
    · exact Nat.lt_succ_of_lt (h.known c hc)
    · exact List.mem_singleton.1 hc ▸ Nat.lt_succ_self _
  · intro c hc
    rw [hlive] at hc
    rcases Finset.mem_insert.1 hc with rfl | hc
    · exact List.mem_append_right _ (List.mem_singleton_self _)
    · exact List.mem_append_left _ (h.running c hc)
  · have hsize := h.size
    rw [hp] at hsize
    change (s.tasks ++ [s.accepted]).length ≤ maxConnections + 1
    rw [List.length_append]
    exact Nat.add_le_add_right hsize 1
  · exact fun c hc => h.fresh c (Nat.le_of_succ_le hc)

theorem Bounded.resume (h : s.Bounded) (hall : ∀ c ∈ s.tasks, s.isOpen c = true) :
    Bounded { s with phase := .accepting } := by
  refine ⟨h.permits, h.nodup, h.known, h.running, ?_, h.fresh⟩
  have hsub : s.tasks.toFinset ⊆ s.live := by
    intro c hc
    have hc := List.mem_toFinset.1 hc
    exact Finset.mem_filter.2 ⟨Finset.mem_range.2 (h.known c hc), hall c hc⟩
  have hcard := Finset.card_le_card hsub
  rw [List.toFinset_card_of_nodup h.nodup] at hcard
  have hpermits := h.permits
  change s.tasks.length ≤ maxConnections + 0
  omega

theorem Bounded.join (h : s.Bounded) (hclosed : s.isOpen c = false) :
    Bounded { s with tasks := s.tasks.erase c } := by
  refine ⟨h.permits, h.nodup.erase c, fun c' hc => h.known c' (List.mem_of_mem_erase hc), ?_, ?_,
    h.fresh⟩
  · intro c' hc
    have hopen := (Finset.mem_filter.1 hc).2
    have hne : c' ≠ c := by
      rintro rfl
      exact Bool.false_ne_true (hclosed.symm.trans hopen)
    exact (List.mem_erase_of_ne hne).2 (h.running c' hc)
  · exact (List.length_erase_le ..).trans h.size

theorem Bounded.run (h : s.Bounded) (ha : ∀ c, a.actor = some c → c < s.accepted) :
    (s.run lib a).1.Bounded := by
  have hfresh : ∀ c, s.accepted ≤ c → (s.run lib a).1.host.server.conns c = {} := by
    intro c hc
    have hne : a.actor ≠ some c := fun he => absurd (ha c he) (Nat.not_lt.2 hc)
    rcases s.host.step_conn lib hne with he | he
    · exact he.trans (h.fresh c hc)
    · refine he.trans ?_
      rw [h.fresh c hc]
      rfl
  have hpermits := h.permits
  rcases s.run_live lib ha with ⟨hl, hp⟩ | ⟨c, hc, hl, hp⟩
  · exact ⟨by rw [hl, hp]; exact hpermits, h.nodup, h.known, fun c hc => h.running c (hl ▸ hc),
      h.size, hfresh⟩
  · refine ⟨?_, h.nodup, h.known, fun c' hc' => h.running c' ?_, h.size, hfresh⟩
    · have hcard := Finset.card_erase_of_mem hc
      have hpos := Finset.card_pos.2 ⟨c, hc⟩
      rw [hl, hp]
      omega
    · rw [hl] at hc'
      exact Finset.mem_of_mem_erase hc'

theorem Bounded.step (h : s.Bounded) (a : ServeAction) : (s.step lib a).1.Bounded := by
  have hs := stepped lib s a
  generalize (s.step lib a).1 = s' at hs ⊢
  generalize (s.step lib a).2 = notes at hs
  -- a change of phase that is not the end of the loop over `try_join_next`
  have hphase : ∀ {phase : ServePhase}, s.phase.slack = 0 → Bounded { s with phase } := by
    intro phase hslack
    have hsize := h.size
    rw [hslack] at hsize
    exact ⟨h.permits, h.nodup, h.known, h.running, hsize.trans (Nat.le_add_right ..), h.fresh⟩
  cases hs with
  | idle | rejected => exact h
  | accepted hp hn => exact h.accept hp hn
  | failed hp => exact hphase (by rw [hp]; rfl)
  | cancelled => exact ⟨h.permits, h.nodup, h.known, h.running, h.size, h.fresh⟩
  | stopped hp => exact hphase (by rw [hp]; rfl)
  | joined hp hc hclosed => exact h.join hclosed
  | resumed hp hall => exact h.resume hall
  | drained hp => exact hphase (by rw [hp]; rfl)
  | timedOut hp => exact hphase (by rw [hp]; rfl)
  | ran ha => exact h.run ha

theorem run_effects (lib : PeerCrates) (s : Listener) (ha : ∀ c, a.actor = some c → c < s.accepted)
    (h : ServeNote.effect c e ∈ (s.run lib a).2) : c < s.accepted := by
  obtain ⟨o, ho, heq⟩ := List.mem_map.1 h
  cases heq
  rw [(s.host.step_server lib a).2] at ho
  cases hb : s.host.action lib a with
  | none =>
    rw [hb] at ho
    cases ho
  | some b =>
    rw [hb, Option.toList_some, Run.outputs, Run.outputs, List.append_nil] at ho
    rcases s.host.server.step_conn lib.toCrates b o.1 with ⟨-, htr, -⟩ | ⟨hactor, -⟩
    · have hmem := mem_trace.2 ho
      rw [htr] at hmem
      cases hmem
    · exact ha _ ((ByteServer.action_actor hb).symm.trans hactor)

/-- `serve` on a fresh server. -/
def new (capacity : Nat) (authToken : Option String) (debugAssertions : Bool) : Listener :=
  { host := { server := .new capacity authToken debugAssertions } }

theorem new_bounded (cap : Nat) (authToken : Option String) (d : Bool) :
    (new cap authToken d).Bounded := by
  have hlive : (new cap authToken d).live = ∅ := rfl
  constructor
  · rw [hlive, Finset.card_empty, Nat.add_zero]
    rfl
  · exact List.nodup_nil
  · exact fun c hc => absurd hc List.not_mem_nil
  · rw [hlive]
    exact fun c hc => absurd hc (Finset.notMem_empty c)
  · exact Nat.zero_le _
  · exact fun _ _ => rfl

theorem bounded_run (lib : PeerCrates) (cap : Nat) (authToken : Option String) (d : Bool)
    (as : List ServeAction) : (Run.final (step lib) (new cap authToken d) as).Bounded :=
  Run.final_invariant (fun _ a h => h.step a) (new_bounded cap authToken d) as

/-- At no time do more than `maxConnections` tasks run, and the set of their handles does not
outgrow them by more than one; a connection is turned away just when all permits are out; and who
has not been accepted is served nothing. -/
theorem connections_bounded (lib : PeerCrates) (cap : Nat) (authToken : Option String) (d : Bool)
    (as : List ServeAction) :
    let after := Run.final (step lib) (new cap authToken d)
    (after as).permits + (after as).live.card = maxConnections ∧
      (after as).tasks.length ≤ maxConnections + (after as).phase.slack ∧
      (∀ c ∈ (after as).live, c ∈ (after as).tasks) ∧
      (∀ pre post, as = pre ++ .incoming :: post → (after pre).phase = .accepting →
        (((after pre).step lib .incoming).2 = [.rejected] ↔
          (after pre).live.card = maxConnections)) ∧
      ∀ c e, .effect c e ∈ Run.outputs (step lib) (new cap authToken d) as →
        c < (after as).accepted := by
  intro after
  have hb : ∀ as, (after as).Bounded := bounded_run lib cap authToken d
  refine ⟨?_, ?_, ?_, ?_, ?_⟩
  · exact (hb as).permits
  · exact (hb as).size
  · exact (hb as).running
  · intro pre post _ hp
    have hpermits := (hb pre).permits
    by_cases h0 : (after pre).permits = 0
    · have hfull : (after pre).live.card = maxConnections := by omega
      simp only [step, hp, h0, ↓reduceIte, hfull]
    · have hroom : (after pre).live.card ≠ maxConnections := by omega
      simp only [step, hp, h0, ↓reduceIte, hroom, iff_false]
      exact fun he => nomatch List.head_eq_of_cons_eq he
  · intro c e he
    have hinv := Run.history_invariant (step lib) (new cap authToken d)
      (I := fun _ notes s => ∀ c e, .effect c e ∈ notes → c < s.accepted)
      (fun c e he => absurd he List.not_mem_nil) ?_ as
    · exact hinv c e he
    · intro as notes s a h c e he
      have hs := stepped lib s a
      generalize (s.step lib a).1 = s' at hs ⊢
      generalize (s.step lib a).2 = shown at hs he
      rcases List.mem_append.1 he with he | he
      · have hlt := h c e he
        cases hs with
        | accepted => exact Nat.lt_succ_of_lt hlt
        | _ => exact hlt
      · cases hs with
        | idle | cancelled | stopped | resumed => cases he
        | rejected | accepted | failed | joined | drained | timedOut =>
          cases List.mem_singleton.1 he
        | ran ha => exact run_effects lib s ha he

end Listener

end Canal
