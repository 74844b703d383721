import Canal.Permits

namespace Canal
set_option autoImplicit true

namespace Listener

variable {lib : PeerCrates} {s : Listener}

theorem over_step (h : s.phase.isOver = true) (a : ServeAction) :
    (s.step lib a).1.phase.isOver = true ∧ (s.step lib a).1.accepted = s.accepted := by
  have hs := stepped lib s a
  generalize (s.step lib a).1 = s' at hs ⊢
  generalize (s.step lib a).2 = notes at hs
  have hno : ∀ {phase : ServePhase}, phase.isOver = false → s.phase ≠ phase := by
    rintro phase hphase rfl
    exact Bool.false_ne_true (hphase.symm.trans h)
  cases hs with
  | idle | cancelled | joined | ran => exact ⟨h, rfl⟩
  | rejected hp | accepted hp | failed hp | stopped hp => exact absurd hp (hno rfl)
  | resumed hp => exact absurd hp (hno rfl)
  | drained | timedOut => exact ⟨rfl, rfl⟩

/-- What `serve` has come to and what it has said. -/
structure Concluded (as : List ServeAction) (notes : List ServeNote) (s : Listener) : Prop where
  bounded : s.Bounded
  cancelled : s.phase = .draining ∨ s.phase = .returned (.ok ()) → s.cancelled = true
  returned : notes.filterMap ServeNote.result = s.phase.result.toList
  drained : .timeout ∉ as → s.phase = .returned (.ok ()) → s.live = ∅

theorem run_results (lib : PeerCrates) (s : Listener) (a : ByteAction) :
    (s.run lib a).2.filterMap ServeNote.result = [] := by
  rw [List.filterMap_eq_nil_iff]
  intro n hn
  obtain ⟨o, -, rfl⟩ := List.mem_map.1 hn
  rfl

theorem concluded_step (h : Concluded as notes s) (a : ServeAction) :
    Concluded (as ++ [a]) (notes ++ (s.step lib a).2) (s.step lib a).1 := by
  have hb := @Bounded.step lib _ h.bounded a
  have hs := stepped lib s a
  generalize (s.step lib a).1 = s' at hs hb ⊢
  generalize (s.step lib a).2 = shown at hs
  have hkept : ∀ {a}, .timeout ∉ as ++ [a] → .timeout ∉ as :=
    fun hno hmem => hno (List.mem_append_left _ hmem)
  -- the phase decides the result
  have hres : ∀ {shown : List ServeNote} {phase : ServePhase}, s.phase.result = none →
      shown.filterMap ServeNote.result = phase.result.toList →
        (notes ++ shown).filterMap ServeNote.result = phase.result.toList := by
    intro shown phase hnone heq
    rw [List.filterMap_append, h.returned, hnone, heq]
    rfl
  cases hs with
  | idle =>
    rw [List.append_nil]
    exact ⟨hb, h.cancelled, h.returned, fun hno => h.drained (hkept hno)⟩
  | rejected hp hn =>
    exact ⟨hb, h.cancelled, hres (by rw [hp]; rfl) (by rw [hp]; rfl),
      fun hno => h.drained (hkept hno)⟩
  | accepted hp hn =>
    exact ⟨hb, nofun, hres (by rw [hp]; rfl) rfl, nofun⟩
  | failed hp e =>
    exact ⟨hb, nofun, hres (by rw [hp]; rfl) rfl, nofun⟩
  | cancelled =>
    rw [List.append_nil]
    exact ⟨hb, fun _ => rfl, h.returned, fun hno => h.drained (hkept hno)⟩
  | stopped hp hc => exact ⟨hb, fun _ => hc, hres (by rw [hp]; rfl) rfl, nofun⟩
  | @joined c hp hmem hclosed =>
    have hnone : s.phase.result = none := by
      rcases hp with hp | hp <;> rw [hp] <;> rfl
    refine ⟨hb, h.cancelled, hres hnone ?_, fun hno => h.drained (hkept hno)⟩
    change [] = s.phase.result.toList
    rw [hnone]
    rfl
  | resumed hp hall => exact ⟨hb, nofun, hres (by rw [hp]; rfl) rfl, nofun⟩
  | drained hp hnil =>
    refine ⟨hb, fun _ => h.cancelled (.inl hp), hres (by rw [hp]; rfl) rfl, fun _ _ => ?_⟩
    rw [Finset.eq_empty_iff_forall_notMem]
    intro c hc
    have hmem := hb.running c hc
    rw [hnil] at hmem
    cases hmem
  | timedOut hp =>
    refine ⟨hb, fun _ => h.cancelled (.inl hp), hres (by rw [hp]; rfl) rfl, fun hno => ?_⟩
    exact absurd (List.mem_append_right _ (List.mem_singleton_self _)) hno
  | @ran a ha =>
    refine ⟨hb, h.cancelled, ?_, fun hno hp => ?_⟩
    · rw [List.filterMap_append, run_results, List.append_nil]
      exact h.returned
    · have hlive := h.drained (hkept hno) hp
      rcases s.run_live lib ha with ⟨hl, -⟩ | ⟨c, hc, -⟩
      · exact hl.trans hlive
      · rw [hlive] at hc
        cases hc

/-- How `serve` ends: it returns once, with success only after the token was cancelled; then nobody
is accepted any more, and unless the wait for the tasks ran into its timeout all of them have
ended. -/
theorem shutdown_drains (lib : PeerCrates) (cap : Nat) (authToken : Option String) (d : Bool)
    (as : List ServeAction) :
    let after := Run.final (step lib) (new cap authToken d)
    let notes := Run.outputs (step lib) (new cap authToken d) as
    notes.filterMap ServeNote.result = (after as).phase.result.toList ∧
      (.returned (.ok ()) ∈ notes → (after as).cancelled = true) ∧
      (.returned (.ok ()) ∈ notes → .timeout ∉ as → (after as).live = ∅) ∧
      ∀ bs, (after as).phase.isOver = true →
        (after (as ++ bs)).phase.isOver = true ∧ (after (as ++ bs)).accepted =
          (after as).accepted := by
  intro after notes
  have h := Run.history_invariant (step lib) (new cap authToken d)
    (I := fun as notes s => Concluded as notes s)
    ⟨new_bounded cap authToken d, nofun, rfl, nofun⟩ (fun _ _ _ a h => concluded_step h a) as
  have hphase : .returned (.ok ()) ∈ notes → (after as).phase = .returned (.ok ()) := by
    intro hmem
    have hres : Except.ok () ∈ notes.filterMap ServeNote.result :=
      List.mem_filterMap.2 ⟨_, hmem, rfl⟩
    rw [h.returned, Option.mem_toList] at hres
    unfold ServePhase.result at hres
    split at hres
    · rename_i hp
      cases hres
      exact hp
    · cases hres
  refine ⟨h.returned, fun hmem => h.cancelled (.inr (hphase hmem)),
    fun hmem hno => h.drained hno (hphase hmem), ?_⟩
  intro bs hover
  have hend : (Run.final (step lib) (after as) bs).phase.isOver = true ∧
      (Run.final (step lib) (after as) bs).accepted = (after as).accepted :=
    Run.final_invariant
      (I := fun s : Listener => s.phase.isOver = true ∧ s.accepted = (after as).accepted)
      (fun s a hs => ⟨(over_step hs.1 a).1, (over_step hs.1 a).2.trans hs.2⟩) ⟨hover, rfl⟩ bs
  rw [← Run.final_append] at hend
  exact hend

end Listener

end Canal
