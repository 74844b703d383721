import Canal.DispatchWorker

namespace Canal
set_option autoImplicit true

namespace SinkSystem

variable {s t : SinkSystem} {os os' : List SinkNote} {result : Events}
  {i j : Nat}

section Runs

variable (lib : Crates) (d : Bool) (store : MemoryEventStore) (filter : EventFilter)
  (connectors : Nat)

theorem run_invariants (actions : List SinkAction) :
    Booked (Run.outputs (step lib d) (.new store filter connectors) actions)
        (Run.final (step lib d) (.new store filter connectors) actions) ∧
      Working (Run.outputs (step lib d) (.new store filter connectors) actions)
        (Run.final (step lib d) (.new store filter connectors) actions) := by
  apply Run.history_invariant (step lib d) (.new store filter connectors)
    (I := fun _ os s => Booked os s ∧ Working os s)
  · constructor
    · constructor
      · intro r hr
        cases hr
      · intro i events hu
        cases hu
      · intro i hi
        cases hi
      · intro i result hi
        cases hi
      · intro r hr
        cases hr
      · exact List.nodup_nil
      · exact List.nodup_nil
    · constructor
      · exact .absent rfl rfl fun _ => rfl
      · intro hd
        cases hd
      · intro he
        cases he
      · intro i events batchId hi
        cases hi
      · intro _ r hr
        cases hr
  · rintro _ os s a ⟨hb, hw⟩
    have ht := s.step_turn lib d a
    exact ⟨hb.turn ht, hw.turn hb ht⟩

theorem run_connectors (actions : List SinkAction) :
    (Run.final (step lib d) (.new store filter connectors) actions).connectors = connectors := by
  apply Run.final_invariant (I := fun s : SinkSystem => s.connectors = connectors)
  · intro s a hs
    rw [← hs]
    exact (s.step_turn lib d a).connectors
  · rfl

theorem step_enqueues (s : SinkSystem) (a : SinkAction) :
    enqueues (s.step lib d a).2 = [] ∨ ∃ i events batchId, a = .advance i ∧
      s.calls[i]? = some (SinkStage.sending events batchId) ∧
      enqueues (s.step lib d a).2 = [⟨i, events⟩] := by
  cases a with
  | advance i =>
    simp only [step, advance]
    cases hi : s.calls[i]? with
    | none => exact .inl rfl
    | some stage =>
      cases stage with
      | called | returned | panicked => exact .inl rfl
      | filtered events =>
        left
        simp only
        split
        · rfl
        · split <;> rfl
      | stored events batchId =>
        left
        simp only
        split <;> rfl
      | sending events batchId =>
        by_cases hw : s.worker = none ∨ s.worker = some .ended
        · simp only [send_closed hw]
          exact .inl rfl
        · rw [not_or] at hw
          obtain ⟨w, hs⟩ := Option.ne_none_iff_exists'.1 hw.1
          simp only [send_open hs fun h => hw.2 (h ▸ hs)]
          exact .inr ⟨i, events, batchId, rfl, hi, rfl⟩
  | stop => exact .inl rfl
  | call | drop | cancel =>
    left
    simp only [step]
    split <;> rfl
  | receive =>
    left
    simp only [step]
    split
    · rfl
    · split <;> rfl
    · rfl
  | dispatched =>
    left
    simp only [step]
    split
    · split <;> rfl
    · rfl

/-- A call that sends finds every batch that was stored before its own sent already. -/
def inTurn (os : List SinkNote) (s : SinkSystem) : SinkAction → Bool
  | .advance i =>
    match s.calls[i]? with
    | some (.sending events _) =>
      ((appends os).takeWhile fun r => r ≠ ⟨i, events⟩).all fun r => r ∈ enqueues os
    | _ => true
  | _ => true

theorem Booked.send_in_turn (h : Booked os s) (hp : enqueues os <+: appends os)
    (hi : s.calls[i]? = some (SinkStage.sending events batchId))
    (hturn : inTurn os s (.advance i) = true) :
    enqueues os ++ [⟨i, events⟩] <+: appends os := by
  have hu : s.unsent i = some events := unsent_of_stage hi
  simp only [inTurn, hi, List.all_eq_true, decide_eq_true_eq] at hturn
  obtain ⟨rest, hrest⟩ := hp
  have hnot : ⟨i, events⟩ ∉ enqueues os := fun hm =>
    h.unsent_not_enqueued i (by rw [hu]; rfl) _ hm rfl
  have hmem := h.unsent_appended i events hu
  rw [← hrest, List.mem_append, or_iff_right hnot] at hmem
  cases rest with
  | nil => cases hmem
  | cons r rest =>
    by_cases hr : r = ⟨i, events⟩
    · subst hr
      exact ⟨rest, by rw [← hrest, List.append_assoc]; rfl⟩
    · have hfirst : r ∈ (appends os).takeWhile fun r => r ≠ ⟨i, events⟩ := by
        rw [← hrest, List.takeWhile_append_of_pos]
        · rw [List.takeWhile_cons_of_pos (by simpa using hr)]
          exact List.mem_append_right _ (List.mem_cons_self ..)
        · intro r' hr'
          apply decide_eq_true
          rintro rfl
          exact hnot hr'
      have hnd := h.appended_nodup
      rw [← hrest, List.nodup_append] at hnd
      exact absurd rfl (hnd.2.2 r (hturn r hfirst) r (List.mem_cons_self ..))

theorem enqueues_in_turn (hb : Booked os s) (hp : enqueues os <+: appends os) {a : SinkAction}
    (hturn : inTurn os s a = true) :
    enqueues (os ++ (s.step lib d a).2) <+: appends (os ++ (s.step lib d a).2) := by
  rw [enqueues_append, appends_append]
  rcases step_enqueues lib d s a with he | ⟨i, events, batchId, rfl, hi, he⟩
  · rw [he, List.append_nil]
    exact hp.trans (List.prefix_append ..)
  · rw [he]
    have hnext := hb.send_in_turn hp hi hturn
    exact hnext.trans (List.prefix_append ..)

/-- When every send of a run is in turn, each connector is passed the batches of the store in
their order, each once. -/
theorem dispatches_follow_store (actions : List SinkAction)
    (hturn : Run.Along (step lib d) (fun os s a => inTurn os s a = true)
      (.new store filter connectors) actions)
    (c : Nat) (hc : c < connectors) :
    ∀ pre, pre <+: actions →
      dispatches c (Run.outputs (step lib d) (.new store filter connectors) pre) <+:
        appends (Run.outputs (step lib d) (.new store filter connectors) pre) := by
  intro pre hpre
  have hpre' := hturn.of_prefix hpre
  have hw := (run_invariants lib d store filter connectors pre).2.worker_at
  rw [run_connectors] at hw
  apply (hw.dispatches_prefix hc).trans
  have h0 := run_invariants lib d store filter connectors []
  apply And.right
  apply hpre'.invariant (I := fun _ os s => (Booked os s ∧ Working os s) ∧
    enqueues os <+: appends os)
  · exact ⟨h0, List.nil_prefix⟩
  · intro _ os s a h ha
    obtain ⟨⟨hb, hw⟩, hp⟩ := h
    have ht := s.step_turn lib d a
    exact ⟨⟨hb.turn ht, hw.turn hb ht⟩, enqueues_in_turn lib d hb hp ha⟩

end Runs

/-- Two calls at once: the batch that is stored second is sent first. -/
theorem concurrent_calls_swap :
    let run : List SinkAction :=
      [.call [storedEvent 100], .call [storedEvent 200], .advance 0, .advance 0, .advance 1,
        .advance 1, .advance 1, .advance 1, .advance 0, .advance 0,
        .receive, .dispatched (.ok ()), .receive]
    let shown := Run.outputs (step .literal true)
      (.new (.new 8) { includeRe := ".*\\..*", exclude := none } 1) run
    appends shown = [⟨0, [storedEvent 100]⟩, ⟨1, [storedEvent 200]⟩] ∧
      dispatches 0 shown = [⟨1, [storedEvent 200]⟩, ⟨0, [storedEvent 100]⟩] ∧
      ¬ dispatches 0 shown <+: appends shown := by
  decide

/-- Two calls at once that send in the order in which they stored. -/
def interleavedCalls : List SinkAction :=
  [.call [storedEvent 100], .call [storedEvent 200], .advance 0, .advance 1, .advance 0,
    .advance 1, .advance 1, .advance 0, .advance 0, .advance 1, .receive, .dispatched (.ok ()),
    .dispatched (.error (.io "broken pipe")), .receive]

theorem dispatches_follow_store_interleaved :
    dispatches 1 (Run.outputs (step .literal true)
        (.new (.new 8) { includeRe := ".*\\..*", exclude := none } 2) interleavedCalls) <+:
      appends (Run.outputs (step .literal true)
        (.new (.new 8) { includeRe := ".*\\..*", exclude := none } 2) interleavedCalls) :=
  dispatches_follow_store .literal true (.new 8) { includeRe := ".*\\..*", exclude := none } 2
    interleavedCalls (.of_check (by decide)) 1 (by decide) interleavedCalls (List.prefix_refl _)

end SinkSystem

end Canal
