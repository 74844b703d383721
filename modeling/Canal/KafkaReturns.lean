import Canal.KafkaAccounts

namespace Canal
set_option autoImplicit true

namespace KafkaConnector

variable {name topic : String} {events : List CanalEvent} {p : Option Nat} {call : KafkaCall}
variable {config : KafkaConfig} {os ns : List KafkaNote} {s : KafkaConnector}

/-- How many steps call `k` has shown. -/
def stepsShown (k : Nat) (os : List KafkaNote) : Nat :=
  (kafkaRecords k os).length + (kafkaAnswers k os).length + (kafkaResults k os).length

/-- The call is not dropped, and the producer answers `reply i` for message `i`. -/
def Serves (reply : Nat → Bool) : CallAction → Prop
  | .answer i delivered => delivered = reply i
  | .acquire _ | .join => True
  | .abort => False

theorem stepsShown_append (k : Nat) (os ns : List KafkaNote) :
    stepsShown k (os ++ ns) = stepsShown k os + stepsShown k ns := by
  simp only [stepsShown, kafkaRecords_append, kafkaAnswers_append, kafkaResults_append,
    List.length_append]
  omega

theorem Account.steps_le (h : Account name topic events p rs answers results) :
    rs.length + answers.length + results.length ≤ 2 * events.length + 1 := by
  have honce := h.once.length_le
  rw [List.length_map, serializeEvents, List.length_map] at honce
  have hresults : results.length ≤ 1 := by
    rcases h.returns with rfl | ⟨result, rfl, -⟩
    · exact Nat.zero_le _
    · exact le_rfl
  have hanswers := h.inFlight.1
  omega

/-- With no message in flight there is a permit, so a message that waits gets one. -/
theorem moves_sending {p : Nat} (hk : s.calls[k]? = some (.sending p total sends))
    (reply : Nat → Bool) : ∃ a, Serves reply a ∧ stepsShown k (s.step (.call k a)).2 = 1 := by
  by_cases hflight : ∃ send ∈ sends, send.state = .inFlight
  · obtain ⟨send, hmem, hf⟩ := hflight
    obtain ⟨i, hi⟩ := List.getElem?_of_mem hmem
    obtain ⟨h1, h2, h3⟩ := notes_answered k (reply i)
    refine ⟨.answer i (reply i), rfl, ?_⟩
    simp only [KafkaConnector.step, hk, advance, hi, if_pos hf, stepsShown, h1, h2, h3,
      List.length_nil, List.length_singleton]
  · have hcalm : ∀ send ∈ sends, send.state ≠ .inFlight :=
      fun send hmem hf => hflight ⟨send, hmem, hf⟩
    have hfree : (sends.countP fun s => s.state.isInFlight) < maxInFlight := by
      have hzero : (sends.countP fun s => s.state.isInFlight) = 0 := by
        rw [List.countP_eq_zero]
        intro send hmem hf
        apply hcalm send hmem
        cases hstate : send.state with
        | inFlight => rfl
        | waiting | answered =>
          rw [hstate] at hf
          cases hf
      rw [hzero]
      decide
    by_cases hwaiting : ∃ send ∈ sends, send.state = .waiting
    · obtain ⟨send, hmem, hw⟩ := hwaiting
      obtain ⟨i, hi⟩ := List.getElem?_of_mem hmem
      obtain ⟨h1, h2, h3⟩ := notes_record k ⟨p, s.config.topic, send.key, send.payload⟩
      refine ⟨.acquire i, trivial, ?_⟩
      simp only [KafkaConnector.step, hk, advance, hi, if_pos (And.intro hw hfree), stepsShown, h1,
        h2, h3, List.length_nil, List.length_singleton]
    · have hall : (sends.all fun s => s.state.answer.isSome) = true := by
        rw [List.all_eq_true]
        intro send hmem
        cases hstate : send.state with
        | waiting => exact absurd ⟨send, hmem, hstate⟩ hwaiting
        | inFlight => exact absurd hstate (hcalm send hmem)
        | answered delivered => rfl
      obtain ⟨h1, h2, h3⟩ := notes_returned k (outcome s.name
        ((sends.filterMap fun s => s.state.answer).count false) total)
      refine ⟨.join, trivial, ?_⟩
      simp only [KafkaConnector.step, hk, advance, if_pos hall, stepsShown, h1, h2, h3,
        List.length_nil, List.length_singleton]

theorem moves (hk : s.calls[k]? = some call) (hlive : call ≠ .ended) (reply : Nat → Bool) :
    ∃ a, Serves reply a ∧ stepsShown k (s.step (.call k a)).2 = 1 := by
  cases call with
  | sending p total sends => exact moves_sending hk reply
  | settled result =>
    obtain ⟨h1, h2, h3⟩ := notes_returned k result
    refine ⟨.join, trivial, ?_⟩
    simp only [KafkaConnector.step, hk, advance, stepsShown, h1, h2, h3, List.length_nil,
      List.length_singleton]
  | ended => exact absurd rfl hlive

/-- A call that is over has been dropped or has returned. -/
def Concluded (as : List KafkaAction) (os : List KafkaNote) (s : KafkaConnector) : Prop :=
  ∀ k, s.calls[k]? = some .ended → .call k .abort ∈ as ∨ kafkaResults k os ≠ []

theorem concluded_step (h : Concluded as os s) (a : KafkaAction) :
    Concluded (as ++ [a]) (os ++ (s.step a).2) (s.step a).1 := by
  have hkeep : ∀ k, s.calls[k]? = some .ended →
      .call k .abort ∈ as ++ [a] ∨ kafkaResults k (os ++ (s.step a).2) ≠ [] := by
    intro k hk
    rcases h k hk with hmem | hres
    · exact .inl (List.mem_append_left _ hmem)
    · rw [kafkaResults_append]
      exact .inr (List.append_ne_nil_of_left_ne_nil hres _)
  intro k hk
  cases a with
  | connect created => cases created <;> exact hkeep k hk
  | metadata producer fetched =>
    apply hkeep k
    rw [← hk]
    simp only [KafkaConnector.step]
    split
    · cases fetched <;> rfl
    · rfl
  | close => exact hkeep k hk
  | dispatch events =>
    apply hkeep k
    simp only [KafkaConnector.step] at hk
    rcases getElem?_concat_cases hk with hk | ⟨-, hended⟩
    · exact hk
    · simp only [KafkaConnector.dispatch] at hended
      split at hended
      · cases hended
      · split at hended <;> cases hended
  | call j b =>
    by_cases hj : s.calls[j]? = none
    · apply hkeep k
      rw [← hk]
      simp only [KafkaConnector.step, hj]
    · obtain ⟨call, hcall⟩ := Option.ne_none_iff_exists'.1 hj
      have hlt := (List.getElem?_eq_some_iff.1 hcall).1
      by_cases hjk : j = k
      · subst hjk
        simp only [KafkaConnector.step, hcall] at hk
        rw [List.getElem?_set_self hlt] at hk
        rcases (advance_ended _ _ _ _ _).1 (Option.some.inj hk) with rfl | hres | rfl
        · exact hkeep j hcall
        · right
          rw [kafkaResults_append]
          simp only [KafkaConnector.step, hcall]
          exact List.append_ne_nil_of_right_ne_nil _ hres
        · exact .inl (List.mem_append_right _ (List.mem_singleton_self _))
      · apply hkeep k
        simp only [KafkaConnector.step, hcall] at hk
        rwa [List.getElem?_set_ne hjk] at hk

theorem concluded_run (name : String) (config : KafkaConfig) (as : List KafkaAction) :
    Concluded as (Run.outputs step (new name config) as) (Run.final step (new name config) as) := by
  apply Run.history_invariant step (new name config) (I := Concluded)
  · intro k hk
    cases hk
  · exact fun _ _ _ a h => concluded_step h a

/-- A call that is not dropped has returned or can go on, and goes on for so long only. -/
theorem dispatch_moves (name : String) (config : KafkaConfig) (as : List KafkaAction)
    (hbegan : .began k events p ∈ Run.outputs step (new name config) as)
    (hkept : .call k .abort ∉ as) (reply : Nat → Bool) :
    stepsShown k (Run.outputs step (new name config) as) ≤ 2 * events.length + 1 ∧
      ((∃ result, kafkaResults k (Run.outputs step (new name config) as) = [result]) ∨
        ∃ a, Serves reply a ∧ stepsShown k (Run.outputs step (new name config)
          (as ++ [.call k a])) = stepsShown k (Run.outputs step (new name config) as) + 1) := by
  obtain ⟨call, hk, ht⟩ := (booked_run name config as).begun k events p hbegan
  have hacc := ht.account
  refine ⟨hacc.steps_le, ?_⟩
  rcases hacc.returns with hnone | ⟨result, hone, -⟩
  · have hlive : call ≠ .ended := by
      rintro rfl
      rcases concluded_run name config as k hk with hmem | hres
      · exact hkept hmem
      · exact hres hnone
    obtain ⟨a, hserves, hshown⟩ := moves hk hlive reply
    refine .inr ⟨a, hserves, ?_⟩
    rw [Run.outputs_concat, stepsShown_append, hshown]
  · exact .inl ⟨result, hone⟩

/-- A call of `dispatch` that is not dropped can always be brought to its return, whatever the
producer answers: it takes two steps for each message at most, and one for the return. -/
theorem dispatch_returns (name : String) (config : KafkaConfig) (as : List KafkaAction)
    (k : Nat) (events : List CanalEvent) (p : Option Nat)
    (hbegan : .began k events p ∈ Run.outputs step (new name config) as)
    (hkept : .call k .abort ∉ as) (reply : Nat → Bool) :
    ∃ bs : List CallAction, (∀ a ∈ bs, Serves reply a) ∧
      stepsShown k (Run.outputs step (new name config) as) + bs.length ≤ 2 * events.length + 1 ∧
      ∃ result, kafkaResults k (Run.outputs step (new name config) (as ++ bs.map (.call k))) =
        [result] := by
  -- induction on the steps that are left, of which every step of the call takes one
  generalize hm : 2 * events.length + 1 -
    stepsShown k (Run.outputs step (new name config) as) = m
  induction m using Nat.strong_induction_on generalizing as with
  | h m ih =>
    obtain ⟨hle, hreturned | ⟨a, hserves, hshown⟩⟩ :=
      dispatch_moves name config as hbegan hkept reply
    · refine ⟨[], fun a ha => absurd ha List.not_mem_nil, hle, ?_⟩
      rw [List.map_nil, List.append_nil]
      exact hreturned
    · have hbegan' : .began k events p ∈
          Run.outputs step (new name config) (as ++ [.call k a]) := by
        rw [Run.outputs_concat]
        exact List.mem_append_left _ hbegan
      have hkept' : KafkaAction.call k .abort ∉ as ++ [.call k a] := by
        intro hmem
        rcases List.mem_append.1 hmem with hmem | hmem
        · exact hkept hmem
        · cases List.mem_singleton.1 hmem
          exact hserves
      have hle' := (dispatch_moves name config _ hbegan' hkept' reply).1
      obtain ⟨bs, hbs, hlen, result, hresult⟩ :=
        ih _ (by omega) (as ++ [.call k a]) hbegan' hkept' rfl
      refine ⟨a :: bs, ?_, ?_, result, ?_⟩
      · intro b hb
        rcases List.mem_cons.1 hb with rfl | hb
        · exact hserves
        · exact hbs b hb
      · rw [List.length_cons]
        omega
      · rw [List.map_cons, List.append_cons]
        exact hresult

/-- Both messages are in flight and the first is lost. -/
theorem dispatch_returns_two :
    let config : KafkaConfig := { servers := "kafka:9092", topic := "canal" }
    let as := (twoMessages [storedEvent 100, storedEvent 200]).take 5
    ∃ bs : List CallAction, (∀ a ∈ bs, Serves (· != 0) a) ∧
      stepsShown 0 (Run.outputs step (new "kafka" config) as) + bs.length ≤ 5 ∧
      ∃ result, kafkaResults 0 (Run.outputs step (new "kafka" config)
        (as ++ bs.map (.call 0))) = [result] := by
  intro config as
  have hbegan : (Run.outputs step (new "kafka" config) as).take 3 = [.created 0 config.settings,
      .connected 0, .began 0 [storedEvent 100, storedEvent 200] (some 0)] := by rfl
  refine dispatch_returns "kafka" config as 0 [storedEvent 100, storedEvent 200] (some 0) ?_ ?_ _
  · apply List.mem_of_mem_take (i := 3)
    rw [hbegan]
    exact List.mem_cons_of_mem _ (List.mem_cons_of_mem _ (List.mem_cons_self ..))
  · simp [as, twoMessages]

end KafkaConnector

end Canal
