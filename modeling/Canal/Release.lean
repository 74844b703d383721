import Canal.SessionTable

namespace Canal
set_option autoImplicit true

theorem Turn.get_of_other (ht : Turn lib s c a conn ss store es)
    (hcid : conn.state.clientId ≠ some cid) : ss.get cid = s.sessions.get cid := by
  cases ht with
  | idle | stage | quiet | refused | rolledBack | awaiting | served | timedOut | answered => rfl
  | authenticated | subscribed =>
    apply SessionManager.get_register_of_ne
    intro he
    exact hcid (congrArg some he.symm)
  | acked hf hauth hid =>
    apply SessionManager.get_updateAck_of_ne
    intro he
    exact hcid (he ▸ hid)
  | left hf hid =>
    apply SessionManager.get_unregister_of_ne
    intro he
    exact hcid (he ▸ hid)

namespace Server

theorem step_of_closed {s : Server} (hr : (s.conns c).phase = .closed r) (lib : Crates)
    (a : Action) : ((s.step lib a).1.conns c).phase = .closed r ∧
      ((s.step lib a).1.conns c).state = (s.conns c).state := by
  rcases s.step_conn lib a c with ⟨-, -, hc | hc⟩ | ⟨-, ht⟩
  · rw [hc]
    exact ⟨hr, rfl⟩
  · rw [hc]
    exact ⟨(s.conns c).notify_closed.2 hr, (s.conns c).notify_state⟩
  · rw [(ht.of_closed hr).1]
    exact ⟨hr, rfl⟩

theorem step_get_of_closed {s : Server} (hr : (s.conns c).phase = .closed r)
    (hown : ∀ c', c' ≠ c → ((s.step lib a).1.conns c').state.clientId ≠ some cid) :
    (s.step lib a).1.sessions.get cid = s.sessions.get cid := by
  rcases s.step_cases lib a with ⟨events, -, he⟩ | ⟨c', -, conn, ss, store, es, ht, he⟩
  · rw [he]
  · rw [he] at hown ⊢
    by_cases hc : c' = c
    · subst hc
      rw [(ht.of_closed hr).2]
    · have hcid := hown c' hc
      simp only [Function.update_self] at hcid
      exact ht.get_of_other hcid

variable {cap : Nat} {authToken : Option String} {d : Bool}

theorem final_of_closed
    (hr : ((Run.final (step lib) (.new cap authToken d) as).conns c).phase = .closed r)
    (hown : ∀ c', c' ≠ c → ((Run.final (step lib) (.new cap authToken d)
      (as ++ bs)).conns c').state.clientId ≠ some cid) :
    ((Run.final (step lib) (.new cap authToken d) (as ++ bs)).conns c).phase = .closed r ∧
      ((Run.final (step lib) (.new cap authToken d) (as ++ bs)).conns c).state =
        ((Run.final (step lib) (.new cap authToken d) as).conns c).state ∧
      (Run.final (step lib) (.new cap authToken d) (as ++ bs)).sessions.get cid =
        (Run.final (step lib) (.new cap authToken d) as).sessions.get cid := by
  induction bs using List.reverseRecOn with
  | nil =>
    rw [List.append_nil]
    exact ⟨hr, rfl, rfl⟩
  | append_singleton bs b ih =>
    rw [← List.append_assoc] at hown ⊢
    obtain ⟨hr', hs, hg⟩ := ih fun c' hc' h => hown c' hc' (clientId_persists h [b])
    rw [Run.final_concat] at hown ⊢
    obtain ⟨hr'', hs'⟩ := step_of_closed hr' lib b
    exact ⟨hr'', hs'.trans hs, (step_get_of_closed hr' hown).trans hg⟩

theorem get_of_leaves {s : Server} (ha : a.Leaves c) (hopen : ∀ r, (s.conns c).phase ≠ .closed r)
    (hclosed : ((s.step lib a).1.conns c).phase = .closed r)
    (hcid : ((s.step lib a).1.conns c).state.clientId = some cid) :
    (s.step lib a).1.sessions.get cid = none := by
  obtain ⟨frame, tx, rfl, hframe⟩ := ha
  cases hp : (s.conns c).phase with
  | closed r => exact absurd hp (hopen r)
  | get | answer =>
    simp only [step, hp] at hclosed
    cases hclosed
  | frame =>
    have hstep : s.step lib (.receive c frame tx) = s.leave c := by
      rcases hframe with rfl | rfl <;> simp only [step, hp, receive]
    rw [hstep] at hcid ⊢
    unfold leave at hcid ⊢
    cases hc : (s.conns c).state.clientId with
    | none => simp [hc, setConn] at hcid
    | some cid' =>
      simp only [hc, setConn, Function.update_self, Option.some.injEq] at hcid ⊢
      rw [hcid, SessionManager.get_unregister_self]

/-- The entry of a connection whose task has ended is gone if and only if the task came out of its
loop by the end of the stream or the idle timeout. -/
theorem session_released_iff (lib : Crates) (cap : Nat) (authToken : Option String) (d : Bool)
    (as bs : List Action) (a : Action) (c : Nat) (cid : String)
    (hcid : ((Run.final (step lib) (.new cap authToken d) (as ++ a :: bs)).conns c).state.clientId =
      some cid)
    (hown : ∀ c', c' ≠ c → ((Run.final (step lib) (.new cap authToken d)
      (as ++ a :: bs)).conns c').state.clientId ≠ some cid)
    (hopen : ∀ r, ((Run.final (step lib) (.new cap authToken d) as).conns c).phase ≠ .closed r)
    (hclosed : ((Run.final (step lib) (.new cap authToken d) (as ++ [a])).conns c).phase =
      .closed r) :
    (Run.final (step lib) (.new cap authToken d) (as ++ a :: bs)).sessions.get cid = none ↔
      a.Leaves c := by
  have hsplit : as ++ a :: bs = (as ++ [a]) ++ bs := by
    rw [List.append_assoc, List.singleton_append]
  have hone : Run.Along (step lib) (fun _ s _ => s.OneAtATime cid) (.new cap authToken d)
      (as ++ a :: bs) := by
    apply oneAtATime_of_distinct
    intro c₁ c₂ hne h₁ h₂
    by_cases h : c₁ = c
    · exact hown c₂ (fun he => hne (h.trans he.symm)) h₂
    · exact hown c₁ h h₁
  rw [hsplit] at hcid hown ⊢
  obtain ⟨-, hs, hg⟩ := final_of_closed hclosed hown
  rw [hs] at hcid
  rw [hg]
  rw [Run.final_concat] at hclosed hcid ⊢
  have hlive := fun h => live_session hone.left (c := c) ⟨h, hopen⟩
  generalize Run.final (step lib) (.new cap authToken d) as = s at *
  constructor
  · intro hnone
    rcases s.step_conn lib a c with ⟨-, -, hc | hc⟩ | ⟨-, ht⟩
    · exact absurd (hc ▸ hclosed) (hopen _)
    · exact absurd ((s.conns c).notify_closed.1 (hc ▸ hclosed)) (hopen _)
    · rcases ht.registered hcid with h | hsome
      · rcases ht.get_isSome (hlive h) with hsome | ⟨-, ha, -⟩
        · rw [hnone] at hsome
          cases hsome
        · exact ha
      · rw [hnone] at hsome
        cases hsome
  · intro ha
    exact get_of_leaves ha hopen hclosed hcid

theorem session_released_iff_hangup :
    (Run.final (step .literal) (.new 8 none true)
      [.receive 0 (.login "app" "" 0) none, .receive 0 .endOfStream none]).sessions.get "app" =
        none := by
  have hown : ∀ c, c ≠ 0 → ((Run.final (step .literal) (.new 8 none true)
      [.receive 0 (.login "app" "" 0) none, .receive 0 .endOfStream none]).conns c).state.clientId ≠
        some "app" := by
    intro c hc
    rw [final_state_of_not_actor (by simpa [Action.actor] using Ne.symm hc)]
    exact (Option.some_ne_none _).symm
  have h := session_released_iff .literal 8 none true [.receive 0 (.login "app" "" 0) none] []
    (.receive 0 .endOfStream none) 0 "app" rfl hown nofun rfl
  exact h.2 ⟨_, _, rfl, .inl rfl⟩

/-- A frame that is no packet ends the task inside its loop, and the session stays. -/
theorem session_leaked :
    ∃ s, s = Run.final (step .literal) (.new 8 none true)
        [.receive 0 (.login "app" "" 0) none, .receive 0 (.undecodable "invalid tag") none] ∧
      (∃ e, (s.conns 0).phase = .closed (.error e)) ∧
      (s.conns 0).state.clientId = some "app" ∧
      (∀ c, c ≠ 0 → (s.conns c).state.clientId = none) ∧
      s.sessions.get "app" ≠ none := by
  refine ⟨_, rfl, ⟨_, rfl⟩, rfl, ?_, by decide⟩
  intro c hc
  rw [final_state_of_not_actor (by simpa [Action.actor] using Ne.symm hc)]
  rfl

end Server

end Canal
