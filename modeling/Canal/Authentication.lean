import Canal.Trace

namespace Canal
set_option autoImplicit true

/-- The password is the token, byte for byte, and the filter is one the server installs. -/
def ClientAuth.Valid (lib : Crates) (token : String) (auth : ClientAuth) : Prop :=
  auth.password = token.toUTF8.data.toList ∧ ∃ filter, auth.acceptedFilter lib = .ok filter

namespace Server

/-- The action makes connection `c` process a valid authentication. -/
def Presents (s : Server) (lib : Crates) (token : String) (c : Nat) (auth : ClientAuth)
    (a : Action) : Prop :=
  (s.conns c).phase = .frame ∧ auth.Valid lib token ∧
    ∃ tx, a = .receive c (.packet (.clientAuthentication (.ok auth))) tx

/-- How many wrong passwords connection `c` presents along the actions. -/
def refusals (lib : Crates) (c : Nat) (s : Server) : List Action → Nat
  | [] => 0
  | a :: as => (s.refuses c a).toNat + refusals lib c (s.step lib a).1 as

theorem refusals_concat (lib : Crates) (c : Nat) (s : Server) (as : List Action) (a : Action) :
    refusals lib c s (as ++ [a]) =
      refusals lib c s as + ((Run.final (step lib) s as).refuses c a).toNat := by
  induction as generalizing s with
  | nil => simp [refusals, Run.final]
  | cons b as ih =>
    simp only [List.cons_append, refusals, ih, Run.final]
    omega

theorem refuses_of_actor (h : a.actor ≠ some c) (s : Server) : s.refuses c a = false := by
  unfold refuses
  split
  · rename_i c' auth tx
    split
    · have hne : (c' == c) = false := by simpa [Action.actor] using h
      rw [hne, Bool.false_and, Bool.false_and]
    · rfl
  · rfl

theorem refuses_frame {s : Server} (h : s.refuses c a = true) : (s.conns c).phase = .frame := by
  unfold refuses at h
  split at h
  · split at h
    · assumption
    · cases h
  · cases h

end Server

namespace Turn

theorem authErrorCount (ht : Turn lib s c a conn ss store es) :
    conn.state.authErrorCount = (s.conns c).state.authErrorCount + (s.refuses c a).toNat := by
  cases ht with
  | idle hw => rw [hw]; rfl
  | stage hg hw => rw [hw]; rfl
  | quiet hf hw => rw [hw]; rfl
  | refused hf hw => rw [hw]; rfl
  | authenticated hf hauth hpw =>
    simp only [Server.refuses, hf, hauth, refuses_password, hpw, Bool.and_false, Bool.toNat_false,
      Nat.add_zero]
  | left hf hcid hframe =>
    rcases hframe with rfl | rfl <;> rfl
  | _ => rfl

theorem closed (ht : Turn lib s c a conn ss store es)
    (h : 3 ≤ (s.conns c).state.authErrorCount → ∃ r, (s.conns c).phase = .closed r)
    (h3 : 3 ≤ conn.state.authErrorCount) : ∃ r, conn.phase = .closed r := by
  have hopen : ∀ {phase : Phase}, (s.conns c).phase = phase → (∀ r, phase ≠ .closed r) →
      3 ≤ (s.conns c).state.authErrorCount → False := by
    intro phase hp hne hc
    obtain ⟨r, hr⟩ := h hc
    exact hne r (hp.symm.trans hr)
  cases ht with
  | idle hw => exact h h3
  | refused hf hw hp h3' => exact h3' h3
  | stage hg => exact absurd h3 (hopen hg nofun)
  | served hg => exact absurd h3 (hopen hg nofun)
  | timedOut hg => exact absurd h3 (hopen hg nofun)
  | answered hg => exact absurd h3 (hopen hg nofun)
  | quiet hf => exact absurd h3 (hopen hf nofun)
  | authenticated hf => exact absurd h3 (hopen hf nofun)
  | subscribed hf => exact absurd h3 (hopen hf nofun)
  | acked hf => exact absurd h3 (hopen hf nofun)
  | rolledBack hf => exact absurd h3 (hopen hf nofun)
  | awaiting hf => exact absurd h3 (hopen hf nofun)
  | left hf => exact absurd h3 (hopen hf nofun)

theorem untouched (ht : Turn lib s c a conn ss store es)
    (hx : (s.conns c).Explained es₀) (hauth : conn.state.authenticated = false) :
    ss = s.sessions ∧ store = s.store := by
  cases ht with
  | idle | stage | quiet | refused | rolledBack | awaiting | timedOut | answered =>
    exact ⟨rfl, rfl⟩
  | authenticated => cases hauth
  | subscribed hf h => exact absurd (h.symm.trans hauth) nofun
  | acked hf h => exact absurd (h.symm.trans hauth) nofun
  | served hg => exact absurd ((hx.of_call hg).symm.trans hauth) nofun
  | left hf hcid => exact absurd ((hx.authenticated_iff.2 ⟨_, hcid⟩).symm.trans hauth) nofun

theorem presents (ht : Turn lib s c a conn ss store es) (htok : s.authToken = some token)
    (h : auth ∈ auths es) : s.Presents lib token c auth a := by
  have hsends : ∀ {es}, (∀ e ∈ es, ∃ r, e = .send r) → auths es = [] :=
    filterMap_sends fun _ => rfl
  cases ht with
  | idle | stage | rolledBack | awaiting | acked | left => cases h
  | quiet hf hw hp unknown acks | refused hf hw hp h3 acks =>
    rw [hsends (acks_sends acks)] at h
    cases h
  | subscribed hf hauth hid hfilter hp acks =>
    rw [auths, List.filterMap_cons_none rfl, ← auths, hsends (acks_sends acks)] at h
    cases h
  | served | timedOut => cases h
  | answered hg hp sent =>
    rw [hsends (messages_sends sent)] at h
    cases h
  | authenticated hf hauth hpw hfilter hp acks =>
    simp only [auths, List.filterMap_cons, Effect.authAccepted] at h
    rw [← auths, hsends (acks_sends acks), List.mem_singleton] at h
    subst h
    rw [htok, Option.any_some, Bool.not_eq_false', passwordMatches_iff] at hpw
    exact ⟨hf, ⟨hpw, _, hfilter⟩, _, rfl⟩

end Turn

namespace Server

variable {token : String}

theorem final_authToken (lib : Crates) (s : Server) (as : List Action) :
    (Run.final (step lib) s as).authToken = s.authToken :=
  Run.final_invariant (I := fun t : Server => t.authToken = s.authToken)
    (fun t a h => (t.step_authToken lib a).trans h) rfl as

theorem presents_of_mem_auths (lib : Crates) (cap : Nat) (token : String) (d : Bool) (c : Nat)
    (as : List Action)
    (h : auth ∈ auths (trace c (Run.outputs (step lib) (.new cap (some token) d) as))) :
    ∃ pre a post, as = pre ++ a :: post ∧
      (Run.final (step lib) (.new cap (some token) d) pre).Presents lib token c auth a := by
  induction as using List.reverseRecOn with
  | nil => cases h
  | append_singleton as a ih =>
    rw [Run.outputs_concat, trace_append, auths_append, List.mem_append] at h
    rcases h with h | h
    · obtain ⟨pre, b, post, rfl, hp⟩ := ih h
      exact ⟨pre, b, post ++ [a], by rw [List.append_assoc, List.cons_append], hp⟩
    · rcases step_conn lib _ a c with ⟨-, he, -⟩ | ⟨-, ht⟩
      · rw [he] at h
        cases h
      · exact ⟨as, a, [], rfl, ht.presents (final_authToken ..) h⟩

theorem refusals_explained (lib : Crates) (cap : Nat) (authToken : Option String) (d : Bool)
    (c : Nat) (as : List Action) :
    let conn := (Run.final (step lib) (.new cap authToken d) as).conns c
    conn.state.authErrorCount = refusals lib c (.new cap authToken d) as ∧
      (3 ≤ conn.state.authErrorCount → ∃ r, conn.phase = .closed r) ∧
      conn.state.authErrorCount ≤ 3 := by
  induction as using List.reverseRecOn with
  | nil => exact ⟨rfl, nofun, Nat.zero_le _⟩
  | append_singleton as a ih =>
    simp only [Run.final_concat, refusals_concat]
    generalize Run.final (step lib) (.new cap authToken d) as = s at ih ⊢
    obtain ⟨hn, h3, hle⟩ := ih
    rcases s.step_conn lib a c with ⟨ha, -, hc⟩ | ⟨-, ht⟩
    · rw [refuses_of_actor ha, ← hn]
      rcases hc with hc | hc
      · rw [hc]
        exact ⟨rfl, h3, hle⟩
      · rw [hc, Connection.notify_state]
        refine ⟨rfl, fun h => ?_, hle⟩
        obtain ⟨r, hr⟩ := h3 h
        exact ⟨r, by unfold Connection.notify; rw [hr]; exact hr⟩
    · have hcount := ht.authErrorCount
      refine ⟨by rw [hcount, hn], ht.closed h3, ?_⟩
      cases hr : s.refuses c a with
      | false =>
        rw [hcount, hr]
        exact hle
      | true =>
        have hlt : ¬ 3 ≤ (s.conns c).state.authErrorCount := by
          intro h
          obtain ⟨r, hclosed⟩ := h3 h
          exact absurd ((refuses_frame hr).symm.trans hclosed) nofun
        rw [hcount, hr, Bool.toNat_true]
        omega

theorem handleAuth_valid (hauth : st.authenticated = false) (hv : ClientAuth.Valid lib token auth)
    (tx : Option CanalError) (ss : SessionManager) :
    (handleAuth lib tx (some token) st ss (.ok auth)).state.authenticated = true ∧
      (handleAuth lib tx (some token) st ss (.ok auth)).state.clientId =
        some auth.effectiveId := by
  obtain ⟨hp, filter, hf⟩ := hv
  have hm := (passwordMatches_iff token auth.password).2 hp
  simp only [handleAuth, hauth, Bool.false_eq_true, ↓reduceIte, Option.any_some, hm,
    Bool.not_true, hf, Outcome.sendAckOk]
  cases tx <;> exact ⟨rfl, rfl⟩

theorem step_presents {s : Server} (htok : s.authToken = some token)
    (hauth : (s.conns c).state.authenticated = false) (h : s.Presents lib token c auth a) :
    ((s.step lib a).1.conns c).state.authenticated = true ∧
      ((s.step lib a).1.conns c).state.clientId = some auth.effectiveId := by
  obtain ⟨hf, hv, tx, rfl⟩ := h
  have hs := handleAuth_valid hauth hv tx s.sessions
  have he : s.step lib (.receive c (.packet (.clientAuthentication (.ok auth))) tx) =
      s.settle c (handleAuth lib tx s.authToken (s.conns c).state s.sessions (.ok auth)) :=
    step_packet_done lib tx hf rfl
  rw [he, htok]
  obtain ⟨phase, -, -, hsettle⟩ := s.settle_eq c
    (handleAuth lib tx (some token) (s.conns c).state s.sessions (.ok auth))
  rw [hsettle]
  simp only [Function.update_self]
  exact hs

/-- A connection that has presented nothing valid is without identity, and has been sent acks. -/
theorem fresh_of_not_presents (lib : Crates) (cap : Nat) (token : String) (d : Bool) (c : Nat)
    (as : List Action)
    (hno : ∀ pre a post auth, as = pre ++ a :: post →
      ¬ (Run.final (step lib) (.new cap (some token) d) pre).Presents lib token c auth a) :
    ((Run.final (step lib) (.new cap (some token) d) as).conns c).state.authenticated = false ∧
      ∀ e ∈ trace c (Run.outputs (step lib) (.new cap (some token) d) as), ∃ a, e = .ack a := by
  rcases (explained lib cap (some token) d as c).identity with ⟨-, h, -, hacks⟩ | ⟨auth, h, -⟩
  · exact ⟨h, hacks⟩
  · obtain ⟨pre, a, post, he, hp⟩ := presents_of_mem_auths lib cap token d c as
      (h ▸ List.mem_singleton_self auth)
    exact absurd hp (hno pre a post auth he)

end Server

/-- What connection `c` can do before its authentication, how often it may try, and the identity
that it then keeps. -/
theorem authentication_gate (lib : Crates) (cap : Nat) (token : String) (d : Bool) (c : Nat)
    (as : List Action) :
    let start := Server.new cap (some token) d
    let after := Run.final (Server.step lib) start
    let es := trace c (Run.outputs (Server.step lib) start as)
    ((∀ pre a post auth, as = pre ++ a :: post → ¬ (after pre).Presents lib token c auth a) →
      (∀ e ∈ es, ∃ ack, e = .send (.ack ack)) ∧
      ∀ pre a post, as = pre ++ a :: post → a.actor = some c →
        ((after pre).step lib a).1.sessions = (after pre).sessions ∧
        ((after pre).step lib a).1.store = (after pre).store) ∧
    Server.refusals lib c start as ≤ 3 ∧
    (Server.refusals lib c start as = 3 → ∃ r, ((after as).conns c).phase = .closed r) ∧
    (∀ pre a post auth, as = pre ++ a :: post →
      ((after pre).conns c).state.authenticated = false →
      (after pre).Presents lib token c auth a →
      ((after as).conns c).state.authenticated = true ∧
      ((after as).conns c).state.clientId =
        some (if auth.clientId.isEmpty then "anonymous" else auth.clientId)) ∧
    (((after as).conns c).state.authenticated = true →
      (∃ pre a post auth, as = pre ++ a :: post ∧ (after pre).Presents lib token c auth a ∧
        ((after as).conns c).state.clientId =
          some (if auth.clientId.isEmpty then "anonymous" else auth.clientId)) ∧
      ∀ tx get, (∃ st cid call, handleGet tx ((after as).conns c).state (after as).sessions
          (after as).store (.ok get) = .getBatch st cid call) ∨
        ∃ start watermark, handleGet tx ((after as).conns c).state (after as).sessions
            (after as).store (.ok get) = .done (Outcome.sendAckErr
          { state := ((after as).conns c).state, sessions := (after as).sessions } tx
          (droppedMessage start watermark))) := by
  intro start after es
  have hx := fun as => Server.explained lib cap (some token) d as c
  obtain ⟨hn, h3, hle⟩ := Server.refusals_explained lib cap (some token) d c as
  refine ⟨fun hno => ?_, hn ▸ hle, fun h => h3 (hn.trans h).ge, ?_, fun hauth => ⟨?_, ?_⟩⟩
  · have hfresh : ∀ pre post, as = pre ++ post →
        ((after pre).conns c).state.authenticated = false ∧
          ∀ e ∈ trace c (Run.outputs (Server.step lib) start pre), ∃ a, e = .ack a := by
      rintro pre post rfl
      apply Server.fresh_of_not_presents
      intro pre' a post' auth he
      apply hno pre' a (post' ++ post) auth
      rw [he, List.append_assoc, List.cons_append]
    refine ⟨(hfresh as [] (List.append_nil _).symm).2, ?_⟩
    rintro pre a post rfl hactor
    rcases (after pre).step_conn lib a c with ⟨ha, -⟩ | ⟨-, ht⟩
    · exact absurd hactor ha
    · have hauth := (hfresh (pre ++ [a]) post (by simp)).1
      rw [show after (pre ++ [a]) = _ from Run.final_concat] at hauth
      exact ht.untouched (hx pre) hauth
  · rintro pre a post auth rfl hauth hp
    have hs := (Server.step_presents (Server.final_authToken ..) hauth hp).2
    rw [← Run.final_concat] at hs
    have hcid := Server.clientId_persists hs post
    rw [List.append_assoc, List.singleton_append] at hcid
    exact ⟨(hx _).authenticated_iff.2 ⟨_, hcid⟩, hcid⟩
  · rcases (hx as).identity with ⟨-, h, -⟩ | ⟨auth, h, -, hcid⟩
    · rw [hauth] at h
      cases h
    · obtain ⟨pre, a, post, he, hp⟩ := Server.presents_of_mem_auths lib cap token d c as
        (h ▸ List.mem_singleton_self auth)
      exact ⟨pre, a, post, auth, he, hp, hcid⟩
  · intro tx get
    obtain ⟨cid, hcid⟩ := (hx as).authenticated_iff.1 hauth
    cases hl : lostWatermark ((after as).conns c).state (after as).sessions (after as).store
      cid with
    | none => exact .inl ⟨_, _, _, handleGet_served hcid hl⟩
    | some watermark => exact .inr ⟨_, _, handleGet_refused hcid hl⟩

end Canal
