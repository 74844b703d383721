import Canal.Trace

namespace Canal
set_option autoImplicit true

theorem checkFilter_eq (h : checkFilter lib pattern blackList = .ok fp) :
    fp = { pattern, blackList } := by
  rw [checkFilter] at h
  split at h
  · cases h
  · simp only at h
    split at h
    · cases h
    · cases h
      rfl

theorem checkFilter_empty {lib : Crates} (h : lib.regexBuild "" (2 ^ 20) = .ok ()) :
    checkFilter lib "" "" = .ok { pattern := "", blackList := "" } := by
  have hsize : ¬ maxFilterPatternLen < "".utf8ByteSize := by decide
  rw [checkFilter, if_neg hsize]
  simp only [FilterPattern.validate, h]
  rfl

/-- A filter that Auth accepts passes the checks of Sub where there is no black list. -/
theorem ClientAuth.checkFilter_of_accepted {lib : Crates} {auth : ClientAuth}
    (hempty : lib.regexBuild "" (2 ^ 20) = .ok ()) (h : auth.acceptedFilter lib = .ok fp) :
    ∃ fp, checkFilter lib auth.filter "" = .ok fp := by
  rw [acceptedFilter] at h
  split at h
  · rename_i hf
    rw [String.isEmpty_iff] at hf
    rw [hf]
    exact ⟨_, checkFilter_empty hempty⟩
  · exact ⟨fp, h⟩

theorem ClientAuth.acceptedFilter_blackList {auth : ClientAuth}
    (h : auth.acceptedFilter lib = .ok fp) : fp.blackList = "" := by
  rw [acceptedFilter] at h
  split at h
  · cases h
    rfl
  · rw [checkFilter_eq h]

/-- The black list that Sub takes over from the session under its client id. -/
def SessionManager.blackList (ss : SessionManager) (clientId : String) : String :=
  ((ss.get clientId).map fun s => s.filter.blackList).getD ""

def SessionManager.Plain (ss : SessionManager) : Prop := ∀ cid, ss.blackList cid = ""

namespace SessionManager.Plain

variable {ss : SessionManager}

theorem new : SessionManager.new.Plain := fun _ => rfl

theorem register (h : ss.Plain) (hf : filter.blackList = "") (lib : Crates)
    (id destination : String) : (ss.register lib id destination filter).Plain := by
  intro cid
  by_cases hid : cid = id
  · subst hid
    rw [blackList, get_register_self]
    exact hf
  · rw [blackList, get_register_of_ne hid]
    exact h cid

theorem unregister (h : ss.Plain) (id : String) : (ss.unregister id).Plain := by
  intro cid
  by_cases hid : cid = id
  · subst hid
    rw [blackList, get_unregister_self]
    rfl
  · rw [blackList, get_unregister_of_ne hid]
    exact h cid

theorem updateAck (h : ss.Plain) (id : String) (pos : LogPosition) :
    (ss.updateAck id pos).Plain := by
  intro cid
  have hcid := h cid
  rw [blackList] at hcid ⊢
  by_cases hid : cid = id
  · subst hid
    rw [get_updateAck_self, Option.map_map]
    exact hcid
  · rw [get_updateAck_of_ne hid]
    exact hcid

end SessionManager.Plain

theorem Turn.plain {s : Server} (ht : Turn lib s c a conn ss store es) (h : s.sessions.Plain) :
    ss.Plain := by
  cases ht with
  | authenticated hf hauth hpw hfilter =>
    exact h.register (ClientAuth.acceptedFilter_blackList hfilter) _ _ _
  | subscribed hf hauth hid hfilter =>
    apply h.register
    rw [checkFilter_eq hfilter]
    exact h _
  | acked => exact h.updateAck _ _
  | left => exact h.unregister _
  | idle | stage | quiet | refused | rolledBack | awaiting | served | timedOut | answered =>
    exact h

theorem Server.sessions_plain (lib : Crates) (cap : Nat) (authToken : Option String) (d : Bool)
    (as : List Action) : (Run.final (step lib) (.new cap authToken d) as).sessions.Plain := by
  refine Run.final_invariant (I := fun s : Server => s.sessions.Plain) ?_ .new as
  intro s a h
  rcases s.step_cases lib a with ⟨events, -, he⟩ | ⟨c, -, conn, ss, store, es, ht, he⟩
  · rw [he]
    exact h
  · rw [he]
    exact ht.plain h

theorem Server.auths_accepted (lib : Crates) (cap : Nat) (authToken : Option String) (d : Bool)
    (as : List Action) (c : Nat) :
    ∀ auth ∈ auths (trace c (Run.outputs (step lib) (.new cap authToken d) as)),
      ∃ filter, auth.acceptedFilter lib = .ok filter := by
  apply conn_invariant lib (.new cap authToken d) c
    (I := fun _ es => ∀ auth ∈ auths es, ∃ filter, auth.acceptedFilter lib = .ok filter)
  · intro auth h
    cases h
  · intro conn es h
    exact h
  · intro t a conn ss store es es' _ ht h auth hm
    rw [auths_append, List.mem_append] at hm
    rcases hm with hm | hm
    · exact h auth hm
    · have hsends : ∀ {es}, (∀ e ∈ es, ∃ r, e = .send r) → auths es = [] :=
        filterMap_sends fun _ => rfl
      cases ht with
      | idle | stage | rolledBack | awaiting | acked | served | timedOut | left => cases hm
      | quiet hf hw hp unknown acks | refused hf hw hp h3 acks =>
        rw [hsends (acks_sends acks)] at hm
        cases hm
      | subscribed hf hauth hid hfilter hp acks =>
        rw [auths, List.filterMap_cons_none rfl, ← auths, hsends (acks_sends acks)] at hm
        cases hm
      | authenticated hf hauth hpw hfilter hp acks =>
        simp only [auths, List.filterMap_cons, Effect.authAccepted] at hm
        rw [← auths, hsends (acks_sends acks), List.mem_singleton] at hm
        rw [hm]
        exact ⟨_, hfilter⟩
      | answered hg hp sent =>
        rw [hsends (messages_sends sent)] at hm
        cases hm

namespace Server

section Sub

variable {s : Server} (lib : Crates)

theorem step_sub {sub : Sub} (hf : (s.conns c).phase = .frame)
    (hauth : (s.conns c).state.authenticated = true) :
    s.step lib (.receive c (.packet (.subscription (.ok sub))) none) =
      s.settle c (handleSub lib none { (s.conns c).state with unknownPacketCount := 0 } s.sessions
        (.ok sub)) := by
  apply step_packet_done lib none hf
  exact if_neg (by rw [hauth]; decide)

theorem step_sub_accepted {sub : Sub} (hf : (s.conns c).phase = .frame)
    (hauth : (s.conns c).state.authenticated = true)
    (hcid : (s.conns c).state.clientId = some sub.clientId)
    (hfp : checkFilter lib sub.filter (s.sessions.blackList sub.clientId) = .ok fp) :
    s.step lib (.receive c (.packet (.subscription (.ok sub))) none) =
      ({ s with sessions := s.sessions.register lib sub.clientId sub.destination fp }.setConn c
        { state := { (s.conns c).state with unknownPacketCount := 0 }, phase := .frame },
        [(c, .register sub.clientId fp), (c, .ack {})]) := by
  rw [step_sub lib hf hauth, handleSub]
  rw [SessionManager.blackList] at hfp
  simp only [hcid, Option.filter_some, ne_eq, not_true_eq_false, decide_false, hfp]
  rfl

theorem step_sub_mismatch {sub : Sub} (hf : (s.conns c).phase = .frame)
    (hauth : (s.conns c).state.authenticated = true)
    (hcid : (s.conns c).state.clientId = some cid) (hne : cid ≠ sub.clientId) :
    (s.step lib (.receive c (.packet (.subscription (.ok sub))) none)).2 =
      [(c, .ack { errorCodePresent := some 1
                  errorMessage := "client_id mismatch: sub has '" ++ sub.clientId ++
                    "' but authenticated as '" ++ cid ++ "'" })] := by
  rw [step_sub lib hf hauth, handleSub]
  simp only [hcid, Option.filter_some, ne_eq, hne, not_false_eq_true, decide_true, if_true]
  rfl

end Sub

end Server

/-- The Sub that repeats the identity, the destination and the filter of an authentication. -/
def ClientAuth.toSub (auth : ClientAuth) : Sub :=
  { destination := auth.destination, clientId := auth.clientId, filter := auth.filter }

theorem ClientAuth.effectiveId_eq_iff (auth : ClientAuth) :
    auth.effectiveId = auth.clientId ↔ auth.clientId ≠ "" := by
  rw [effectiveId]
  by_cases h : auth.clientId = ""
  · rw [h]
    decide
  · rw [if_neg (by rwa [String.isEmpty_iff])]
    exact ⟨fun _ => h, fun _ => rfl⟩

/-- After an accepted authentication, at any later point at which the connection takes a packet,
the Sub with the same client id, destination and filter is accepted and leaves the session under
the identity of the authentication if and only if that client id is not empty. -/
theorem sub_accepted_iff {lib : Crates} (hempty : lib.regexBuild "" (2 ^ 20) = .ok ())
    (cap : Nat) (authToken : Option String) (d : Bool) (as : List Action) (auth : ClientAuth)
    (hauth : auth ∈ auths (trace c (Run.outputs (Server.step lib) (.new cap authToken d) as)))
    (hf : ((Run.final (Server.step lib) (.new cap authToken d) as).conns c).phase = .frame) :
    let s := Run.final (Server.step lib) (.new cap authToken d) as
    let r := s.step lib (.receive c (.packet (.subscription (.ok auth.toSub))) none)
    (∃ fp, r.2 = [(c, .register auth.effectiveId fp), (c, .ack {})] ∧
      r.1.sessions.get auth.effectiveId =
        some (.new lib auth.effectiveId auth.destination fp) ∧
      (r.1.conns c).state.clientId = some auth.effectiveId) ↔
    auth.clientId ≠ "" := by
  intro s r
  obtain ⟨filter, hfilter⟩ := Server.auths_accepted lib cap authToken d as c auth hauth
  obtain ⟨hlogged, hcid⟩ := (Server.explained lib cap authToken d as c).of_auths hauth
  constructor
  · intro ⟨fp, hr, _⟩ hid
    have hne : auth.effectiveId ≠ auth.toSub.clientId := by
      intro he
      exact auth.effectiveId_eq_iff.mp he hid
    rw [Server.step_sub_mismatch lib hf hlogged hcid hne] at hr
    cases hr
  · intro hid
    have he := auth.effectiveId_eq_iff.mpr hid
    obtain ⟨fp, hfp⟩ := ClientAuth.checkFilter_of_accepted hempty hfilter
    have hplain := Server.sessions_plain lib cap authToken d as auth.toSub.clientId
    rw [he] at hcid ⊢
    have hstep := Server.step_sub_accepted lib hf hlogged hcid
      (by rw [hplain]; exact hfp)
    refine ⟨fp, ?_, ?_, ?_⟩
    · rw [show r = _ from hstep]
      rfl
    · rw [show r = _ from hstep]
      exact SessionManager.get_register_self ..
    · rw [show r = _ from hstep]
      simp only [Server.setConn, Function.update_self]
      exact hcid

/-- A client that logs in without an id becomes `anonymous` and cannot subscribe. -/
theorem anonymous_sub_refused :
    let auth : ClientAuth :=
      { password := [], destination := "example", clientId := "", filter := "db",
        startTimestamp := 0 }
    let as : List Action := [.receive 0 (.packet (.clientAuthentication (.ok auth))) none]
    let s := Run.final (Server.step .literal) (.new 8 none false) as
    auth ∈ auths (trace 0 (Run.outputs (Server.step .literal) (.new 8 none false) as)) ∧
      (s.conns 0).phase = .frame ∧
      (s.step .literal (.receive 0 (.packet (.subscription (.ok auth.toSub))) none)).2 =
        [(0, .ack { errorCodePresent := some 1
                    errorMessage :=
                      "client_id mismatch: sub has '' but authenticated as 'anonymous'" })] := by
  intro auth as s
  exact ⟨by decide, rfl, by decide⟩

theorem sub_accepted_app :
    let auth : ClientAuth :=
      { password := [], destination := "example", clientId := "app", filter := "",
        startTimestamp := 0 }
    let as : List Action := [.receive 0 (.packet (.clientAuthentication (.ok auth))) none]
    let s := Run.final (Server.step .literal) (.new 8 none false) as
    let r := s.step .literal (.receive 0 (.packet (.subscription (.ok auth.toSub))) none)
    ∃ fp, r.2 = [(0, .register "app" fp), (0, .ack {})] ∧
      r.1.sessions.get "app" = some (.new .literal "app" "example" fp) ∧
      (r.1.conns 0).state.clientId = some "app" := by
  intro auth as s r
  exact (sub_accepted_iff rfl 8 none false as auth (by decide) rfl).mpr (by decide)

end Canal
