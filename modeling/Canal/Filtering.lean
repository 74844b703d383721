import Canal.SessionTable

namespace Canal
set_option autoImplicit true

/-- What the server relies on in the regex crate: a pattern that compiles within the limit of one
megabyte compiles within the larger default limit, and the default pattern compiles. -/
structure Crates.RegexLaws (lib : Crates) : Prop where
  sized : ∀ pattern, lib.regexBuild pattern (2 ^ 20) = .ok () → lib.regexNew pattern = .ok ()
  default : lib.regexNew FilterPattern.default.pattern = .ok ()

namespace FilterPattern

/-- The table matches the pattern and, if there is a blacklist, does not match that. -/
def Admits (lib : Crates) (fp : FilterPattern) (table : String) : Prop :=
  lib.isMatch fp.pattern table = true ∧
    (fp.blackList.isEmpty = false → lib.isMatch fp.blackList table = false)

def Compiles (lib : Crates) (fp : FilterPattern) : Prop :=
  lib.regexNew fp.pattern = .ok () ∧
    (fp.blackList.isEmpty = false → lib.regexNew fp.blackList = .ok ())

theorem compiles_of_validate {fp : FilterPattern} (hlib : lib.RegexLaws)
    (h : fp.validate lib = .ok ()) : fp.Compiles lib := by
  unfold validate at h
  split at h
  · cases h
  rename_i hp
  split at h
  · split at h
    · cases h
    · rename_i hb
      exact ⟨hlib.sized _ hp, fun _ => hlib.sized _ hb⟩
  · rename_i hb
    refine ⟨hlib.sized _ hp, fun hne => absurd hne ?_⟩
    simpa using hb

theorem compiles_of_check {regex black : String} {fp : FilterPattern} (hlib : lib.RegexLaws)
    (h : checkFilter lib regex black = .ok fp) : fp.Compiles lib := by
  unfold checkFilter at h
  split at h
  · cases h
  simp only at h
  split at h
  · cases h
  · rename_i hv
    cases h
    exact compiles_of_validate hlib hv

theorem compiles_of_accepted {fp : FilterPattern} (hlib : lib.RegexLaws)
    (h : ClientAuth.acceptedFilter lib auth = .ok fp) : fp.Compiles lib := by
  unfold ClientAuth.acceptedFilter at h
  split at h
  · cases h
    exact ⟨hlib.default, nofun⟩
  · exact compiles_of_check hlib h

end FilterPattern

theorem Slot.Describes.admits {sl : Slot} (h : sl.Describes lib cid session)
    (hc : sl.filter.Compiles lib) (hp : sessionPasses lib (some session) table = true) :
    sl.filter.Admits lib table := by
  obtain ⟨destination, rfl⟩ := h
  obtain ⟨h1, h2⟩ := hc
  simp only [sessionPasses, Option.bind_some, ClientSession.new, compile, h1, Option.all_some,
    Bool.and_eq_true, Bool.not_eq_true'] at hp
  refine ⟨hp.1, fun hb => ?_⟩
  have hb' := hp.2
  simp only [hb, h2 hb, Bool.false_eq_true, ↓reduceIte, Option.any_some] at hb'
  exact hb'

/-- The tables of the entries that an effect sends. -/
def Effect.tablesSent : Effect → List (Option String)
  | .send (.messages m) => m.messages.map Proto.Entry.fullName
  | _ => []

namespace Turn

theorem filter_compiles (ht : Turn lib s c a conn ss store es) (hlib : lib.RegexLaws)
    (h : fp ∈ filters es) : fp.Compiles lib := by
  have hsends : ∀ {es}, (∀ e ∈ es, ∃ r, e = .send r) → filters es = [] :=
    filterMap_sends fun _ => rfl
  cases ht with
  | idle | stage | rolledBack | awaiting | acked | served | timedOut | left => cases h
  | quiet hf hw hp unknown acks | refused hf hw hp h3 acks =>
    rw [hsends (acks_sends acks)] at h
    cases h
  | subscribed hf hauth hid hfilter hp acks =>
    simp only [filters, List.filterMap_cons, Effect.filterAccepted] at h
    rw [← filters, hsends (acks_sends acks), List.mem_singleton] at h
    subst h
    exact FilterPattern.compiles_of_check hlib hfilter
  | authenticated hf hauth hpw hfilter hp acks =>
    simp only [filters, List.filterMap_cons, Effect.filterAccepted] at h
    rw [← filters, hsends (acks_sends acks), List.mem_singleton] at h
    subst h
    exact FilterPattern.compiles_of_accepted hlib hfilter
  | answered hg hp sent =>
    rw [hsends (messages_sends sent)] at h
    cases h

/-- An entry is sent out of a batch in hand only, through the session of its client id. -/
theorem sent_passed (ht : Turn lib s c a conn ss store es)
    (h : table ∈ es.flatMap Effect.tablesSent) :
    ∃ tx cid events, a = .answer c tx ∧ (s.conns c).phase = .answer cid events ∧
      events.isEmpty = false ∧
      ∃ name, table = some name ∧ sessionPasses lib (s.sessions.get cid) name = true := by
  have hacks : ∀ acks : List Proto.Ack, (acks.map Effect.ack).flatMap Effect.tablesSent = [] := by
    intro acks
    rw [List.flatMap_map]
    exact List.flatMap_eq_nil_iff.2 fun _ _ => rfl
  cases ht with
  | idle | stage | rolledBack | awaiting | acked | served | timedOut | left => cases h
  | quiet hf hw hp unknown acks | refused hf hw hp h3 acks =>
    rw [hacks] at h
    cases h
  | subscribed hf hauth hid hfilter hp acks =>
    rw [List.flatMap_cons, hacks] at h
    cases h
  | authenticated hf hauth hpw hfilter hp acks =>
    rw [List.flatMap_cons, List.flatMap_cons, hacks] at h
    cases h
  | answered hg hp sent hs =>
    rw [List.flatMap_map, List.mem_flatMap] at h
    obtain ⟨m, hm, ht⟩ := h
    obtain ⟨entry, hentry, rfl⟩ := List.mem_map.1 ht
    obtain ⟨hempty, -, hpassed⟩ := hs m hm
    obtain ⟨e, -, hpass, hname⟩ := hpassed entry hentry
    refine ⟨_, _, _, rfl, hg, ?_, _, hname, hpass⟩
    by_contra hne
    rw [Bool.not_eq_false] at hne
    rw [hempty hne] at hentry
    cases hentry

end Turn

namespace Server

theorem filters_compile (hlib : lib.RegexLaws) (cap : Nat) (authToken : Option String)
    (d : Bool) (as : List Action) (c : Nat) :
    ∀ fp ∈ filters (trace c (Run.outputs (step lib) (.new cap authToken d) as)),
      fp.Compiles lib := by
  refine conn_invariant lib (.new cap authToken d) c
    (I := fun _ es => ∀ fp ∈ filters es, fp.Compiles lib) nofun (fun _ _ h => h) ?_ as
  intro t a conn ss store es es' _ ht h fp hfp
  rw [filters_append, List.mem_append] at hfp
  exact hfp.elim (h fp) fun hfp => ht.filter_compiles hlib hfp

/-- The last write under the client id of the connection was a registration of its own. -/
def OwnSession (s : Server) (os : List (Nat × Effect)) (c : Nat) : Prop :=
  ∃ cid sl, (s.conns c).state.clientId = some cid ∧ slot cid os = some sl ∧ sl.owner = c

end Server

/-- In a run whose batches all find the connection's own registration standing when `handle_get`
looks the session up, everything sent passes the filter last accepted on the same connection. -/
theorem sent_entries_pass_own_filter (hlib : lib.RegexLaws) (cap : Nat)
    (authToken : Option String) (d : Bool) (as : List Action)
    (hown : Run.Along (Server.step lib) (fun os s a => ∀ c tx cid events, a = .answer c tx →
      (s.conns c).phase = .answer cid events → events.isEmpty = false → s.OwnSession os c)
      (.new cap authToken d) as) :
    ∀ pre a post c, as = pre ++ a :: post →
      let s := Run.final (Server.step lib) (.new cap authToken d) pre
      ∀ table ∈ (trace c (s.step lib a).2).flatMap Effect.tablesSent, ∃ fp name,
        (filters (trace c (Run.outputs (Server.step lib) (.new cap authToken d) pre))).getLast? =
          some fp ∧
        table = some name ∧ fp.Admits lib name := by
  intro pre a post c he s table htable
  rcases s.step_conn lib a c with ⟨-, hnone, -⟩ | ⟨-, ht⟩
  · rw [hnone] at htable
    cases htable
  obtain ⟨tx, cid, events, ha, hg, hne, name, hname, hpass⟩ := ht.sent_passed htable
  obtain ⟨cid', sl, hcid, hslot, rfl⟩ := hown pre a post he _ tx cid events ha hg hne
  have hcid' : cid = cid' := by
    have hx := Server.explained lib cap authToken d pre sl.owner
    exact Option.some.inj ((hx.answer hg).1.symm.trans hcid)
  subst hcid'
  obtain ⟨-, hlast⟩ := (slot_some (Server.singleId lib cap authToken d pre) hslot).1
  have hd := Server.sessions_slot lib cap authToken d pre cid
  rw [hslot] at hd
  generalize hsession : SessionManager.get _ cid = session at hd
  rw [hsession] at hpass
  cases hd with
  | some hdesc =>
    have hc := Server.filters_compile hlib cap authToken d pre sl.owner sl.filter
      (List.mem_of_getLast? hlast)
    exact ⟨sl.filter, name, hlast, hname, hdesc.admits hc hpass⟩

/-- The connection whose batch is answered. -/
def Action.answered : Action → Option Nat
  | .answer c _ => some c
  | _ => none

def Phase.batch : Phase → Option Events
  | .answer _ events => some events
  | _ => none

instance (os : List (Nat × Effect)) (s : Server) (c : Nat) : Decidable (s.OwnSession os c) :=
  decidable_of_iff ((s.conns c).state.clientId.any fun cid =>
      (slot cid os).any fun sl => sl.owner == c) (by
    simp only [Option.any_eq_true, beq_iff_eq]
    constructor
    · rintro ⟨cid, hcid, sl, hsl, howner⟩
      exact ⟨cid, sl, hcid, hsl, howner⟩
    · rintro ⟨cid, sl, hcid, hsl, howner⟩
      exact ⟨cid, hcid, sl, hsl, howner⟩)

/-- Two connections under one client id, of which the other one has registered last when the empty
answer of the first goes out, and the first one again when its row does. -/
theorem sent_entries_pass_own_filter_users :
    let as : List Action := [.receive 0 (.login "app" "db" 0) none,
      .receive 1 (.login "app" "" 0) none, .receive 0 (.fetch 10) none, .arm 0, .check 0,
      .timeout 0, .answer 0 none, .receive 0 (.packet (.subscription (.ok
        { clientId := "app", destination := "example", filter := "db" }))) none,
      .putBatch [storedEvent 100], .receive 0 (.fetch 10) none, .arm 0, .check 0, .answer 0 none]
    ∀ pre a post c, as = pre ++ a :: post →
      let s := Run.final (Server.step .literal) (.new 8 none true) pre
      ∀ table ∈ (trace c (s.step .literal a).2).flatMap Effect.tablesSent, ∃ fp name,
        (filters (trace c (Run.outputs (Server.step .literal) (.new 8 none true) pre))).getLast? =
          some fp ∧
        table = some name ∧ fp.Admits .literal name := by
  intro as
  apply sent_entries_pass_own_filter ⟨fun _ _ => rfl, rfl⟩ 8 none true
  have h : Run.check (Server.step .literal) (fun os s a =>
      a.answered.all fun c => (s.conns c).phase.batch.all fun events =>
        events.isEmpty || decide (s.OwnSession os c)) [] (.new 8 none true) as = true := by decide
  intro pre a post he c tx cid events ha hp hne
  have hg := Run.Along.of_check h pre a post he
  rw [ha, Action.answered, Option.all_some, hp, Phase.batch, Option.all_some, hne,
    Bool.false_or] at hg
  exact of_decide_eq_true hg

/-- Two consumers share a client id; the one that asks for users stays. -/
def sharedId : List Action :=
  [.receive 0 (.login "app" "users" 0) none, .receive 1 (.login "app" "" 0) none,
    .receive 1 .endOfStream none, .putBatch [storedEvent 100],
    .receive 0 (.fetch 10) none, .arm 0, .check 0]

/-- A disconnect under the same client id removes the filter: a row of `db.t` goes to the consumer
of users. -/
theorem disconnect_removes_filter :
    let s := Run.final (Server.step .literal) (.new 8 none true) sharedId
    let os := Run.outputs (Server.step .literal) (.new 8 none true) sharedId
    (filters (trace 0 os)).getLast? = some { pattern := "users", blackList := "" } ∧
      (trace 0 (s.step .literal (.answer 0 none)).2).flatMap Effect.tablesSent = [some "db.t"] ∧
      Crates.literal.isMatch "users" "db.t" = false := by
  refine ⟨by decide, by decide, by decide⟩

end Canal
