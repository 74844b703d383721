import Canal.Fetching

namespace Canal
set_option autoImplicit true

open KeyedLog

/-- The events of the batches, in the order of the reads. -/
def delivered (bs : List Events) : List CanalEvent := bs.flatMap Events.events

/-- Where the last batch ends. -/
def lastEnd (bs : List Events) : Option LogPosition := bs.getLast?.map fun b => b.positionRange.stop

/-- The part of the feed between the first start of a reader and where it has come to. -/
def due (start : LogPosition) (stop : Option LogPosition) (feed : List CanalEvent) :
    List CanalEvent :=
  match stop with
  | none => []
  | some p => upTo CanalEvent.key p.key (suffixFrom start.selects feed)

theorem due_positional {start stop : LogPosition} (h : start.timestamp = none)
    (hm : Ascending CanalEvent.key feed) :
    due start (some stop) feed =
      feed.filter fun e => decide (start.key < e.key) && decide (e.key ≤ stop.key) := by
  rw [due, ← start.readable_ascending hm, LogPosition.readable_positional h hm]
  simp only [upTo, after, List.filter_filter, Bool.and_comm]

@[simp] theorem delivered_concat (bs : List Events) (b : Events) :
    delivered (bs ++ [b]) = delivered bs ++ b.events := by
  simp only [delivered, List.flatMap_append, List.flatMap_singleton]

@[simp] theorem lastEnd_concat (bs : List Events) (b : Events) :
    lastEnd (bs ++ [b]) = some b.positionRange.stop := by
  rw [lastEnd, List.getLast?_concat, Option.map_some]

/-- A connection that has read `bs` from its first start on, and where it goes on. -/
structure Delivery (cap : Nat) (start : LogPosition) (cid : String) (feed : List CanalEvent)
    (bs : List Events) (conn : Connection) (ss : SessionManager) (store : MemoryEventStore) :
    Prop where
  stored : Reflects cap feed store
  clientId : conn.state.clientId = some cid
  next : getStart conn.state ss cid = (lastEnd bs).getD start
  call : ∀ id call, conn.phase = .get id call → call.start = (lastEnd bs).getD start
  ends : ∀ p, lastEnd bs = some p → p.timestamp = none ∧ ∃ e ∈ delivered bs, e.key = p.key
  exact : delivered bs = due start (lastEnd bs) feed

namespace Delivery

theorem ne_nil (h : Delivery cap start cid feed bs conn ss store) (hp : lastEnd bs = some p) :
    upTo CanalEvent.key p.key (suffixFrom start.selects feed) ≠ [] := by
  obtain ⟨-, e, he, -⟩ := h.ends p hp
  rw [h.exact, hp] at he
  exact List.ne_nil_of_mem he

theorem put {s : Server} (h : Delivery cap start cid feed bs (s.conns c) s.sessions s.store)
    (hm : Ascending CanalEvent.key (feed ++ events))
    (hnew : ∀ e p, events.head? = some e → lastEnd bs = some p → e.key ≠ p.key) (lib : Crates) :
    let s' := (s.step lib (.putBatch events)).1
    Delivery cap start cid (feed ++ events) bs (s'.conns c) s'.sessions s'.store := by
  obtain ⟨hstate, hcall⟩ := Server.step_other (a := .putBatch events) (c := c) nofun lib s
  refine ⟨h.stored.putBatch hm s.debugAssertions, by rw [hstate]; exact h.clientId,
    by rw [hstate]; exact h.next, fun id call hg => ?_, h.ends, ?_⟩
  · obtain ⟨call', hg', he⟩ := hcall id call hg
    rw [he]
    exact h.call id call' hg'
  · rw [h.exact]
    cases hp : lastEnd bs with
    | none => rfl
    | some p =>
      refine (upTo_suffixFrom_append (h.ne_nil hp) fun x hx => ?_).symm
      obtain ⟨-, e, he, hk⟩ := h.ends p hp
      rw [h.exact, hp] at he
      have hfeed : e ∈ feed := (suffixFrom_suffix _ _).mem (mem_upTo.1 he).1
      cases hfirst : events.head? with
      | none =>
        rw [List.head?_eq_none_iff.1 hfirst] at hx
        cases hx
      | some first =>
        have hle : p.key ≤ first.key :=
          hk ▸ hm.le_of_append hfeed (List.mem_of_mem_head? hfirst)
        have hlt := lt_of_le_of_ne hle (hnew first p hfirst hp).symm
        exact hlt.trans_le (hm.right.first_le hfirst hx)

theorem put_ne (h : Delivery cap start cid feed bs conn ss store) (he : events.head? = some e)
    (hp : lastEnd bs = some p) (hk : e.key = p.key) :
    delivered bs ≠ due start (lastEnd bs) (feed ++ events) := by
  rw [h.exact, hp]
  exact (upTo_suffixFrom_append_ne (h.ne_nil hp) (List.mem_of_mem_head? he) hk.le).symm

theorem read (h : Delivery cap start cid feed bs conn ss store)
    (hm : Ascending CanalEvent.key feed) (hcap : feed.length ≤ cap)
    (hr : store.lockedRead ((lastEnd bs).getD start) n = (store', some events)) :
    (∃ e ∈ events.events, e.key = events.positionRange.stop.key) ∧
      events.positionRange.stop.timestamp = none ∧
      delivered (bs ++ [events]) = due start (some events.positionRange.stop) feed := by
  obtain ⟨-, hpage, e, he, hstop⟩ := lockedRead_some hr
  have hbuf : store.buffer = feed := by rw [h.stored.buffer, retain_eq_self hcap]
  rw [hbuf] at hpage
  refine ⟨⟨e, List.mem_of_getLast? he, by rw [hstop]; rfl⟩, by rw [hstop]; rfl, ?_⟩
  rw [delivered_concat, h.exact, due, hstop, CanalEvent.key_logPosition]
  cases hp : lastEnd bs with
  | none =>
    rw [hp, Option.getD_none, start.readable_ascending hm] at hpage
    rw [due, List.nil_append, hpage]
    rw [hpage] at he
    exact (hm.suffixFrom_sel start.selects).page_eq_upTo he
  | some p =>
    rw [hp, Option.getD_some, LogPosition.readable_positional (h.ends p hp).1 hm] at hpage
    rw [due, hpage]
    rw [hpage] at he
    exact hm.read_on (h.ne_nil hp) he

theorem turn {s : Server} (h : Delivery cap start cid feed bs (s.conns c) s.sessions s.store)
    (hm : Ascending CanalEvent.key feed) (hcap : feed.length ≤ cap) (hget : a.Fetches c)
    (ht : Turn lib s c a conn ss store es) :
    Delivery cap start cid feed (bs ++ batches es) conn ss store := by
  obtain ⟨rfl, hf⟩ := ht.fetched hget
  cases hf with
  | waits unknown hg hb =>
    rw [hb, List.append_nil]
    refine ⟨h.stored, h.clientId, h.next, fun id call hg' => ?_, h.ends, h.exact⟩
    obtain ⟨call', hg', he⟩ := hg id call hg'
    rw [he]
    exact h.call id call' hg'
  | calls hf hcid hlost n =>
    rw [h.clientId, Option.some.injEq] at hcid
    rw [batches_nil, List.append_nil]
    refine ⟨h.stored, h.clientId, h.next, ?_, h.ends, h.exact⟩
    rintro id call ⟨⟩
    exact hcid ▸ h.next
  | reads hg hr hp hb =>
    rename_i id call events phase
    rw [h.call id call hg] at hr
    obtain ⟨hend, hts, hexact⟩ := h.read hm hcap hr
    rw [hb]
    refine ⟨?_, h.clientId, ?_, fun _ _ hg' => absurd hg' (hp _ _), ?_, ?_⟩
    · rw [show store = _ from (congrArg Prod.fst hr).symm]
      exact h.stored.lockedRead _ _
    · rw [lastEnd_concat]
      rfl
    · rw [lastEnd_concat, delivered_concat]
      rintro p ⟨⟩
      exact ⟨hts, hend.imp fun e he => ⟨List.mem_append_right _ he.1, he.2⟩⟩
    · rw [lastEnd_concat]
      exact hexact

end Delivery

/-- A put that does not start at the key where the last batch of connection `c` ends. -/
def StartsPast (c : Nat) (os : List (Nat × Effect)) (a : Action) : Prop :=
  ∀ e ∈ a.fed.head?, ∀ b ∈ (batches (trace c os)).getLast?, e.key ≠ b.positionRange.stop.key

theorem StartsPast.lastEnd (h : StartsPast c os a) (he : a.fed.head? = some e)
    (hp : lastEnd (batches (trace c os)) = some p) : e.key ≠ p.key := by
  obtain ⟨b, hb, rfl⟩ := Option.map_eq_some_iff.1 hp
  exact h e he b hb

/-- As long as no put starts where the last batch ends, a connection in front of a frame is given
what is due from there on. -/
theorem delivery_along {s₀ : Server} (hstore : Reflects cap history s₀.store)
    (hf : (s₀.conns c).phase = .frame) (hcid : (s₀.conns c).state.clientId = some cid)
    (honly : ∀ a ∈ as, ∀ c', a.actor = some c' → c' = c) (hget : ∀ a ∈ as, a.Fetches c)
    (hm : Ascending CanalEvent.key (history ++ fedBy as))
    (hcap : (history ++ fedBy as).length ≤ cap)
    (hg : Run.Along (Server.step lib) (fun os _ a => StartsPast c os a) s₀ as) :
    let s := Run.final (Server.step lib) s₀ as
    Delivery cap (getStart (s₀.conns c).state s₀.sessions cid) cid (history ++ fedBy as)
      (batches (trace c (Run.outputs (Server.step lib) s₀ as))) (s.conns c) s.sessions s.store := by
  induction as using List.reverseRecOn with
  | nil =>
    rw [fedBy_nil, List.append_nil]
    refine ⟨hstore, hcid, rfl, fun id call hget => ?_, nofun, rfl⟩
    exact absurd (hf.symm.trans hget) nofun
  | append_singleton as a ih =>
    rw [fedBy_concat, ← List.append_assoc] at hm hcap ⊢
    have hlen : (history ++ fedBy as).length ≤ cap := by
      rw [List.length_append] at hcap
      omega
    have ih := ih (fun b hb => honly b (List.mem_append_left _ hb))
      (fun b hb => hget b (List.mem_append_left _ hb)) hm.left hlen hg.left
    have hlast := hg.last
    have ha : a ∈ as ++ [a] := List.mem_append_right _ (List.mem_singleton_self _)
    rw [Run.final_concat, Run.outputs_concat, trace_append, batches_append]
    generalize Run.outputs (Server.step lib) s₀ as = os at ih hlast ⊢
    generalize Run.final (Server.step lib) s₀ as = s at ih hlast ⊢
    cases hactor : a.actor with
    | none =>
      obtain ⟨events, rfl⟩ := Action.eq_putBatch hactor
      have hput := ih.put hm (fun e p he hp => hlast.lastEnd he hp) lib
      exact (List.append_nil (batches (trace c os))).symm ▸ hput
    | some c' =>
      obtain rfl := honly a ha c' hactor
      rw [Action.fed_of_actor hactor, List.append_nil]
      rcases s.step_conn lib a c' with ⟨hne, -⟩ | ⟨-, ht⟩
      · exact absurd hactor hne
      · exact ih.turn hm.left hlen (hget a ha) ht

/-- A connection that only fetches, from any point of a run on: its batches are at every later point
what is due, each event once and in order, if and only if no put starts at the key where the last
batch ends. -/
theorem delivered_exactly_once_iff (lib : Crates) (cap : Nat) (authToken : Option String) (d : Bool)
    (before as : List Action) (c : Nat) (cid : String) :
    let s₀ := Run.final (Server.step lib) (.new cap authToken d) before
    let start := getStart (s₀.conns c).state s₀.sessions cid
    let read := fun pre => batches (trace c (Run.outputs (Server.step lib) s₀ pre))
    (s₀.conns c).phase = .frame → (s₀.conns c).state.clientId = some cid →
    (∀ a ∈ as, ∀ c', a.actor = some c' → c' = c) → (∀ a ∈ as, a.Fetches c) →
    Ascending CanalEvent.key (fedBy (before ++ as)) →
    (fedBy (before ++ as)).length ≤ cap →
    ((∀ pre, pre <+: as →
        delivered (read pre) = due start (lastEnd (read pre)) (fedBy (before ++ pre))) ↔
      Run.Along (Server.step lib) (fun os _ a => StartsPast c os a) s₀ as) := by
  intro s₀ start read hf hcid honly hget hm hcap
  have hstore : Reflects cap (fedBy before) s₀.store :=
    Server.reflects lib cap authToken d (fedBy_append before as ▸ hm).left
  have along : ∀ pre, pre <+: as →
      Run.Along (Server.step lib) (fun os _ a => StartsPast c os a) s₀ pre →
      Delivery cap start cid (fedBy (before ++ pre)) (read pre)
        ((Run.final (Server.step lib) s₀ pre).conns c)
        (Run.final (Server.step lib) s₀ pre).sessions
        (Run.final (Server.step lib) s₀ pre).store := by
    intro pre hp hg
    have hfed := fedBy_isPrefix ((List.prefix_append_right_inj before).2 hp)
    have hm := hm.sublist hfed.sublist
    have hcap := hfed.length_le.trans hcap
    rw [fedBy_append] at hm hcap ⊢
    exact delivery_along hstore hf hcid (fun a ha => honly a (hp.subset ha))
      (fun a ha => hget a (hp.subset ha)) hm hcap hg
  constructor
  · intro hall
    apply Run.Along.of_prefixes
    intro pre a hpa hg e he b hb hk
    have hp : pre <+: as := (List.prefix_append pre [a]).trans hpa
    -- a put at the end of the last batch leaves its first event out
    have hshown := hall _ hpa
    have hread : read (pre ++ [a]) = read pre := by
      cases a with
      | putBatch events =>
        simp only [read, Run.outputs_concat, trace_append, batches_append]
        exact List.append_nil _
      | _ => cases he
    rw [hread, ← List.append_assoc, fedBy_concat] at hshown
    have hend : lastEnd (read pre) = some b.positionRange.stop := by
      rw [lastEnd, hb, Option.map_some]
    exact (along pre hp hg).put_ne he hend hk hshown
  · intro hg pre hp
    exact (along pre hp (hg.of_prefix hp)).exact

/-- A login, and a consumer that polls between two puts. -/
theorem delivered_exactly_once_iff_poll :
    let s₀ := Run.final (Server.step .literal) (.new 8 none true)
      [.receive 0 (.login "app" "" 0) none]
    let read := batches (trace 0 (Run.outputs (Server.step .literal) s₀
      [.putBatch [storedEvent 100], .receive 0 (.fetch 1) none, .arm 0, .check 0, .answer 0 none,
        .putBatch [storedEvent 200]]))
    delivered read = due defaultStart (lastEnd read) [storedEvent 100, storedEvent 200] := by
  have h := delivered_exactly_once_iff .literal 8 none true [.receive 0 (.login "app" "" 0) none]
    [.putBatch [storedEvent 100], .receive 0 (.fetch 1) none, .arm 0, .check 0, .answer 0 none,
      .putBatch [storedEvent 200]] 0 "app" rfl rfl
    (by simp [Action.actor]) (by simp [Action.Fetches, Frame.fetch])
    (by unfold Ascending; decide) (by decide)
  refine h.2 ?_ _ (List.prefix_refl _)
  unfold StartsPast
  exact .cons (by decide) (.cons (by decide) (.cons (by decide) (.cons (by decide)
    (.cons (by decide) (.cons (by decide) .nil)))))

/-- The second row of a group arrives in a put of its own, after the first one was read: it is never
returned. -/
theorem later_row_of_group_skipped :
    let row : CanalEvent := { storedEvent 100 with tableName := "u" }
    let run : List Action := readOne ++ [.putBatch [row], .receive 0 (.fetch 10) none, .arm 0,
      .check 0, .putBatch [storedEvent 200], .wake 0, .arm 0, .check 0, .answer 0 none]
    let read := batches (trace 0 (Run.outputs (Server.step .literal) (.new 8 none true) run))
    fedBy run = [storedEvent 100, row, storedEvent 200] ∧
      delivered read = [storedEvent 100, storedEvent 200] ∧
      due defaultStart (lastEnd read) (fedBy run) = [storedEvent 100, row, storedEvent 200] := by
  decide

end Canal
