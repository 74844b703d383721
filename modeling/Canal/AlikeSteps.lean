import Canal.Alike

namespace Canal
set_option autoImplicit true

open SessionManager (Agree)

namespace Observed

variable {lib : Crates} {b : Nat} {w w' : Observed}

theorem length_batchIds {rs rs' : List Response}
    (h : rs.map Response.unnumbered = rs'.map Response.unnumbered) :
    (batchIds rs).length = (batchIds rs').length := by
  have hlen : ∀ rs : List Response,
      (answersIn rs).length = (answersIn (rs.map Response.unnumbered)).length := by
    intro rs
    induction rs with
    | nil => rfl
    | cons r rs ih =>
      cases r with
      | ack a => exact ih
      | messages m => exact congrArg Nat.succ ih
  rw [batchIds, batchIds, List.length_map, List.length_map, hlen, h, ← hlen]

theorem Counted.fresh (h : w.Counted) (hbuf : w.server.store.buffer ≠ [])
    (hd : w.drawn < 2 ^ 64) : ∀ id ∈ 0 :: batchIds w.got, id ≠ w.server.store.batchIdSeq := by
  have h0 := h.stored hbuf
  rw [h.seq]
  intro id hid
  rcases List.mem_cons.1 hid with rfl | hid
  · exact nthId_ne h0 hd
  · rcases h.got id hid with rfl | ⟨j, -, hj, rfl⟩
    · exact nthId_ne h0 hd
    · exact nthId_ne hj hd

theorem marks_draw (h : w.Counted) (hd : w.drawn < 2 ^ 64) {a : Action}
    (hbuf : w.server.store.buffer ≠ [])
    (hlast : ((w.server.step lib a).1.conns b).state.lastGetBatchId =
      w.server.store.batchIdSeq)
    (hsent : (w.act lib b a).2 = []) :
    (w.act lib b a).1.marks b = List.replicate (0 :: batchIds w.got).length false := by
  have hgot : (w.act lib b a).1.got = w.got ++ (w.act lib b a).2 := rfl
  have hconn : (w.act lib b a).1.server = (w.server.step lib a).1 := rfl
  rw [marks, hgot, hconn, hlast, hsent, List.append_nil, ← List.map_const']
  apply List.map_congr_left
  intro id hid
  exact beq_eq_false_iff_ne.2 (h.fresh hbuf hd id hid)

theorem act_of_hand {w : Observed} {t : Server} {a : Action} {start : LogPosition}
    (hs : w.server.step lib a = t.hand b cid start events) : (w.act lib b a).2 = [] := by
  simp [Observed.act, hs, Server.hand, trace, responses, Effect.response]

theorem check_read {w : Observed} {call : GetBatch} (hne : w.server.page call ≠ [])
    (hs : w.server.step lib (.check b) =
      Server.hand { w.server with store := { w.server.store with
          batchIdSeq := w.server.store.batchIdSeq + 1 } } b cid call.start
        (.withEvents (w.server.page call) w.server.store.batchIdSeq)) :
    w.server.store.buffer ≠ [] ∧
      (w.server.step lib (.check b)).1.store = { w.server.store with
        batchIdSeq := w.server.store.batchIdSeq + 1 } ∧
      ((w.server.step lib (.check b)).1.conns b).state.lastGetBatchId =
        w.server.store.batchIdSeq := by
  refine ⟨?_, ?_, ?_⟩
  · intro hb
    apply hne
    rw [Server.page_eq_nil, hb]
    exact LogPosition.readable_nil _
  · rw [hs]
    rfl
  · have hev : (Events.withEvents (w.server.page call) w.server.store.batchIdSeq).isEmpty =
        false := by
      rw [Events.isEmpty, List.isEmpty_eq_false_iff]
      exact hne
    rw [hs]
    simp only [Server.hand, Server.setConn, Function.update_self]
    rw [ClientState.served_of_nonempty _ hev]
    rfl

theorem Alike.sameCall (h : Alike b w w') : Server.SameCall b w.server w'.server where
  phase := h.phase
  buffer := by rw [h.store]

theorem Alike.read_page (h : Alike b w w') (hc : w.Counted) (hc' : w'.Counted)
    (hd : w.drawn < 2 ^ 64) {call : GetBatch} (hne : w.server.page call ≠ [])
    (hs : ∀ t, Server.SameCall b w.server t → t.step lib (.check b) =
      Server.hand { t with store := { t.store with batchIdSeq := t.store.batchIdSeq + 1 } } b cid
        call.start (.withEvents (w.server.page call) t.store.batchIdSeq)) :
    Alike b (w.act lib b (.check b)).1 (w'.act lib b (.check b)).1 := by
  have hcheck := hs w.server (.refl ..)
  have hcheck' := hs w'.server h.sameCall
  have hpage := h.sameCall.page call
  have halike : StepAlike b (w.server.Apart b) (w.server.step lib (.check b))
      (w'.server.step lib (.check b)) := by
    rw [hcheck, hcheck']
    exact Server.hand_alike (by exact h.sessions) (by exact h.state) cid call.start
      (.withEvents (w.server.page call) w.server.store.batchIdSeq) w'.server.store.batchIdSeq
  obtain ⟨hbuf, hstore, hlast⟩ := check_read hne hcheck
  have hsent := act_of_hand hcheck
  rw [← hpage] at hne hcheck'
  obtain ⟨hbuf', hstore', hlast'⟩ := check_read hne hcheck'
  have ha : (Action.check b).actor.all (· = b) = true := decide_eq_true rfl
  apply h.act ha halike
  · rw [hstore, hstore', h.store]
  · rw [hstore, hstore']
    exact iff_of_false (id_succ_ne _) (id_succ_ne _)
  · rw [marks_draw hc hd hbuf hlast hsent,
      marks_draw hc' (h.drawn.trans_lt hd) hbuf' hlast' (act_of_hand hcheck'),
      List.length_cons, List.length_cons, length_batchIds h.got]

theorem Alike.expire (h : Alike b w w') {call : GetBatch}
    (hs : ∀ t, Server.SameCall b w.server t →
      t.step lib (.timeout b) = t.hand b cid call.start (.new 0)) :
    Alike b (w.act lib b (.timeout b)).1 (w'.act lib b (.timeout b)).1 := by
  have hexp := hs w.server (.refl ..)
  have hexp' := hs w'.server h.sameCall
  have hlast : ∀ t : Server, ((t.hand b cid call.start (.new 0)).1.conns b).state =
      (t.conns b).state := by
    intro t
    simp only [Server.hand, Server.setConn, Function.update_self]
    rfl
  apply h.turn rfl
  · rw [hexp, hexp']
    exact Server.hand_alike h.sessions h.state cid call.start (.new 0) 0
  · rw [hexp]
    rfl
  · rw [hexp']
    rfl
  · apply marks_keep h
    · rw [hexp, hlast]
    · rw [hexp', hlast]
    · exact ⟨0, 0, 0, by rw [act_of_hand hexp]; rfl, by rw [act_of_hand hexp']; rfl, h.zero⟩

theorem answer_ids (lib : Crates) {w : Observed} (hw : w.Counted)
    (hp : (w.server.conns b).phase = .answer cid events) (tx : Option CanalError) :
    (w.server.step lib (.answer b tx)).1.store = w.server.store ∧
      ((w.server.step lib (.answer b tx)).1.conns b).state = (w.server.conns b).state ∧
      ∀ id ∈ batchIds (w.act lib b (.answer b tx)).2,
        id = if events.isEmpty then 0 else (w.server.conns b).state.lastGetBatchId := by
  have ht := ((w.server.step_conn lib (.answer b tx) b).resolve_left fun hno => hno.1 rfl).2
  have hhand := hw.hand b cid events hp
  generalize (w.server.step lib (.answer b tx)).1.conns b = conn at ht ⊢
  generalize (w.server.step lib (.answer b tx)).1.store = store at ht ⊢
  generalize (w.server.step lib (.answer b tx)).1.sessions = ss at ht
  have hids : (w.act lib b (.answer b tx)).2 =
      responses (trace b (w.server.step lib (.answer b tx)).2) := rfl
  rw [hids]
  generalize trace b (w.server.step lib (.answer b tx)).2 = es at ht ⊢
  cases ht with
  | idle => exact ⟨rfl, rfl, fun id hid => absurd hid List.not_mem_nil⟩
  | stage hg => exact absurd (hp.symm.trans hg) (fun h => (by cases h))
  | answered hg hq sent hs =>
    cases hp.symm.trans hg
    refine ⟨rfl, rfl, ?_⟩
    intro id hid
    rw [batchIds_messages] at hid
    obtain ⟨m, hm, rfl⟩ := List.mem_map.1 hid
    obtain ⟨hempty, hnumber, -⟩ := hs m hm
    cases he : events.isEmpty with
    | true => rw [hempty he, if_pos rfl]
    | false =>
      rw [he] at hhand
      rw [hnumber he, hhand]

theorem Alike.answer (h : Alike b w w') (ho : Own b w) (hc : w.Counted) (hc' : w'.Counted)
    (tx : Option CanalError) :
    Alike b (w.act lib b (.answer b tx)).1 (w'.act lib b (.answer b tx)).1 := by
  cases hp : (w.server.conns b).phase with
  | answer cid events =>
    obtain ⟨events', hp', he⟩ := Phase.unnumbered_answer (h.phase.trans (congrArg _ hp))
    have hevents := congrArg Events.events he
    have hempty : events'.isEmpty = events.isEmpty := congrArg List.isEmpty hevents
    have halike : StepAlike b (w.server.Apart b) (w.server.step lib (.answer b tx))
        (w'.server.step lib (.answer b tx)) := by
      rw [Server.step_answer lib tx hp, Server.step_answer lib tx hp']
      apply Server.settle_alike
      rw [h.state]
      exact answerGet_alike h.sessions _ _ (ho.apart cid (ho.answer cid events hp)) he
    obtain ⟨hstore, hlast, hids⟩ := answer_ids lib hc hp tx
    obtain ⟨hstore', hlast', hids'⟩ := answer_ids lib hc' hp' tx
    apply h.turn rfl halike hstore hstore'
    apply marks_keep h (by rw [hlast]) (by rw [hlast'])
    have hlen : (batchIds (w.act lib b (.answer b tx)).2).length =
        (batchIds (w'.act lib b (.answer b tx)).2).length := length_batchIds halike.answers
    have hids' := List.eq_replicate_of_mem hids'
    rw [← hlen] at hids'
    refine ⟨_, _, _, List.eq_replicate_of_mem hids, hids', ?_⟩
    rw [hempty]
    split
    · exact h.zero
    · rw [beq_self_eq_true, beq_self_eq_true]
  | frame | get | closed =>
    have hne : ∀ cid events, (w.server.conns b).phase ≠ .answer cid events := by
      rintro cid events ha
      cases hp.symm.trans ha
    apply h.idle rfl (Server.step_answer_idle lib tx hne)
    apply Server.step_answer_idle
    rintro cid events ha
    obtain ⟨events', ha', -⟩ := Phase.unnumbered_answer (h.phase.symm.trans (congrArg _ ha))
    exact hne cid events' ha'

theorem Alike.call (h : Alike b w w') (hc : w.Counted) (hc' : w'.Counted)
    (hd : w.drawn < 2 ^ 64) {a : Action} (ha : a.actor = some b)
    (hcall : Server.CallStep lib w.server b a) :
    Alike b (w.act lib b a).1 (w'.act lib b a).1 := by
  cases hcall with
  | idle hs => exact h.idle ha (hs _ (.refl ..)) (hs _ h.sameCall)
  | stage hp hs => exact h.stage ha (hs _ (.refl ..)) (hs _ h.sameCall)
  | read hp hne hs => exact h.read_page hc hc' hd hne hs
  | expire hp hs => exact h.expire hs

theorem Alike.step (h : Alike b w w') (ho : Own b w) (hc : w.Counted) (hc' : w'.Counted)
    (hd : w.drawn < 2 ^ 64) {p : Play} (hp : p.concerns b = true) (hn : p.Named b) :
    Alike b (w.step lib b p).1 (w'.step lib b p).1 := by
  cases p with
  | ackNth i tx =>
    have hmark := congrArg (fun l => l[i + 1]?) h.marks
    unfold Observed.marks at hmark
    simp only [List.map_cons, List.getElem?_cons_succ, List.getElem?_map] at hmark
    simp only [Observed.step]
    cases hi : (batchIds w.got)[i]? with
    | none =>
      rw [hi, Option.map_none, eq_comm, Option.map_eq_none_iff] at hmark
      rw [hmark]
      exact h
    | some id =>
      rw [hi, Option.map_some, eq_comm, Option.map_eq_some_iff] at hmark
      obtain ⟨id', hi', hm⟩ := hmark
      rw [hi']
      apply h.ack
      rw [← beq_iff_eq, ← hm, beq_iff_eq]
  | act a =>
    cases a with
    | putBatch events => exact h.put events
    | receive c frame tx =>
      obtain rfl : c = b := of_decide_eq_true hp
      exact h.receive ho frame (fun ack he => hn ack tx (he ▸ rfl)) tx
    | arm c =>
      obtain rfl : c = b := of_decide_eq_true hp
      exact h.call hc hc' hd rfl (Server.call_arm ..)
    | check c =>
      obtain rfl : c = b := of_decide_eq_true hp
      exact h.call hc hc' hd rfl (Server.call_check ..)
    | wake c =>
      obtain rfl : c = b := of_decide_eq_true hp
      exact h.call hc hc' hd rfl (Server.call_wake ..)
    | timeout c =>
      obtain rfl : c = b := of_decide_eq_true hp
      exact h.call hc hc' hd rfl (Server.call_timeout ..)
    | answer c tx =>
      obtain rfl : c = b := of_decide_eq_true hp
      exact h.answer ho hc hc' tx

theorem Alike.other (h : Alike b w w') (hw : w.Counted) {a : Action} (ha : a.actor = some c)
    (hc : c ≠ b)
    (hkeep : ∀ cid, (w.server.conns c).state.clientId = some cid →
      ((w.server.step lib a).1.conns c).state.clientId = some cid) :
    Alike b (w.act lib b a).1 w' := by
  rcases w.server.step_cases lib a with ⟨events, rfl, -⟩ | ⟨c', hc', conn, ss, store, es, ht, he⟩
  · cases ha
  obtain rfl : c' = c := Option.some.inj (hc'.symm.trans ha)
  have hconn : (w.server.step lib a).1.conns b = w.server.conns b :=
    Server.step_conn_of_ne ha (Ne.symm hc) w.server
  have hgot : (w.act lib b a).1.got = w.got := by
    simp only [Observed.act, he, trace_other hc]
    exact List.append_nil _
  constructor
  · have hst : (w.act lib b a).1.server.store = store := by
      simp only [Observed.act, he]
    rw [hst]
    rcases ht.draws (hw.hand c') with ⟨hstore, -⟩ | ⟨-, hstore, -⟩
    · rw [hstore]
      exact h.store
    · rw [hstore]
      exact h.store
  · exact h.authToken.trans (Server.step_authToken ..).symm
  · exact h.debugAssertions.trans (Server.step_debugAssertions ..).symm
  · simp only [Observed.act, hconn]
    exact h.state
  · simp only [Observed.act, hconn]
    exact h.phase
  · intro cid hcid
    have hcid : (w.server.step lib a).1.Apart b cid := hcid
    have hconn' : (w.server.step lib a).1.conns c' = conn := by
      rw [he]
      exact Function.update_self c' conn w.server.conns
    have hget : (w.act lib b a).1.server.sessions.get cid = w.server.sessions.get cid := by
      simp only [Observed.act, he]
      exact ht.get_of_other (hconn' ▸ hcid c' hc)
    rw [hget]
    apply h.sessions cid
    intro c₁ hc₁ hid
    by_cases hcc : c₁ = c'
    · subst hcc
      exact hcid c₁ hc₁ (hkeep cid hid)
    · apply hcid c₁ hc₁
      rw [Server.step_conn_of_ne ha hcc]
      exact hid
  · rw [hgot]
    exact h.got
  · have hconn' : (w.act lib b a).1.server.conns b = w.server.conns b := hconn
    rw [Observed.marks, hgot, hconn']
    exact h.marks
  · exact h.drawn.trans (drawn_le lib b w a)

end Observed

end Canal
