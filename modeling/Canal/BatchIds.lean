import Canal.SessionTable

namespace Canal
set_option autoImplicit true

def Action.isPut : Action → Bool
  | .putBatch _ => true
  | _ => false

def Effect.isRead : Effect → Bool
  | .getBatch .. => true
  | _ => false

/-- How often `put_batch` was called and `get_batch` returned. -/
def storeCalls (as : List Action) (os : List (Nat × Effect)) : Nat :=
  as.countP Action.isPut + os.countP fun o => o.2.isRead

/-- The batches read by all connections, in the order of the reads. -/
def allBatches (os : List (Nat × Effect)) : List Events := batches (os.map Prod.snd)

namespace MemoryEventStore

theorem putBatch_seq (h : events ≠ []) (d : Bool) (s : MemoryEventStore) :
    (s.putBatch d events).store.batchIdSeq = s.batchIdSeq + 1 := by
  have he : events.isEmpty = false := by simpa using h
  simp only [putBatch, he, Bool.false_eq_true, ↓reduceIte]
  split
  · split <;> rfl
  · rfl

end MemoryEventStore

/-- The counter is past every id in use, and it has left zero once something is stored. -/
structure Numbered (n : Nat) (ids : List Int64) (s : MemoryEventStore) : Prop where
  bound : s.batchIdSeq.toInt ≤ n
  nonneg : 0 ≤ s.batchIdSeq.toInt
  stored : s.buffer ≠ [] → 0 < s.batchIdSeq.toInt
  ascending : ids.Pairwise fun a b => a.toInt < b.toInt
  used : ∀ id ∈ ids, 0 < id.toInt ∧ id.toInt < s.batchIdSeq.toInt

namespace Numbered

theorem toInt_succ {i : Int64} (h0 : 0 ≤ i.toInt) (h : i.toInt + 1 < 2 ^ 63) :
    (i + 1).toInt = i.toInt + 1 := by
  rw [Int64.toInt_add, Int.bmod_eq_of_le] <;> simp <;> omega

theorem mono (h : Numbered n ids s) (hn : n ≤ m) : Numbered m ids s :=
  { h with bound := h.bound.trans (by exact_mod_cast hn) }

theorem putBatch (h : Numbered n ids s) (hn : n + 1 < 2 ^ 63) (d : Bool)
    (events : List CanalEvent) : Numbered (n + 1) ids (s.putBatch d events).store := by
  by_cases he : events = []
  · subst he
    exact h.mono (Nat.le_succ n)
  have hb := h.bound
  have h0 := h.nonneg
  have hs := toInt_succ h0 (by omega)
  rw [← MemoryEventStore.putBatch_seq he d s] at hs
  exact {
    bound := by omega
    nonneg := by omega
    stored := fun _ => by omega
    ascending := h.ascending
    used := fun id hid => by
      have hu := h.used id hid
      omega }

theorem lockedRead (h : Numbered n ids s) (hn : n + 1 < 2 ^ 63)
    (hr : s.lockedRead start size = (store, some events)) :
    Numbered (n + 1) (ids ++ [events.batchId]) store := by
  rw [MemoryEventStore.lockedRead_eq] at hr
  split at hr
  · cases hr
  rename_i hne
  cases hr
  have hbuf : s.buffer ≠ [] := by
    intro hb
    rw [hb] at hne
    exact hne (LogPosition.readable_nil _)
  have hb := h.bound
  have h0 := h.stored hbuf
  have hs := toInt_succ h.nonneg (by omega)
  refine ⟨by simp only; omega, by simp only; omega, fun _ => by simp only; omega, ?_, ?_⟩
  · refine List.pairwise_append.2 ⟨h.ascending, List.pairwise_singleton _ _, ?_⟩
    intro a ha b hb
    rw [List.mem_singleton.1 hb]
    exact (h.used a ha).2
  · intro id hid
    simp only
    rcases List.mem_append.1 hid with hid | hid
    · have hu := h.used id hid
      omega
    · rw [List.mem_singleton.1 hid]
      exact ⟨h0, by simp only [Events.withEvents]; omega⟩

end Numbered

theorem Turn.numbered (ht : Turn lib s c a conn ss store es) (h : Numbered n ids s.store)
    (hn : n + (es.countP Effect.isRead) < 2 ^ 63) :
    Numbered (n + es.countP Effect.isRead) (ids ++ (batches es).map Events.batchId) store := by
  have hsends : ∀ {es : List Effect}, (∀ e ∈ es, ∃ r, e = .send r) →
      es.countP Effect.isRead = 0 ∧ batches es = [] := by
    intro es hes
    refine ⟨List.countP_eq_zero.2 fun e he => ?_, filterMap_sends (fun _ => rfl) hes⟩
    obtain ⟨r, rfl⟩ := hes e he
    exact Bool.false_ne_true
  have keep : ∀ {es : List Effect}, es.countP Effect.isRead = 0 ∧ batches es = [] →
      Numbered (n + es.countP Effect.isRead) (ids ++ (batches es).map Events.batchId) s.store := by
    rintro es ⟨h1, h2⟩
    rw [h1, h2, List.map_nil, List.append_nil]
    exact h
  cases ht with
  | idle | stage | rolledBack | awaiting | acked | left => exact keep ⟨rfl, rfl⟩
  | quiet hf hw hp unknown acks | refused hf hw hp h3 acks => exact keep (hsends (acks_sends acks))
  | authenticated hf hauth hpw hfilter hp acks | subscribed hf hauth hid hfilter hp acks =>
    have hacks := hsends (acks_sends acks)
    exact keep hacks
  | served hg hr hne =>
    rw [List.countP_cons_of_pos rfl, List.countP_nil] at hn ⊢
    rw [batches, List.filterMap_cons_some (Effect.batchRead_some hne)]
    exact h.lockedRead hn hr
  | timedOut =>
    rw [List.countP_cons_of_pos rfl, List.countP_nil, batches, List.filterMap_cons_none rfl,
      List.filterMap_nil, List.map_nil, List.append_nil]
    exact h.mono (Nat.le_succ n)
  | answered hg hp sent => exact keep (hsends (messages_sends sent))

namespace Server

theorem numbered (lib : Crates) (cap : Nat) (authToken : Option String) (d : Bool)
    (as : List Action)
    (hn : storeCalls as (Run.outputs (step lib) (.new cap authToken d) as) < 2 ^ 63) :
    Numbered (storeCalls as (Run.outputs (step lib) (.new cap authToken d) as))
      ((allBatches (Run.outputs (step lib) (.new cap authToken d) as)).map Events.batchId)
      (Run.final (step lib) (.new cap authToken d) as).store := by
  induction as using List.reverseRecOn with
  | nil => exact ⟨le_rfl, le_rfl, fun h => absurd rfl h, .nil, nofun⟩
  | append_singleton as a ih =>
    rw [Run.outputs_concat] at hn ⊢
    rw [Run.final_concat]
    generalize Run.final (step lib) (.new cap authToken d) as = s at ih hn ⊢
    generalize Run.outputs (step lib) (.new cap authToken d) as = os at ih hn ⊢
    have ha : [a].countP Action.isPut = (a.isPut).toNat := by cases h : a.isPut <;> simp [h]
    simp only [storeCalls, allBatches, List.countP_append, List.map_append, batches_append, ha]
      at hn ih ⊢
    rcases s.step_cases lib a with ⟨events, rfl, he⟩ | ⟨c, hc, conn, ss, store, es, ht, he⟩
    · rw [he] at hn ⊢
      simp only [List.countP_nil, Nat.add_zero, Action.isPut, Bool.toNat_true, List.map_nil] at hn ⊢
      rw [show batches [] = [] from rfl, List.map_nil, List.append_nil, Nat.add_right_comm]
      exact (ih (by omega)).putBatch (by omega) s.debugAssertions events
    · have hput : a.isPut = false := by cases a <;> first | rfl | cases hc
      rw [he] at hn ⊢
      simp only [hput, Bool.toNat_false, Nat.add_zero, List.countP_map, List.map_map,
        Function.comp_def, List.map_id'] at hn ⊢
      rw [← Nat.add_assoc] at hn ⊢
      exact ht.numbered (ih (by omega)) hn

theorem step_ack {s : Server} (hf : (s.conns c).phase = .frame)
    (hauth : (s.conns c).state.authenticated = true) (body : Decoded ClientAck)
    (tx : Option CanalError) :
    s.step lib (.receive c (.packet (.clientAck body)) tx) =
      s.settle c (handleClientAck { (s.conns c).state with unknownPacketCount := 0 } s.sessions
        body) := by
  apply step_packet_done lib tx hf
  exact if_neg (by rw [hauth]; decide)

end Server

theorem handleClientAck_accepted {st : ClientState} {ss : SessionManager} {ack : ClientAck}
    (hcid : st.clientId = some cid) (hpos : st.lastGetEndPos = some pos)
    (h : ack.batchId = st.lastGetBatchId) :
    handleClientAck st ss (.ok ack) =
      { state := { st with lastAckPos := some pos }
        sessions := ss.updateAck cid pos
        effects := [.updateAck cid pos] } := by
  simp only [handleClientAck, hcid, hpos, h, ne_eq, not_true_eq_false, ↓reduceIte]

theorem Turn.ack_ignored (ht : Turn lib s c (.receive c (.packet (.clientAck body)) tx) conn ss
      store es') (hf : (s.conns c).phase = .frame) (hx : (s.conns c).Explained es)
    (hno : ¬ ∃ ack last, body = .ok ack ∧ (batches es).getLast? = some last ∧
      ack.batchId = last.batchId) :
    (∃ unknown, conn.state = { (s.conns c).state with unknownPacketCount := unknown }) ∧
      ss = s.sessions := by
  cases ht with
  | idle => exact ⟨⟨_, rfl⟩, rfl⟩
  | stage hg => exact absurd (hf.symm.trans hg) nofun
  | quiet hf hw hp unknown acks => exact ⟨⟨unknown, rfl⟩, rfl⟩
  | refused hf hw => exact absurd hw nofun
  | left hf hcid hframe => exact absurd hframe nofun
  | acked hf hauth hcid hpos hid =>
    rename_i ack
    rw [hx.endPos, Option.map_eq_some_iff] at hpos
    obtain ⟨last, hlast, -⟩ := hpos
    rw [hx.batchId, hlast] at hid
    exact absurd ⟨ack, last, rfl, hlast, hid⟩ hno

/-- An ack that names the last batch moves the connection and its session entry to the end of the
batch. -/
theorem Server.step_ack_accepted {s : Server} {ack : ClientAck} (hf : (s.conns c).phase = .frame)
    (hx : (s.conns c).Explained es) (hlast : (batches es).getLast? = some last)
    (hid : ack.batchId = last.batchId)
    (hsession : ∀ cid, s.Live cid c → (s.sessions.get cid).isSome = true) (lib : Crates)
    (tx : Option CanalError) :
    let s' := (s.step lib (.receive c (.packet (.clientAck (.ok ack))) tx)).1
    ∃ cid, (s.conns c).state.clientId = some cid ∧
      (s'.conns c).state = { (s.conns c).state with
        unknownPacketCount := 0, lastAckPos := some last.positionRange.stop } ∧
      s'.sessions.ack cid = some last.positionRange.stop ∧
      ∀ cid', cid' ≠ cid → s'.sessions.get cid' = s.sessions.get cid' := by
  intro s'
  have hauth := hx.of_batches hlast
  obtain ⟨cid, hcid⟩ := hx.authenticated_iff.1 hauth
  have hpos := hx.endPos
  have hbatch := hx.batchId
  rw [hlast, Option.map_some] at hpos hbatch
  have hout : handleClientAck { (s.conns c).state with unknownPacketCount := 0 } s.sessions
      (.ok ack) = _ := handleClientAck_accepted hcid hpos (hid.trans hbatch.symm)
  obtain ⟨phase, -, -, hs⟩ := s.settle_eq c
    (handleClientAck { (s.conns c).state with unknownPacketCount := 0 } s.sessions (.ok ack))
  have hs' : s' = _ := congrArg Prod.fst ((Server.step_ack hf hauth (.ok ack) tx).trans hs)
  have hlive : s.Live cid c := ⟨hcid, fun r hr => absurd (hf.symm.trans hr) nofun⟩
  obtain ⟨session, hsome⟩ := Option.isSome_iff_exists.1 (hsession cid hlive)
  rw [hs', hout]
  refine ⟨cid, hcid, by simp only [Function.update_self], ?_, fun cid' hne =>
    SessionManager.get_updateAck_of_ne hne ..⟩
  simp only [SessionManager.ack, SessionManager.get_updateAck_self, hsome, Option.map_some,
    Option.bind_some]

/-- Batch ids are distinct and not zero, and an ack takes effect exactly when it names the last
batch of its own connection. -/
theorem acks_name_the_last_batch (lib : Crates) (cap : Nat) (authToken : Option String) (d : Bool)
    (as : List Action) :
    let after := Run.final (Server.step lib) (.new cap authToken d)
    let shown := Run.outputs (Server.step lib) (.new cap authToken d)
    (∀ c c' cid, c ≠ c' → ((after as).conns c).state.clientId = some cid →
      ((after as).conns c').state.clientId ≠ some cid) →
    storeCalls as (shown as) < 2 ^ 63 →
    ((allBatches (shown as)).map Events.batchId).Nodup ∧
    0 ∉ (allBatches (shown as)).map Events.batchId ∧
    ∀ pre c body tx post, as = pre ++ .receive c (.packet (.clientAck body)) tx :: post →
      let s := after pre
      let s' := (s.step lib (.receive c (.packet (.clientAck body)) tx)).1
      (s.conns c).phase = .frame →
      (∀ c', c' ≠ c → s'.conns c' = s.conns c') ∧
      (∀ ack last, body = .ok ack → (batches (trace c (shown pre))).getLast? = some last →
        ack.batchId = last.batchId →
        ∃ cid, (s.conns c).state.clientId = some cid ∧
          (s'.conns c).state = { (s.conns c).state with
            unknownPacketCount := 0, lastAckPos := some last.positionRange.stop } ∧
          s'.sessions.ack cid = some last.positionRange.stop ∧
          ∀ cid', cid' ≠ cid → s'.sessions.get cid' = s.sessions.get cid') ∧
      ((¬ ∃ ack last, body = .ok ack ∧ (batches (trace c (shown pre))).getLast? = some last ∧
        ack.batchId = last.batchId) →
        (∃ unknown, (s'.conns c).state = { (s.conns c).state with
          unknownPacketCount := unknown }) ∧ s'.sessions = s.sessions) := by
  intro after shown hids hcount
  have hnum := Server.numbered lib cap authToken d as hcount
  refine ⟨?_, ?_, ?_⟩
  · apply hnum.ascending.imp
    intro a b hlt he
    subst he
    exact lt_irrefl _ hlt
  · intro h0
    exact lt_irrefl _ (hnum.used 0 h0).1
  intro pre c body tx post he s s' hf
  have hx := Server.explained lib cap authToken d pre c
  refine ⟨fun c' hc' => Server.step_conn_of_ne rfl hc' s, fun ack last hbody hlast hid => ?_,
    fun hno => ?_⟩
  · subst hbody
    apply Server.step_ack_accepted hf hx hlast hid
    intro cid hlive
    have hone : Run.Along (Server.step lib) (fun _ s _ => s.OneAtATime cid)
        (.new cap authToken d) as :=
      Server.oneAtATime_of_distinct fun c c' => hids c c' cid
    rw [he] at hone
    exact Server.live_session hone.left hlive
  · rcases s.step_conn lib (.receive c (.packet (.clientAck body)) tx) c with ⟨ha, -⟩ | ⟨-, ht⟩
    · exact absurd rfl ha
    · exact ht.ack_ignored hf hx hno

/-- Two clients with three batches between them: of the first one's acks one is late. -/
theorem acks_name_the_last_batch_two :
    let run : List Action := [.receive 0 (.login "app" "" 0) none,
      .receive 1 (.login "other" "" 0) none, .putBatch [storedEvent 100, storedEvent 200],
      .receive 0 (.fetch 1) none, .arm 0, .check 0, .answer 0 none,
      .receive 1 (.fetch 10) none, .arm 1, .check 1, .answer 1 none,
      .receive 0 (.fetch 1) none, .arm 0, .check 0, .answer 0 none]
    let as := run ++ [.receive 0 (.ack 1) none, .receive 0 (.ack 3) none]
    let after := Run.final (Server.step .literal) (.new 8 none true)
    let shown := Run.outputs (Server.step .literal) (.new 8 none true)
    ((allBatches (shown as)).map Events.batchId).Nodup ∧
      (after (run ++ [.receive 0 (.ack 1) none])).sessions = (after run).sessions ∧
      (after as).sessions.ack "app" = some (.new "mysql-bin.000001" 200) := by
  intro run as after shown
  obtain ⟨hdistinct, -, hacks⟩ := acks_name_the_last_batch .literal 8 none true as
    (fun c c' cid => @Server.distinct_of_acting _ _ _ _ _ _ [0, 1] (fun _ => rfl)
      (by simp [as, run, Action.actor]) (by decide)) (by decide)
  have hlast : (batches (trace 0 (shown run))).getLast?.map Events.batchId = some 3 := by decide
  refine ⟨hdistinct, ?_, ?_⟩
  · rw [show after (run ++ _) = _ from Run.final_concat ..]
    refine ((hacks run 0 _ none _ rfl rfl).2.2 ?_).2
    rintro ⟨ack, last, hack, hmem, hid⟩
    cases hack
    rw [hmem, Option.map_some, ← hid] at hlast
    cases hlast
  · have hsplit : as = (run ++ [.receive 0 (.ack 1) none]) ++ [.receive 0 (.ack 3) none] := rfl
    rw [hsplit, show after (_ ++ _) = _ from Run.final_concat ..]
    obtain ⟨cid, hcid, -, hack, -⟩ := (hacks (run ++ [.receive 0 (.ack 1) none]) 0 _ none [] hsplit
      rfl).2.1 { batchId := 3 } (.withEvents [storedEvent 200] 3) rfl (by decide) rfl
    cases hcid
    exact hack

end Canal
