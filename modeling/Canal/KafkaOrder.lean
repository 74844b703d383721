import Canal.KafkaBatches

namespace Canal
set_option autoImplicit true

namespace KafkaSink

variable {lib : Crates} {d : Bool} {name : String} {config : KafkaConfig}
  {os : List KafkaSinkNote} {s : KafkaSink}

/-- The worker is over, so that it will not hear of a call that was dropped with it. -/
def workerEnded (s : KafkaSink) : Bool := s.sink.worker == some .ended

/-- What the worker passed to the connector is what the connector was called with. -/
structure Passing (name : String) (config : KafkaConfig) (os : List KafkaSinkNote)
    (s : KafkaSink) : Prop where
  booked : KafkaConnector.Booked name config (kafkaNotes os) s.kafka
  consecutive : KafkaConnector.Consecutive s.awaits s.workerEnded (kafkaNotes os) s.kafka
  calls : s.kafka.calls.length = (dispatches s.position (sinkNotes os)).length
  batches : ∀ k r, (dispatches s.position (sinkNotes os))[k]? = some r →
    ∃ p, .began k r.events p ∈ kafkaNotes os
  sent : SinkSystem.Booked (sinkNotes os) s.sink ∧ SinkSystem.Working (sinkNotes os) s.sink

theorem length_calls (s : KafkaConnector) (b : KafkaAction) (hb : ∀ events, b ≠ .dispatch events) :
    (s.step b).1.calls.length = s.calls.length := by
  cases b with
  | connect created => cases created <;> rfl
  | metadata p fetched =>
    simp only [KafkaConnector.step]
    split
    · cases fetched <;> rfl
    · rfl
  | close => rfl
  | dispatch events => exact absurd rfl (hb events)
  | call k a =>
    simp only [KafkaConnector.step]
    split
    · exact List.length_set
    · rfl

theorem Passing.kafka (h : Passing name config os s) (b : KafkaAction)
    (hb : ∀ events, b ≠ .dispatch events)
    (hc : KafkaConnector.Consecutive s.awaits s.workerEnded
      (kafkaNotes os ++ (s.kafka.step b).2) (s.kafka.step b).1) :
    Passing name config (os ++ (s.kafka.step b).2.map .kafka)
      { s with kafka := (s.kafka.step b).1 } := by
  obtain ⟨hsink, hkafka⟩ := notes_of_kafka (s.kafka.step b).2
  have hs : sinkNotes (os ++ (s.kafka.step b).2.map .kafka) = sinkNotes os := by
    rw [sinkNotes_append, hsink, List.append_nil]
  have hk : kafkaNotes (os ++ (s.kafka.step b).2.map .kafka) =
      kafkaNotes os ++ (s.kafka.step b).2 := by rw [kafkaNotes_append, hkafka]
  constructor
  · rw [hk]
    exact h.booked.step b
  · rw [hk]
    exact hc
  · rw [hs, length_calls s.kafka b hb]
    exact h.calls
  · intro k r hr
    rw [hs] at hr
    obtain ⟨p, hp⟩ := h.batches k r hr
    exact ⟨p, hk ▸ List.mem_append_left _ hp⟩
  · rw [hs]
    exact h.sent

theorem Passing.begins (h : Passing name config os s) (ht : SinkSystem.Turn s.sink t ns)
    (hr : r ∈ dispatches s.position ns) :
    KafkaConnector.Consecutive
      ({ s with sink := t, kafka := (s.answer (t, ns)).1 } : KafkaSink).awaits
      ({ s with sink := t, kafka := (s.answer (t, ns)).1 } : KafkaSink).workerEnded
      (kafkaNotes os ++ (s.answer (t, ns)).2) (s.answer (t, ns)).1 ∧
    s.answer (t, ns) = s.kafka.step (.dispatch r.events) ∧ dispatches s.position ns = [r] := by
  obtain ⟨hone, hw, hended, helse⟩ := ht.begins hr
  have hanswer : s.answer (t, ns) = s.kafka.step (.dispatch r.events) := by
    simp only [answer, hone, List.head?_cons]
  have hidle : s.awaits = false := by
    unfold awaits
    split
    · rename_i r' c hs
      exact beq_eq_false_iff_ne.2 fun hc => helse r' (hc ▸ hs)
    · rfl
  have hlive : s.workerEnded = false := beq_eq_false_iff_ne.2 hended
  have hc := h.consecutive
  rw [hidle, hlive] at hc
  refine ⟨?_, hanswer, hone⟩
  rw [hanswer]
  exact (hc.dispatch h.booked r.events).mono (fun _ => by simp [awaits, hw]) fun h => by cases h

theorem Passing.passes (h : Passing name config os s) (ht : SinkSystem.Turn s.sink t ns)
    (hd : dispatches s.position ns = [])
    (hreturn : t.worker = s.sink.worker ∨ t.worker = some .ended ∨
      KafkaConnector.Consecutive false s.workerEnded (kafkaNotes os) s.kafka) :
    KafkaConnector.Consecutive
      ({ s with sink := t, kafka := (s.answer (t, ns)).1 } : KafkaSink).awaits
      ({ s with sink := t, kafka := (s.answer (t, ns)).1 } : KafkaSink).workerEnded
      (kafkaNotes os ++ (s.answer (t, ns)).2) (s.answer (t, ns)).1 := by
  have hover : s.workerEnded = true → (t.worker == some .ended) = true := fun hw =>
    beq_iff_eq.2 (ht.worker_ended (beq_iff_eq.1 hw))
  simp only [answer, hd, List.head?_nil]
  split
  · rename_i habort
    obtain ⟨-, hended⟩ := Bool.and_eq_true_iff.1 habort
    exact h.consecutive.abort.mono (fun h => by cases h) fun _ => hended
  · rename_i hstay
    rw [List.append_nil]
    rcases hreturn with hw | hw | hc
    · exact h.consecutive.mono (fun ha => by rwa [awaits, hw]) hover
    · refine h.consecutive.mono (fun ha => ?_) hover
      exact absurd (Bool.and_eq_true_iff.2 ⟨ha, beq_iff_eq.2 hw⟩) hstay
    · exact hc.mono (fun h => by cases h) hover

theorem Passing.sink (h : Passing name config os s) (a : SinkAction)
    (hreturn : a.isDispatched = true →
      KafkaConnector.Consecutive false s.workerEnded (kafkaNotes os) s.kafka) :
    Passing name config (os ++ (s.sinkStep lib d a).2) (s.sinkStep lib d a).1 := by
  have ht := s.sink.step_turn lib d a
  have hkeep : (s.sink.step lib d a).1.worker = s.sink.worker ∨
      (s.sink.step lib d a).1.worker = some .ended ∨
      KafkaConnector.Consecutive false s.workerEnded (kafkaNotes os) s.kafka := by
    cases ha : a.isDispatched with
    | true => exact .inr (.inr (hreturn ha))
    | false =>
      cases hawait : s.awaits with
      | false => exact .inr (.inr (hawait ▸ h.consecutive))
      | true =>
        unfold awaits at hawait
        split at hawait
        · rename_i hw
          exact (SinkSystem.step_awaiting hw ha).imp_right .inl
        · cases hawait
  simp only [sinkStep]
  generalize s.sink.step lib d a = r at ht hkeep
  obtain ⟨t, ns⟩ := r
  simp only at ht hkeep ⊢
  obtain ⟨hs, hk⟩ := notes_of_sink ns
  obtain ⟨hs', hk'⟩ := notes_of_kafka (s.answer (t, ns)).2
  have hsn : sinkNotes (os ++ (ns.map .sink ++ (s.answer (t, ns)).2.map .kafka)) =
      sinkNotes os ++ ns := by
    rw [sinkNotes_append, sinkNotes_append, hs, hs', List.append_nil]
  have hkn : kafkaNotes (os ++ (ns.map .sink ++ (s.answer (t, ns)).2.map .kafka)) =
      kafkaNotes os ++ (s.answer (t, ns)).2 := by
    rw [kafkaNotes_append, kafkaNotes_append, hk, hk', List.nil_append]
  have hsent := And.intro (h.sent.1.turn ht) (h.sent.2.turn h.sent.1 ht)
  rw [← hsn] at hsent
  rcases hd : dispatches s.position ns with _ | ⟨r, rest⟩
  · have hc := h.passes ht hd hkeep
    rw [← hkn] at hc
    refine ⟨?_, hc, ?_, ?_, hsent⟩
    · rw [hkn]
      simp only [answer, hd, List.head?_nil]
      split
      · exact h.booked.step _
      · rw [List.append_nil]
        exact h.booked
    · rw [hsn, dispatches_append, hd, List.append_nil, ← h.calls]
      simp only [answer, hd, List.head?_nil]
      split
      · exact length_calls _ _ fun _ => KafkaAction.noConfusion
      · rfl
    · intro k r hr
      rw [hsn, dispatches_append, hd, List.append_nil] at hr
      obtain ⟨p, hp⟩ := h.batches k r hr
      exact ⟨p, hkn ▸ List.mem_append_left _ hp⟩
  · obtain ⟨hc, hanswer, hone⟩ := h.begins ht (hd ▸ List.mem_cons_self ..)
    rw [← hkn] at hc
    refine ⟨?_, hc, ?_, ?_, hsent⟩
    · rw [hkn, hanswer]
      exact h.booked.step _
    · rw [hsn, dispatches_append, hone, List.length_append, ← h.calls, hanswer]
      exact List.length_append
    · intro k r' (hr : (dispatches s.position _)[k]? = some r')
      rw [hsn, dispatches_append, hone] at hr
      rw [hkn, hanswer]
      rcases getElem?_concat_cases hr with hr | ⟨rfl, rfl⟩
      · obtain ⟨p, hp⟩ := h.batches k r' hr
        exact ⟨p, List.mem_append_left _ hp⟩
      · rw [← h.calls]
        exact ⟨s.kafka.producer, List.mem_append_right _ (List.mem_singleton_self _)⟩

theorem Passing.step (h : Passing name config os s) (a : KafkaSinkAction) :
    Passing name config (os ++ (s.step lib d a).2) (s.step lib d a).1 := by
  have hidle : Passing name config (os ++ []) s := by
    rw [List.append_nil]
    exact h
  cases a with
  | sink a =>
    simp only [KafkaSink.step]
    split
    · exact hidle
    · rename_i hnot
      apply h.sink
      intro ha
      have hawait : s.awaits = false := by
        rw [Bool.and_eq_true, not_and] at hnot
        exact Bool.eq_false_iff.2 fun hw => hnot hw ha
      exact hawait ▸ h.consecutive
  | kafka b =>
    have hnone : ∀ k : Nat, kafkaRecords k [] = [] ∧ kafkaResults k [] = [] := fun _ => ⟨rfl, rfl⟩
    cases b with
    | connect created =>
      apply h.kafka _ fun _ => KafkaAction.noConfusion
      cases created <;> exact h.consecutive.quiet rfl (fun _ => ⟨rfl, rfl⟩) rfl
    | metadata p fetched =>
      apply h.kafka _ fun _ => KafkaAction.noConfusion
      simp only [KafkaConnector.step]
      split
      · cases fetched <;> exact h.consecutive.quiet rfl (fun _ => ⟨rfl, rfl⟩) rfl
      · exact h.consecutive.quiet rfl hnone rfl
    | close =>
      apply h.kafka _ fun _ => KafkaAction.noConfusion
      exact h.consecutive.quiet rfl (fun _ => ⟨rfl, rfl⟩) rfl
    | dispatch events => exact hidle
    | call k a =>
      cases a with
      | join | abort => exact hidle
      | acquire i =>
        apply h.kafka (.call k (.acquire i)) fun _ => KafkaAction.noConfusion
        exact h.consecutive.call k _ CallAction.noConfusion
      | answer i delivered =>
        apply h.kafka (.call k (.answer i delivered)) fun _ => KafkaAction.noConfusion
        exact h.consecutive.call k _ CallAction.noConfusion
  | finish =>
    simp only [KafkaSink.step]
    split
    · split
      · rename_i hawait _ result hres
        have hne : kafkaResults s.current (s.kafka.step (.call s.current .join)).2 ≠ [] := by
          intro hnil
          rw [hnil] at hres
          cases hres
        have hjoin := h.consecutive.join .join CallAction.noConfusion hne
        have hmid := h.kafka (.call s.current .join) (fun _ => KafkaAction.noConfusion)
          (hjoin.mono (fun h => by cases h) id)
        rw [← List.append_assoc]
        apply hmid.sink
        intro _
        rw [kafkaNotes_append, (notes_of_kafka _).2]
        exact hjoin
      · exact hidle
    · exact hidle

theorem step_frame (lib : Crates) (d : Bool) (s : KafkaSink) (a : KafkaSinkAction) :
    (s.step lib d a).1.position = s.position ∧
      (s.step lib d a).1.sink.connectors = s.sink.connectors := by
  cases a with
  | sink a =>
    simp only [KafkaSink.step]
    split
    · exact ⟨rfl, rfl⟩
    · exact ⟨rfl, (s.sink.step_turn lib d a).connectors⟩
  | kafka b => cases b with
    | call k a => cases a <;> exact ⟨rfl, rfl⟩
    | _ => exact ⟨rfl, rfl⟩
  | finish =>
    simp only [KafkaSink.step]
    split
    · split
      · rename_i result _
        exact ⟨rfl, (s.sink.step_turn lib d (.dispatched result)).connectors⟩
      · exact ⟨rfl, rfl⟩
    · exact ⟨rfl, rfl⟩

theorem run_passing (lib : Crates) (d : Bool) (store : MemoryEventStore) (filter : EventFilter)
    (connectors position : Nat) (name : String) (config : KafkaConfig)
    (as : List KafkaSinkAction) :
    let s := Run.final (step lib d) (new store filter connectors position name config) as
    Passing name config
        (Run.outputs (step lib d) (new store filter connectors position name config) as) s ∧
      s.position = position ∧ s.sink.connectors = connectors := by
  apply Run.history_invariant (step lib d) (new store filter connectors position name config)
    (I := fun _ os s => Passing name config os s ∧ s.position = position ∧
      s.sink.connectors = connectors)
  · refine ⟨⟨.new name config, ⟨?_, ?_, rfl⟩, rfl, ?_, ?_⟩, rfl, rfl⟩
    · exact fun k call hk => absurd hk (by simp [new, KafkaConnector.new])
    · exact fun k hk => absurd hk (by simp [new, KafkaConnector.new])
    · exact fun k r hr => absurd hr (by simp [sinkNotes, dispatches])
    · exact SinkSystem.run_invariants lib d store filter connectors []
  · rintro _ os s a ⟨h, hposition, hconnectors⟩
    obtain ⟨hp, hc⟩ := step_frame lib d s a
    exact ⟨h.step a, hp.trans hposition, hc.trans hconnectors⟩

/-- The batches reach the producer in the order in which the worker got them, one after the other.
Whatever happens, each is handed over as a whole before the next one begins, or not at all where
the connector was not connected; only the last one may be on its way. -/
theorem batches_in_order (lib : Crates) (d : Bool) (store : MemoryEventStore)
    (filter : EventFilter) (connectors position : Nat) (name : String) (config : KafkaConfig)
    (hposition : position < connectors) (as : List KafkaSinkAction) :
    let os := Run.outputs (step lib d) (new store filter connectors position name config) as
    let batches := dispatches position (sinkNotes os)
    let part := fun k => (kafkaRecords k (kafkaNotes os)).map KafkaRecord.message
    batches <+: enqueues (sinkNotes os) ∧
      handedOver (kafkaNotes os) = (List.range batches.length).flatMap part ∧
      ∀ k r, batches[k]? = some r → ∃ p, .began k r.events p ∈ kafkaNotes os ∧
        (part k).Subperm (serializeEvents r.events) ∧
        (k + 1 < batches.length →
          (part k).Perm (if p.isSome then serializeEvents r.events else [])) := by
  intro os batches part
  obtain ⟨h, hat, hconnectors⟩ :=
    run_passing lib d store filter connectors position name config as
  have hworker := h.sent.2.worker_at
  rw [hconnectors] at hworker
  have hcalls := h.calls
  rw [hat] at hcalls
  refine ⟨hworker.dispatches_prefix hposition, hcalls ▸ h.consecutive.order, ?_⟩
  intro k r hr
  obtain ⟨p, hbegan⟩ := h.batches k r (hat.symm ▸ hr)
  obtain ⟨call, hk, ht⟩ := h.booked.begun k r.events p hbegan
  refine ⟨p, hbegan, ht.account.once, fun hlt => ?_⟩
  have hnotlast : k + 1 ≠ (Run.final (step lib d)
      (new store filter connectors position name config) as).kafka.calls.length := by
    rw [hcalls]
    exact hlt.ne
  have hended : call = .ended := by
    by_contra hne
    exact hnotlast (h.consecutive.running k call hk hne).1
  have hres := (h.consecutive.returned k (hended ▸ hk)).resolve_right fun hover =>
    hnotlast hover.1
  exact ht.account.all_or_none hres

/-- Two batches in a sink whose only connector is the one to Kafka: a call of `sink`, its turns, the
turn of the worker and the call of `dispatch`. -/
def twoBatches (first second : CanalEvent) : List KafkaSinkAction :=
  [.kafka (.connect (.ok ())), .kafka (.metadata 0 (.ok ())), .sink (.call [first]),
    .sink (.advance 0), .sink (.advance 0), .sink (.advance 0), .sink (.advance 0),
    .sink .receive, .kafka (.call 0 (.acquire 0)), .sink (.call [second]),
    .sink (.advance 1), .sink (.advance 1), .sink (.advance 1), .sink (.advance 1),
    .kafka (.call 0 (.answer 0 true)), .finish,
    .sink .receive, .kafka (.call 1 (.acquire 0)), .kafka (.call 1 (.answer 0 true)), .finish]

theorem batches_in_order_two :
    let os := Run.outputs (step .literal true)
      (new (.new 8) { includeRe := ".*\\..*", exclude := none } 1 0 "kafka"
        { servers := "kafka:9092", topic := "canal" })
      (twoBatches (storedEvent 100) (storedEvent 200))
    let part := fun k => (kafkaRecords k (kafkaNotes os)).map KafkaRecord.message
    (dispatches 0 (sinkNotes os)).map DispatchRequest.events =
        [[storedEvent 100], [storedEvent 200]] ∧
      handedOver (kafkaNotes os) = [0, 1].flatMap part ∧
      ∃ p, .began 0 [storedEvent 100] p ∈ kafkaNotes os ∧
        (part 0).Perm (if p.isSome then serializeEvents [storedEvent 100] else []) := by
  intro os part
  obtain ⟨-, horder, hbatch⟩ := batches_in_order .literal true (.new 8)
    { includeRe := ".*\\..*", exclude := none } 1 0 "kafka"
    { servers := "kafka:9092", topic := "canal" } (by decide)
    (twoBatches (storedEvent 100) (storedEvent 200))
  obtain ⟨p, hbegan, -, hall⟩ := hbatch 0 _ rfl
  exact ⟨by rfl, horder, p, hbegan, hall (by decide)⟩

example :
    kafkaResults 1 (kafkaNotes (Run.outputs (step .literal true)
      (new (.new 8) { includeRe := ".*\\..*", exclude := none } 1 0 "kafka"
        { servers := "kafka:9092", topic := "canal" })
      (twoBatches (storedEvent 100) (storedEvent 200)))) = [.ok ()] := by rfl

end KafkaSink

end Canal
