import Canal.KafkaCalls

namespace Canal
set_option autoImplicit true

namespace KafkaConnector

variable {name topic : String} {events : List CanalEvent} {p : Option Nat} {call : KafkaCall}

/-- The producer of the last `connect` that succeeded, unless it was closed since. -/
def producerAfter (os : List KafkaNote) : Option Nat :=
  os.foldl (fun p n => match n with
    | .connected producer => some producer
    | .closed => none
    | _ => p) none

/-- The note is about a message or the end of call `k`. -/
def Within (k : Nat) : KafkaNote → Prop
  | .record k' _ | .answered k' _ | .returned k' _ => k' = k
  | _ => False

theorem advance_notes (name topic : String) (k : Nat) (call : KafkaCall) (a : CallAction) :
    ∀ n ∈ (advance name topic k call a).2, Within k n := by
  have hone : ∀ {n : KafkaNote}, Within k n → ∀ n' ∈ [n], Within k n' := by
    intro n hn n' hn'
    rw [List.mem_singleton.1 hn']
    exact hn
  have hnil : ∀ n ∈ ([] : List KafkaNote), Within k n := fun n hn => absurd hn List.not_mem_nil
  unfold advance
  split
  · split
    · split
      · exact hone rfl
      · exact hnil
    · exact hnil
  · split
    · split
      · exact hone rfl
      · exact hnil
    · exact hnil
  · split
    · exact hone rfl
    · exact hnil
  · exact hone rfl
  · exact hnil
  · exact hnil

theorem advance_ended (name topic : String) (k : Nat) (call : KafkaCall) (a : CallAction) :
    ((advance name topic k call a).1 = .ended →
        call = .ended ∨ kafkaResults k (advance name topic k call a).2 ≠ [] ∨ a = .abort) ∧
      (kafkaResults k (advance name topic k call a).2 ≠ [] →
        (advance name topic k call a).1 = .ended) ∧
      (call = .ended → advance name topic k call a = (.ended, [])) := by
  have hresult : ∀ result, kafkaResults k [.returned k result] ≠ [] := by
    intro result
    rw [(notes_returned k result).2.2]
    exact List.cons_ne_nil _ _
  cases call with
  | sending p total sends =>
    refine ⟨?_, ?_, fun h => by cases h⟩
    · cases a with
      | acquire i | answer i =>
        simp only [advance]
        intro h
        split at h
        · split at h <;> cases h
        · cases h
      | join =>
        simp only [advance]
        split
        · exact fun _ => .inr (.inl (hresult _))
        · exact fun h => by cases h
      | abort => exact fun _ => .inr (.inr rfl)
    · cases a with
      | acquire i =>
        simp only [advance]
        split
        · split
          · exact fun h => absurd (notes_record k _).2.2 h
          · exact fun h => absurd rfl h
        · exact fun h => absurd rfl h
      | answer i delivered =>
        simp only [advance]
        split
        · split
          · exact fun h => absurd (notes_answered k _).2.2 h
          · exact fun h => absurd rfl h
        · exact fun h => absurd rfl h
      | join =>
        simp only [advance]
        split
        · exact fun _ => rfl
        · exact fun h => absurd rfl h
      | abort => exact fun _ => rfl
  | settled result =>
    refine ⟨?_, ?_, fun h => by cases h⟩
    · cases a with
      | acquire i | answer i => exact fun h => by cases h
      | join => exact fun _ => .inr (.inl (hresult _))
      | abort => exact fun _ => .inr (.inr rfl)
    · cases a with
      | acquire i | answer i => exact fun h => absurd rfl h
      | join | abort => exact fun _ => rfl
  | ended =>
    refine ⟨fun _ => .inl rfl, ?_, fun _ => ?_⟩
    · cases a <;> exact fun h => absurd rfl h
    · cases a <;> rfl

theorem within_other {ns : List KafkaNote} (h : ∀ n ∈ ns, Within k n) :
    (∀ k', k' ≠ k → kafkaRecords k' ns = [] ∧ kafkaAnswers k' ns = [] ∧ kafkaResults k' ns = []) ∧
      (∀ k' events p, .began k' events p ∉ ns) ∧
      ∀ os, producerAfter (os ++ ns) = producerAfter os := by
  refine ⟨fun k' hk => ?_, fun k' events p hmem => h _ hmem, fun os => ?_⟩
  · have hne : k ≠ k' := hk.symm
    simp only [kafkaRecords, kafkaAnswers, kafkaResults, List.filterMap_eq_nil_iff]
    refine ⟨fun n hn => ?_, fun n hn => ?_, fun n hn => ?_⟩ <;>
    · have hw := h n hn
      cases n <;> simp_all [Within]
  · rw [producerAfter, List.foldl_append, ← producerAfter]
    induction ns with
    | nil => rfl
    | cons n ns ih =>
      have hw := h n (List.mem_cons_self ..)
      rw [List.foldl_cons]
      cases n with
      | record | answered | returned => exact ih fun n' hn' => h n' (List.mem_cons_of_mem _ hn')
      | created | connected | refused | closed | began => exact hw.elim

/-- The calls against what the run has shown of them. -/
structure Booked (name : String) (config : KafkaConfig) (os : List KafkaNote)
    (s : KafkaConnector) : Prop where
  named : s.name = name
  configured : s.config = config
  holds : s.producer = producerAfter os
  begun : ∀ k events p, .began k events p ∈ os → ∃ call, s.calls[k]? = some call ∧
    Tracked name config.topic events p (kafkaRecords k os) (kafkaAnswers k os) (kafkaResults k os)
      call
  fresh : ∀ k, s.calls.length ≤ k →
    kafkaRecords k os = [] ∧ kafkaAnswers k os = [] ∧ kafkaResults k os = []
  producers : ∀ pre k events p post, os = pre ++ .began k events p :: post → p = producerAfter pre

variable {config : KafkaConfig} {os ns : List KafkaNote} {s : KafkaConnector}

theorem producers_append (h : ∀ pre k events p post, os = pre ++ .began k events p :: post →
      p = producerAfter pre) (hn : ∀ k events p, .began k events p ∉ ns) :
    ∀ pre k events p post, os ++ ns = pre ++ .began k events p :: post →
      p = producerAfter pre := by
  intro pre k events p post he
  rcases List.append_eq_append_iff.1 he with ⟨mid, rfl, hmid⟩ | ⟨mid, rfl, hmid⟩
  · exact absurd (hmid ▸ List.mem_append_right mid (List.mem_cons_self ..)) (hn k events p)
  · cases mid with
    | nil =>
      cases hmid
      exact absurd (List.mem_cons_self ..) (hn k events p)
    | cons n mid =>
      cases hmid
      exact h pre k events p mid rfl

theorem Booked.quiet (h : Booked name config os s) {t : KafkaConnector}
    (hnamed : t.name = s.name) (hconfig : t.config = s.config) (hcalls : t.calls = s.calls)
    (hholds : t.producer = producerAfter (os ++ ns))
    (hr : ∀ k, kafkaRecords k ns = [] ∧ kafkaAnswers k ns = [] ∧ kafkaResults k ns = [])
    (hb : ∀ k events p, .began k events p ∉ ns) : Booked name config (os ++ ns) t := by
  refine ⟨hnamed.trans h.named, hconfig.trans h.configured, hholds, ?_, ?_,
    producers_append h.producers hb⟩
  · intro k events p hmem
    rw [kafkaRecords_append, kafkaAnswers_append, kafkaResults_append, (hr k).1, (hr k).2.1,
      (hr k).2.2, List.append_nil, List.append_nil, List.append_nil, hcalls]
    exact h.begun k events p ((List.mem_append.1 hmem).resolve_right (hb k events p))
  · intro k hk
    rw [kafkaRecords_append, kafkaAnswers_append, kafkaResults_append, (hr k).1, (hr k).2.1,
      (hr k).2.2, List.append_nil, List.append_nil, List.append_nil]
    exact h.fresh k (hcalls ▸ hk)

theorem tracked_dispatch (s : KafkaConnector) (events : List CanalEvent) :
    Tracked s.name s.config.topic events s.producer [] [] [] (s.dispatch events) := by
  unfold dispatch
  split
  · rename_i he
    exact .settled (.empty (List.length_eq_zero_iff.1 he) _)
  · rename_i he
    have hne : events ≠ [] := fun hnil => he (List.length_eq_zero_iff.2 hnil)
    split
    · rename_i hp
      rw [hp]
      exact .settled (.unconnected hne)
    · rename_i p hp
      rw [hp]
      apply Tracked.sending
      refine ⟨?_, ?_, ?_, fun r hr => absurd hr List.not_mem_nil, ?_⟩
      · rw [List.map_map]
        exact List.map_id' _
      · rw [List.filter_map]
        simp [Function.comp_def, SendState.started]
      · rw [List.filterMap_map]
        simp [Function.comp_def, SendState.answer]
      · rw [List.countP_map]
        simp [Function.comp_def, SendState.isInFlight]

theorem Booked.dispatch (h : Booked name config os s) (events : List CanalEvent) :
    Booked name config (os ++ [.began s.calls.length events s.producer])
      { s with calls := s.calls ++ [s.dispatch events] } := by
  have hr : ∀ k, kafkaRecords k [.began s.calls.length events s.producer] = [] ∧
      kafkaAnswers k [.began s.calls.length events s.producer] = [] ∧
      kafkaResults k [.began s.calls.length events s.producer] = [] := fun k => ⟨rfl, rfl, rfl⟩
  have hsame : ∀ k, kafkaRecords k (os ++ [.began s.calls.length events s.producer]) =
        kafkaRecords k os ∧
      kafkaAnswers k (os ++ [.began s.calls.length events s.producer]) = kafkaAnswers k os ∧
      kafkaResults k (os ++ [.began s.calls.length events s.producer]) = kafkaResults k os := by
    intro k
    rw [kafkaRecords_append, kafkaAnswers_append, kafkaResults_append, (hr k).1, (hr k).2.1,
      (hr k).2.2, List.append_nil, List.append_nil, List.append_nil]
    exact ⟨rfl, rfl, rfl⟩
  refine ⟨h.named, h.configured, ?_, ?_, ?_, ?_⟩
  · rw [producerAfter, List.foldl_append]
    exact h.holds
  · intro k events' p hmem
    rw [(hsame k).1, (hsame k).2.1, (hsame k).2.2]
    rcases List.mem_append.1 hmem with hmem | hmem
    · obtain ⟨call, hk, ht⟩ := h.begun k events' p hmem
      have hlt := (List.getElem?_eq_some_iff.1 hk).1
      exact ⟨call, by rw [List.getElem?_append_left hlt]; exact hk, ht⟩
    · cases List.mem_singleton.1 hmem
      obtain ⟨h1, h2, h3⟩ := h.fresh s.calls.length le_rfl
      refine ⟨s.dispatch events, List.getElem?_concat_length, ?_⟩
      rw [h1, h2, h3, ← h.named, ← h.configured]
      exact s.tracked_dispatch events
  · intro k hk
    rw [(hsame k).1, (hsame k).2.1, (hsame k).2.2]
    apply h.fresh
    simp only [List.length_append, List.length_singleton] at hk
    omega
  · intro pre k events' p post he
    rcases List.eq_nil_or_concat post with rfl | ⟨post, n, rfl⟩
    · obtain ⟨rfl, hn⟩ := List.append_inj' he rfl
      cases hn
      exact h.holds
    · rw [List.concat_eq_append, ← List.cons_append, ← List.append_assoc] at he
      obtain ⟨rfl, -⟩ := List.append_inj' he rfl
      exact h.producers pre k events' p post rfl

theorem Booked.advance (h : Booked name config os s) (hk : s.calls[k]? = some call)
    (a : CallAction) :
    let r := KafkaConnector.advance s.name s.config.topic k call a
    Booked name config (os ++ r.2) { s with calls := s.calls.set k r.1 } := by
  intro r
  obtain ⟨hother, hbegan, hholds⟩ :=
    within_other (advance_notes s.name s.config.topic k call a)
  have hlt := (List.getElem?_eq_some_iff.1 hk).1
  refine ⟨h.named, h.configured, h.holds.trans (hholds os).symm, ?_, ?_,
    producers_append h.producers hbegan⟩
  · intro k' events p hmem
    obtain ⟨call', hk', ht⟩ := h.begun k' events p
      ((List.mem_append.1 hmem).resolve_right (hbegan k' events p))
    rw [kafkaRecords_append, kafkaAnswers_append, kafkaResults_append]
    by_cases hne : k' = k
    · subst hne
      rw [hk] at hk'
      cases hk'
      rw [← h.named, ← h.configured] at ht ⊢
      exact ⟨r.1, List.getElem?_set_self hlt, ht.advance k' a⟩
    · obtain ⟨h1, h2, h3⟩ := hother k' hne
      rw [h1, h2, h3, List.append_nil, List.append_nil, List.append_nil]
      exact ⟨call', by rw [List.getElem?_set_ne (Ne.symm hne)]; exact hk', ht⟩
  · intro k' hk'
    rw [List.length_set] at hk'
    obtain ⟨h1, h2, h3⟩ := hother k' (by omega)
    rw [kafkaRecords_append, kafkaAnswers_append, kafkaResults_append, h1, h2, h3,
      List.append_nil, List.append_nil, List.append_nil]
    exact h.fresh k' hk'

theorem Booked.step (h : Booked name config os s) (a : KafkaAction) :
    Booked name config (os ++ (s.step a).2) (s.step a).1 := by
  have hidle : Booked name config (os ++ []) s := by
    rw [List.append_nil]
    exact h
  have hquiet : ∀ n : KafkaNote, (∀ k, ¬ Within k n) → (∀ k events p, n ≠ .began k events p) →
      (∀ k, kafkaRecords k [n] = [] ∧ kafkaAnswers k [n] = [] ∧ kafkaResults k [n] = []) ∧
        ∀ k events p, .began k events p ∉ [n] := by
    intro n hw hb
    refine ⟨fun k => ?_, fun k events p hmem => hb k events p (List.mem_singleton.1 hmem).symm⟩
    cases n with
    | record k' r => exact absurd rfl (hw k')
    | answered k' r => exact absurd rfl (hw k')
    | returned k' r => exact absurd rfl (hw k')
    | created | connected | refused | closed | began => exact ⟨rfl, rfl, rfl⟩
  have hkeep : ∀ n : KafkaNote, (∀ p, n ≠ .connected p) → n ≠ .closed →
      s.producer = producerAfter (os ++ [n]) := by
    intro n hc hcl
    rw [producerAfter, List.foldl_append, ← producerAfter, ← h.holds]
    cases n with
    | connected p => exact absurd rfl (hc p)
    | closed => exact absurd rfl hcl
    | created | refused | began | record | answered | returned => rfl
  have hset : ∀ (n : KafkaNote) (p : Option Nat), n = .closed ∧ p = none ∨
      (∃ q, n = .connected q ∧ p = some q) → p = producerAfter (os ++ [n]) := by
    rintro n p (⟨rfl, rfl⟩ | ⟨q, rfl, rfl⟩) <;> rw [producerAfter, List.foldl_append] <;> rfl
  cases a with
  | connect created =>
    cases created with
    | error e =>
      obtain ⟨hr, hb⟩ := hquiet (.refused (.internal ("Kafka producer: " ++ e))) (fun _ => id) nofun
      exact h.quiet rfl rfl rfl (hkeep _ nofun nofun) hr hb
    | ok =>
      obtain ⟨hr, hb⟩ := hquiet (.created s.created s.config.settings) (fun _ => id) nofun
      exact h.quiet rfl rfl rfl (hkeep _ nofun nofun) hr hb
  | metadata p fetched =>
    simp only [KafkaConnector.step]
    split
    · cases fetched with
      | ok =>
        obtain ⟨hr, hb⟩ := hquiet (.connected p) (fun _ => id) nofun
        exact h.quiet rfl rfl rfl (hset _ _ (.inr ⟨p, rfl, rfl⟩)) hr hb
      | error e =>
        obtain ⟨hr, hb⟩ := hquiet (.refused e.toCanalError) (fun _ => id) nofun
        exact h.quiet rfl rfl rfl (hkeep _ nofun nofun) hr hb
    · exact hidle
  | close =>
    obtain ⟨hr, hb⟩ := hquiet .closed (fun _ => id) nofun
    exact h.quiet rfl rfl rfl (hset _ _ (.inl ⟨rfl, rfl⟩)) hr hb
  | dispatch events => exact h.dispatch events
  | call k a =>
    simp only [KafkaConnector.step]
    split
    · rename_i call hk
      exact h.advance hk a
    · exact hidle

theorem Booked.new (name : String) (config : KafkaConfig) :
    Booked name config [] (.new name config) := by
  refine ⟨rfl, rfl, rfl, fun k events p hmem => absurd hmem List.not_mem_nil,
    fun k _ => ⟨rfl, rfl, rfl⟩, ?_⟩
  intro pre k events p post he
  cases pre <;> cases he

theorem booked_run (name : String) (config : KafkaConfig) (as : List KafkaAction) :
    Booked name config (Run.outputs step (new name config) as)
      (Run.final step (new name config) as) := by
  apply Run.history_invariant step (new name config) (I := fun _ os s => Booked name config os s)
  · exact .new name config
  · exact fun _ _ _ a h => h.step a

/-- Two messages, the second of which is sent first and the first of which is lost. -/
def twoMessages (events : List CanalEvent) : List KafkaAction :=
  [.connect (.ok ()), .metadata 0 (.ok ()), .dispatch events, .call 0 (.acquire 1),
    .call 0 (.acquire 0), .call 0 (.answer 1 true), .call 0 (.answer 0 false), .call 0 .join]

example (e e' : CanalEvent) :
    kafkaResults 0 (Run.outputs step (new "kafka" { servers := "", topic := "canal" })
      (twoMessages [e, e'])) = [outcome "kafka" 1 2] := by rfl

end KafkaConnector

end Canal
