import Canal.KafkaDispatch

namespace Canal
set_option autoImplicit true

namespace KafkaConnector

/-- How a call that began with `events` and a producer may return after what it has shown. -/
inductive Returns (name : String) (events : List CanalEvent) :
    Option Nat → List KafkaRecord → List Bool → Except CanalError Unit → Prop
  | empty (he : events = []) (p : Option Nat) : Returns name events p [] [] (.ok ())
  | unconnected (he : events ≠ []) :
      Returns name events none [] [] (.error (.internal "KafkaConnector: not connected"))
  | joined (hr : (rs.map KafkaRecord.message).Perm (serializeEvents events))
      (hn : answers.length = events.length) (p : Nat) :
      Returns name events (some p) rs answers (outcome name (answers.count false) events.length)

/-- The books of one call: no message is handed over twice, all go to one producer and topic, at
most 50 are in flight, and the call returns once. -/
structure Account (name topic : String) (events : List CanalEvent) (p : Option Nat)
    (rs : List KafkaRecord) (answers : List Bool) (results : List (Except CanalError Unit)) :
    Prop where
  once : (rs.map KafkaRecord.message).Subperm (serializeEvents events)
  addressed : ∀ r ∈ rs, some r.producer = p ∧ r.topic = topic
  inFlight : answers.length ≤ rs.length ∧ rs.length ≤ answers.length + maxInFlight
  returns : results = [] ∨ ∃ result, results = [result] ∧ Returns name events p rs answers result

/-- A call in `join_all` against what it has shown. -/
structure Sending (topic : String) (events : List CanalEvent) (p : Nat) (rs : List KafkaRecord)
    (answers : List Bool) (sends : List KafkaSend) : Prop where
  messages : sends.map KafkaSend.message = serializeEvents events
  sent : (rs.map KafkaRecord.message).Perm
    ((sends.filter fun s => s.state.started).map KafkaSend.message)
  answered : answers.Perm (sends.filterMap fun s => s.state.answer)
  addressed : ∀ r ∈ rs, r.producer = p ∧ r.topic = topic
  room : (sends.countP fun s => s.state.isInFlight) ≤ maxInFlight

theorem length_started (sends : List KafkaSend) :
    (sends.filter fun s => s.state.started).length =
      (sends.countP fun s => s.state.isInFlight) +
        (sends.filterMap fun s => s.state.answer).length := by
  induction sends with
  | nil => rfl
  | cons s sends ih =>
    rw [List.filter_cons, List.countP_cons, List.filterMap_cons]
    cases s.state with
    | waiting => exact ih
    | inFlight => exact (congrArg (· + 1) ih).trans (Nat.add_right_comm ..)
    | answered delivered => exact congrArg (· + 1) ih

theorem perm_set {l : List KafkaSend} (h : l[i]? = some a) (b : KafkaSend) :
    ∃ rest, l.Perm (a :: rest) ∧ (l.set i b).Perm (b :: rest) := by
  obtain ⟨hi, rfl⟩ := List.getElem?_eq_some_iff.1 h
  exact ⟨l.eraseIdx i, (List.getElem_cons_eraseIdx_perm hi).symm, List.set_perm_cons_eraseIdx hi b⟩

theorem messages_set {sends : List KafkaSend} (hi : sends[i]? = some send) (state : SendState) :
    (sends.set i { send with state }).map KafkaSend.message = sends.map KafkaSend.message := by
  obtain ⟨hlt, rfl⟩ := List.getElem?_eq_some_iff.1 hi
  rw [List.map_set]
  apply List.ext_getElem?
  intro j
  by_cases hj : i = j
  · subst hj
    simp [hlt, KafkaSend.message]
  · rw [List.getElem?_set_ne hj]

theorem Sending.length_eq (h : Sending topic events p rs answers sends) :
    rs.length = (sends.countP fun s => s.state.isInFlight) + answers.length := by
  rw [← List.length_map KafkaRecord.message, h.sent.length_eq, List.length_map, length_started,
    h.answered.length_eq]

theorem Sending.account (h : Sending topic events p rs answers sends) (name : String) :
    Account name topic events (some p) rs answers [] := by
  have hlen := h.length_eq
  have hroom := h.room
  refine ⟨?_, fun r hr => ⟨congrArg some (h.addressed r hr).1, (h.addressed r hr).2⟩,
    ⟨by omega, by omega⟩, .inl rfl⟩
  rw [← h.messages]
  exact h.sent.subperm.trans (List.filter_sublist.map _).subperm

theorem Sending.acquire (h : Sending topic events p rs answers sends)
    (hi : sends[i]? = some send) (hw : send.state = .waiting)
    (hroom : (sends.countP fun s => s.state.isInFlight) < maxInFlight) :
    Sending topic events p
      (rs ++ [{ producer := p, topic, key := send.key, payload := send.payload }]) answers
      (sends.set i { send with state := .inFlight }) := by
  obtain ⟨rest, hbefore, hafter⟩ := perm_set hi { send with state := .inFlight }
  have hsent := h.sent.trans ((hbefore.filter _).map _)
  have hanswered := h.answered.trans (hbefore.filterMap _)
  rw [List.filter_cons_of_neg (by simp [hw, SendState.started])] at hsent
  rw [List.filterMap_cons_none (by simp [hw, SendState.answer])] at hanswered
  constructor
  · rw [messages_set hi, h.messages]
  · rw [List.map_append]
    refine List.Perm.trans ?_ ((hafter.filter _).map _).symm
    rw [List.filter_cons_of_pos rfl]
    exact (List.perm_append_singleton ..).trans (hsent.cons _)
  · refine hanswered.trans (List.Perm.trans ?_ (hafter.filterMap _).symm)
    exact List.Perm.refl _
  · intro r hr
    rcases List.mem_append.1 hr with hr | hr
    · exact h.addressed r hr
    · cases List.mem_singleton.1 hr
      exact ⟨rfl, rfl⟩
  · have hcount := hbefore.countP_eq fun s : KafkaSend => s.state.isInFlight
    rw [List.countP_cons_of_neg (by simp [hw, SendState.isInFlight])] at hcount
    rw [hafter.countP_eq, List.countP_cons_of_pos rfl]
    omega

theorem Sending.answer (h : Sending topic events p rs answers sends)
    (hi : sends[i]? = some send) (hf : send.state = .inFlight) (delivered : Bool) :
    Sending topic events p rs (answers ++ [delivered])
      (sends.set i { send with state := .answered delivered }) := by
  obtain ⟨rest, hbefore, hafter⟩ := perm_set hi { send with state := .answered delivered }
  have hsent := h.sent.trans ((hbefore.filter _).map _)
  have hanswered := h.answered.trans (hbefore.filterMap _)
  rw [List.filter_cons_of_pos (by simp [hf, SendState.started])] at hsent
  rw [List.filterMap_cons_none (by simp [hf, SendState.answer])] at hanswered
  constructor
  · rw [messages_set hi, h.messages]
  · refine hsent.trans (List.Perm.trans ?_ ((hafter.filter _).map _).symm)
    exact List.Perm.refl _
  · refine List.Perm.trans ?_ (hafter.filterMap _).symm
    exact (List.perm_append_singleton ..).trans (hanswered.cons _)
  · exact h.addressed
  · have hcount := hbefore.countP_eq fun s : KafkaSend => s.state.isInFlight
    have hroom := h.room
    rw [hafter.countP_eq, List.countP_cons_of_neg (by simp [SendState.isInFlight])]
    rw [List.countP_cons_of_pos (by simp [hf, SendState.isInFlight])] at hcount
    omega

theorem Sending.joined (h : Sending topic events p rs answers sends)
    (hall : ∀ s ∈ sends, s.state.answer.isSome = true) (name : String) :
    Returns name events (some p) rs answers
      (outcome name ((sends.filterMap fun s => s.state.answer).count false) events.length) := by
  have hstarted : (sends.filter fun s => s.state.started) = sends := by
    rw [List.filter_eq_self]
    intro s hs
    have hsome := hall s hs
    cases hstate : s.state with
    | answered delivered => rfl
    | waiting | inFlight =>
      rw [hstate] at hsome
      cases hsome
  have hcalm : (sends.countP fun s => s.state.isInFlight) = 0 := by
    rw [List.countP_eq_zero]
    intro s hs
    have hsome := hall s hs
    cases hstate : s.state with
    | answered delivered => exact Bool.false_ne_true
    | waiting | inFlight =>
      rw [hstate] at hsome
      cases hsome
  have hsent := h.sent
  rw [hstarted, h.messages] at hsent
  have hlen := h.length_eq
  rw [hcalm, Nat.zero_add, ← List.length_map KafkaRecord.message, hsent.length_eq,
    serializeEvents, List.length_map] at hlen
  rw [← h.answered.count_eq]
  exact .joined hsent hlen.symm p

/-- Where a call that began with `events` and a producer stands after what it has shown. -/
inductive Tracked (name topic : String) (events : List CanalEvent) :
    Option Nat → List KafkaRecord → List Bool → List (Except CanalError Unit) → KafkaCall → Prop
  | sending (h : Sending topic events p rs answers sends) :
      Tracked name topic events (some p) rs answers [] (.sending p events.length sends)
  | settled (h : Returns name events p [] [] result) :
      Tracked name topic events p [] [] [] (.settled result)
  | ended (h : Account name topic events p rs answers results) :
      Tracked name topic events p rs answers results .ended

variable {name topic : String} {events : List CanalEvent} {p : Option Nat} {call : KafkaCall}

theorem Returns.account (h : Returns name events p [] [] result) (topic : String) :
    Account name topic events p [] [] [] ∧ Account name topic events p [] [] [result] := by
  have hnone : ∀ r ∈ ([] : List KafkaRecord), some r.producer = p ∧ r.topic = topic :=
    fun r hr => absurd hr List.not_mem_nil
  exact ⟨⟨List.nil_subperm, hnone, ⟨le_rfl, Nat.zero_le _⟩, .inl rfl⟩,
    List.nil_subperm, hnone, ⟨le_rfl, Nat.zero_le _⟩, .inr ⟨result, rfl, h⟩⟩

theorem Tracked.account (h : Tracked name topic events p rs answers results call) :
    Account name topic events p rs answers results := by
  cases h with
  | sending h => exact h.account name
  | settled h => exact (h.account topic).1
  | ended h => exact h

theorem notes_record (k : Nat) (r : KafkaRecord) : kafkaRecords k [.record k r] = [r] ∧
    kafkaAnswers k [.record k r] = [] ∧ kafkaResults k [.record k r] = [] := by
  simp [kafkaRecords, kafkaAnswers, kafkaResults]

theorem notes_answered (k : Nat) (delivered : Bool) :
    kafkaRecords k [.answered k delivered] = [] ∧
      kafkaAnswers k [.answered k delivered] = [delivered] ∧
      kafkaResults k [.answered k delivered] = [] := by
  simp [kafkaRecords, kafkaAnswers, kafkaResults]

theorem notes_returned (k : Nat) (result : Except CanalError Unit) :
    kafkaRecords k [.returned k result] = [] ∧ kafkaAnswers k [.returned k result] = [] ∧
      kafkaResults k [.returned k result] = [result] := by
  simp [kafkaRecords, kafkaAnswers, kafkaResults]

theorem Tracked.advance (h : Tracked name topic events p rs answers results call) (k : Nat)
    (a : CallAction) :
    let r := KafkaConnector.advance name topic k call a
    Tracked name topic events p (rs ++ kafkaRecords k r.2) (answers ++ kafkaAnswers k r.2)
      (results ++ kafkaResults k r.2) r.1 := by
  have hnil : kafkaRecords k [] = [] ∧ kafkaAnswers k [] = [] ∧ kafkaResults k [] = [] :=
    ⟨rfl, rfl, rfl⟩
  have hidle : Tracked name topic events p (rs ++ []) (answers ++ []) (results ++ []) call := by
    rw [List.append_nil, List.append_nil, List.append_nil]
    exact h
  cases h with
  | @sending p rs answers sends h =>
    cases a with
    | acquire i =>
      simp only [KafkaConnector.advance]
      split
      · rename_i send hi
        split
        · rename_i hw
          obtain ⟨h1, h2, h3⟩ := notes_record k ⟨p, topic, send.key, send.payload⟩
          rw [h1, h2, h3, List.append_nil]
          exact .sending (h.acquire hi hw.1 hw.2)
        · exact hidle
      · exact hidle
    | answer i delivered =>
      simp only [KafkaConnector.advance]
      split
      · rename_i send hi
        split
        · rename_i hf
          obtain ⟨h1, h2, h3⟩ := notes_answered k delivered
          rw [h1, h2, h3, List.append_nil]
          exact .sending (h.answer hi hf delivered)
        · exact hidle
      · exact hidle
    | join =>
      simp only [KafkaConnector.advance]
      split
      · rename_i hall
        obtain ⟨h1, h2, h3⟩ := notes_returned k (outcome name
          ((sends.filterMap fun s => s.state.answer).count false) events.length)
        rw [h1, h2, h3, List.append_nil, List.append_nil]
        have hacc := h.account name
        exact .ended ⟨hacc.once, hacc.addressed, hacc.inFlight,
          .inr ⟨_, rfl, h.joined (List.all_eq_true.1 hall) name⟩⟩
      · exact hidle
    | abort =>
      simp only [KafkaConnector.advance, hnil, List.append_nil]
      exact .ended (h.account name)
  | @settled p result h =>
    cases a with
    | acquire i => exact hidle
    | answer i delivered => exact hidle
    | join =>
      obtain ⟨h1, h2, h3⟩ := notes_returned k result
      simp only [KafkaConnector.advance]
      rw [h1, h2, h3]
      exact .ended (h.account topic).2
    | abort => exact .ended (h.account topic).1
  | ended h => cases a <;> exact hidle

end KafkaConnector

end Canal
