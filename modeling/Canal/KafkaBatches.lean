import Canal.DispatchOrder
import Canal.KafkaAccounts
import Canal.KafkaSink

namespace Canal
set_option autoImplicit true

namespace SinkSystem

variable {lib : Crates} {d : Bool} {s : SinkSystem}

theorem step_awaiting (hw : s.worker = some (.dispatching r c)) (ha : a.isDispatched = false) :
    (s.step lib d a).1.worker = s.worker ∨ (s.step lib d a).1.worker = some .ended := by
  cases a with
  | dispatched => cases ha
  | call events =>
    simp only [step]
    split <;> exact .inl rfl
  | advance i =>
    simp only [step, advance]
    cases hi : s.calls[i]? with
    | none => exact .inl rfl
    | some stage =>
      cases stage with
      | called | returned | panicked => exact .inl rfl
      | filtered events =>
        simp only
        split
        · exact .inl rfl
        · split <;> exact .inl rfl
      | stored events batchId =>
        simp only
        split
        · exact .inl rfl
        · left
          simp only [ensureWorker, hw]
          rfl
      | sending events batchId =>
        have hsend := send_open (s := s) hw (by simp) ⟨i, events⟩
        simp only [hsend]
        exact .inl trivial
  | receive =>
    simp only [step, hw]
    exact .inl trivial
  | stop => exact .inl rfl
  | drop =>
    simp only [step]
    split <;> exact .inl rfl
  | cancel =>
    simp only [step]
    split
    · exact .inr rfl
    · exact .inl rfl

theorem Turn.begins (ht : Turn s t os) (hr : r ∈ dispatches c os) :
    dispatches c os = [r] ∧ t.worker = some (.dispatching r c) ∧ s.worker ≠ some .ended ∧
      ∀ r', s.worker ≠ some (.dispatching r' c) := by
  have hone : ∀ {r' : DispatchRequest} {c' : Nat}, r ∈ dispatches c [.dispatch c' r'] →
      c' = c ∧ r' = r := by
    intro r' c' h
    rw [dispatches_one] at h
    split at h
    · rename_i hc
      exact ⟨hc, (List.mem_singleton.1 h).symm⟩
    · cases h
  cases ht with
  | received hw hq =>
    obtain ⟨rfl, rfl⟩ := hone hr
    exact ⟨dispatches_one .., rfl, by rw [hw]; simp, by rw [hw]; simp⟩
  | passed hw hc =>
    obtain ⟨rfl, rfl⟩ := hone hr
    refine ⟨by rw [dispatches_one, if_pos rfl], rfl, by rw [hw]; simp, fun r' h => ?_⟩
    rw [hw] at h
    cases h
  | idle | called | filtered | empty | panicked | appended | storedOnly | ensured | sent | refused
  | finished | closed | dropped | cancelled => cases hr

theorem Turn.worker_ended (ht : Turn s t os) (hw : s.worker = some .ended) :
    t.worker = some .ended := by
  cases ht with
  | received h | passed h | finished h => cases hw.symm.trans h
  | ensured => exact congrArg some (congrArg (Option.getD · .receiving) hw)
  | closed | cancelled => rfl
  | _ => exact hw

end SinkSystem

namespace KafkaConnector

/-- A call that has returned has handed over all its messages, or none without a producer. -/
theorem Account.all_or_none {name : String} (h : Account name topic events p rs answers results)
    (hres : results ≠ []) : (rs.map KafkaRecord.message).Perm
      (if p.isSome then serializeEvents events else []) := by
  rcases h.returns with hnil | ⟨result, -, hreturns⟩
  · exact absurd hnil hres
  · cases hreturns with
    | empty he p =>
      subst he
      cases p <;> exact List.Perm.nil
    | unconnected => exact List.Perm.nil
    | joined hr => exact hr

/-- The messages of the first `n` calls, call by call. -/
def byCall (n : Nat) (os : List KafkaNote) : List (String × String) :=
  (List.range n).flatMap fun k => (kafkaRecords k os).map KafkaRecord.message

/-- No call begins before the one before it has ended: `busy` while the last one may still run,
`dropped` once it may have been dropped. -/
structure Consecutive (busy dropped : Bool) (os : List KafkaNote) (s : KafkaConnector) : Prop where
  running : ∀ k call, s.calls[k]? = some call → call ≠ .ended →
    k + 1 = s.calls.length ∧ busy = true
  returned : ∀ k, s.calls[k]? = some .ended →
    kafkaResults k os ≠ [] ∨ k + 1 = s.calls.length ∧ dropped = true
  order : handedOver os = byCall s.calls.length os

variable {busy busy' dropped dropped' : Bool} {name : String} {config : KafkaConfig}
  {os ns : List KafkaNote} {s t : KafkaConnector}

theorem Consecutive.mono (h : Consecutive busy dropped os s) (hb : busy = true → busy' = true)
    (ho : dropped = true → dropped' = true) : Consecutive busy' dropped' os s where
  running k call hk hne := ⟨(h.running k call hk hne).1, hb (h.running k call hk hne).2⟩
  returned k hk := (h.returned k hk).imp_right fun hd => ⟨hd.1, ho hd.2⟩
  order := h.order

theorem Consecutive.idle (h : Consecutive busy dropped os s)
    (hall : ∀ (k : Nat) (call : KafkaCall), s.calls[k]? = some call → call = .ended) :
    Consecutive false dropped os s :=
  ⟨fun k call hk hne => absurd (hall k call hk) hne, h.returned, h.order⟩

theorem byCall_append (h : ∀ k < n, kafkaRecords k ns = []) :
    byCall n (os ++ ns) = byCall n os := by
  apply List.flatMap_congr
  intro k hk
  rw [kafkaRecords_append, h k (List.mem_range.1 hk), List.append_nil]

theorem Consecutive.quiet (h : Consecutive busy dropped os s) (hcalls : t.calls = s.calls)
    (hr : ∀ k, kafkaRecords k ns = [] ∧ kafkaResults k ns = []) (hh : handedOver ns = []) :
    Consecutive busy dropped (os ++ ns) t := by
  refine ⟨?_, ?_, ?_⟩
  · rw [hcalls]
    exact h.running
  · intro k hk
    rw [hcalls] at hk ⊢
    rw [kafkaResults_append, (hr k).2, List.append_nil]
    exact h.returned k hk
  · rw [hcalls, handedOver_append, hh, List.append_nil, h.order,
      byCall_append fun k _ => (hr k).1]

theorem Consecutive.dispatch (h : Consecutive false false os s) (hb : Booked name config os s)
    (events : List CanalEvent) :
    Consecutive true false (os ++ (s.step (.dispatch events)).2)
      (s.step (.dispatch events)).1 := by
  have hended : ∀ (k : Nat) (call : KafkaCall), s.calls[k]? = some call → call = .ended := by
    intro k call hk
    by_contra hne
    exact absurd (h.running k call hk hne).2 (by decide)
  simp only [step]
  refine ⟨?_, ?_, ?_⟩
  · intro k call hk hne
    rcases getElem?_concat_cases hk with hk | ⟨rfl, -⟩
    · exact absurd (hended k call hk) hne
    · exact ⟨by rw [List.length_append]; rfl, rfl⟩
  · intro k hk
    left
    rw [kafkaResults_append]
    rcases getElem?_concat_cases hk with hk | ⟨-, hcall⟩
    · rcases h.returned k hk with hres | ⟨-, hdropped⟩
      · exact List.append_ne_nil_of_left_ne_nil hres _
      · cases hdropped
    · unfold KafkaConnector.dispatch at hcall
      split at hcall
      · cases hcall
      · split at hcall <;> cases hcall
  · rw [handedOver_append, List.length_append, List.length_singleton, byCall, List.range_succ,
      List.flatMap_append, List.flatMap_singleton, ← byCall, byCall_append fun _ _ => rfl,
      kafkaRecords_append, (hb.fresh s.calls.length le_rfl).1, h.order]
    rfl

theorem handedOver_within (h : ∀ n ∈ ns, Within k n) :
    handedOver ns = (kafkaRecords k ns).map KafkaRecord.message := by
  induction ns with
  | nil => rfl
  | cons n ns ih =>
    have hn := h n (List.mem_cons_self ..)
    have ih := ih fun n' hn' => h n' (List.mem_cons_of_mem _ hn')
    cases n with
    | record k' r =>
      obtain rfl : k' = k := hn
      simp only [handedOver, kafkaRecords] at ih ⊢
      simp [ih]
    | answered | returned => exact ih
    | created | connected | refused | closed | began => exact hn.elim

theorem order_within (h : handedOver os = byCall (k + 1) os) (hn : ∀ n ∈ ns, Within k n) :
    handedOver (os ++ ns) = byCall (k + 1) (os ++ ns) := by
  have hbefore : byCall k (os ++ ns) = byCall k os :=
    byCall_append fun k' hk' => ((within_other hn).1 k' hk'.ne).1
  rw [byCall, List.range_succ, List.flatMap_append, List.flatMap_singleton, ← byCall] at h ⊢
  rw [handedOver_append, h, hbefore, kafkaRecords_append, List.map_append, List.append_assoc,
    handedOver_within hn]

theorem Consecutive.call (h : Consecutive busy dropped os s) (k : Nat) (a : CallAction)
    (ha : a ≠ .abort) :
    Consecutive busy dropped (os ++ (s.step (.call k a)).2) (s.step (.call k a)).1 := by
  simp only [step]
  split
  · rename_i call hk
    obtain ⟨hend, -, hstay⟩ := advance_ended s.name s.config.topic k call a
    have hnotes := advance_notes s.name s.config.topic k call a
    generalize advance s.name s.config.topic k call a = r at hend hstay hnotes
    have hlt := (List.getElem?_eq_some_iff.1 hk).1
    have hget : ∀ (k' : Nat) (call' : KafkaCall), (s.calls.set k r.1)[k']? = some call' →
        k' = k ∧ call' = r.1 ∨ k' ≠ k ∧ s.calls[k']? = some call' := by
      intro k' call' hk'
      by_cases hne : k' = k
      · rw [hne, List.getElem?_set_self hlt] at hk'
        exact .inl ⟨hne, (Option.some.inj hk').symm⟩
      · rw [List.getElem?_set_ne (Ne.symm hne)] at hk'
        exact .inr ⟨hne, hk'⟩
    by_cases hcall : call = .ended
    · rw [hstay hcall, List.append_nil]
      rw [hstay hcall] at hget
      refine ⟨?_, ?_, ?_⟩
      · intro k' call' hk' hne
        rcases hget k' call' hk' with ⟨-, rfl⟩ | ⟨-, hk'⟩
        · exact absurd rfl hne
        · rw [List.length_set]
          exact h.running k' call' hk' hne
      · intro k' hk'
        rw [List.length_set]
        rcases hget k' _ hk' with ⟨rfl, -⟩ | ⟨-, hk'⟩
        · exact h.returned k' (hcall ▸ hk)
        · exact h.returned k' hk'
      · rw [List.length_set]
        exact h.order
    · obtain ⟨hlast, hbusy⟩ := h.running k call hk hcall
      refine ⟨?_, ?_, ?_⟩
      · intro k' call' hk' hne
        rw [List.length_set]
        rcases hget k' call' hk' with ⟨rfl, -⟩ | ⟨-, hk'⟩
        · exact ⟨hlast, hbusy⟩
        · exact h.running k' call' hk' hne
      · intro k' hk'
        rw [List.length_set, kafkaResults_append]
        rcases hget k' _ hk' with ⟨rfl, he⟩ | ⟨-, hk'⟩
        · rcases hend he.symm with hno | hres | hno
          · exact absurd hno hcall
          · exact .inl (List.append_ne_nil_of_right_ne_nil _ hres)
          · exact absurd hno ha
        · exact (h.returned k' hk').imp_left fun hres =>
            List.append_ne_nil_of_left_ne_nil hres _
      · have horder := h.order
        rw [List.length_set, ← hlast]
        rw [← hlast] at horder
        exact order_within horder hnotes
  · rw [List.append_nil]
    exact h

theorem Consecutive.abort (h : Consecutive busy dropped os s) :
    Consecutive false true (os ++ (s.step (.call (s.calls.length - 1) .abort)).2)
      (s.step (.call (s.calls.length - 1) .abort)).1 := by
  simp only [step]
  split
  · rename_i call hk
    have hlt := (List.getElem?_eq_some_iff.1 hk).1
    have habort : advance s.name s.config.topic (s.calls.length - 1) call .abort =
        (.ended, []) := by cases call <;> rfl
    rw [habort, List.append_nil]
    have hget : ∀ (k' : Nat) (call' : KafkaCall),
        (s.calls.set (s.calls.length - 1) .ended)[k']? = some call' →
        k' = s.calls.length - 1 ∨ s.calls[k']? = some call' := by
      intro k' call' hk'
      by_cases hne : k' = s.calls.length - 1
      · exact .inl hne
      · rw [List.getElem?_set_ne (Ne.symm hne)] at hk'
        exact .inr hk'
    refine ⟨?_, ?_, ?_⟩
    · intro k' call' hk' hne
      rcases hget k' call' hk' with rfl | hk''
      · rw [List.getElem?_set_self hlt] at hk'
        exact absurd (Option.some.inj hk').symm hne
      · have hlast := (h.running k' call' hk'' hne).1
        obtain rfl : k' = s.calls.length - 1 := by omega
        rw [List.getElem?_set_self hlt] at hk'
        exact absurd (Option.some.inj hk').symm hne
    · intro k' hk'
      rw [List.length_set]
      rcases hget k' _ hk' with rfl | hk'
      · exact .inr ⟨by omega, rfl⟩
      · exact (h.returned k' hk').imp_right fun hr => ⟨hr.1, rfl⟩
    · rw [List.length_set]
      exact h.order
  · rename_i hnone
    rw [List.append_nil]
    have hempty : s.calls.length = 0 := by
      rw [List.getElem?_eq_none_iff] at hnone
      omega
    have hno : ∀ (k : Nat) (call : KafkaCall), s.calls[k]? ≠ some call := by
      intro k call hk
      have hlt := (List.getElem?_eq_some_iff.1 hk).1
      omega
    exact ⟨fun k call hk => absurd hk (hno k call), fun k hk => absurd hk (hno k _), h.order⟩

theorem Consecutive.join (h : Consecutive busy dropped os s) (a : CallAction) (ha : a ≠ .abort)
    (hres : kafkaResults (s.calls.length - 1) (s.step (.call (s.calls.length - 1) a)).2 ≠ []) :
    Consecutive false dropped (os ++ (s.step (.call (s.calls.length - 1) a)).2)
      (s.step (.call (s.calls.length - 1) a)).1 := by
  refine (h.call (s.calls.length - 1) a ha).idle ?_
  have hrun := (h.call (s.calls.length - 1) a ha).running
  intro k call hk
  by_contra hne
  have hlast := (hrun k call hk hne).1
  simp only [step] at hk hres hlast
  split at hk
  · rename_i call' hk'
    simp only [hk', List.length_set] at hres hlast hk
    obtain rfl : k = s.calls.length - 1 := by omega
    rw [List.getElem?_set_self (List.getElem?_eq_some_iff.1 hk').1] at hk
    rw [(advance_ended s.name s.config.topic _ call' a).2.1 hres] at hk
    exact hne (Option.some.inj hk).symm
  · rename_i hnone
    simp only [hnone] at hres
    exact hres rfl

end KafkaConnector

end Canal
