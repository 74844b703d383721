import Canal.DispatchBooks

namespace Canal
set_option autoImplicit true

namespace SinkSystem

variable {s t : SinkSystem} {os os' : List SinkNote} {result : Events}
  {i j : Nat}

/-- The worker against the channel and what the connectors were passed: it has finished with `done`
and holds at most one more batch. -/
inductive WorkerAt (n : Nat) (os : List SinkNote) (queue : List DispatchRequest) :
    Option DispatchWorker → Prop
  | absent (he : enqueues os = []) (hq : queue = []) (hd : ∀ c, dispatches c os = []) :
      WorkerAt n os queue none
  | receiving (hn : 0 < n) (he : enqueues os = done ++ queue)
      (hd : ∀ c, c < n → dispatches c os = done) : WorkerAt n os queue (some .receiving)
  | dispatching (hk : k < n) (he : enqueues os = done ++ r :: queue)
      (hd : ∀ c, c < n → dispatches c os = if c ≤ k then done ++ [r] else done) :
      WorkerAt n os queue (some (.dispatching r k))
  | ended (hd : ∀ c, c < n → dispatches c os <+: enqueues os) :
      WorkerAt n os queue (some .ended)

theorem WorkerAt.dispatches_prefix (h : WorkerAt n os q w) (hc : c < n) :
    dispatches c os <+: enqueues os := by
  cases h with
  | absent he hq hd =>
    rw [hd c]
    exact List.nil_prefix
  | receiving hn he hd =>
    rw [hd c hc, he]
    exact List.prefix_append ..
  | dispatching hk he hd =>
    rw [hd c hc, he]
    split
    · exact ⟨q, by rw [List.append_assoc]; rfl⟩
    · exact List.prefix_append ..
  | ended hd => exact hd c hc

theorem WorkerAt.frame (h : WorkerAt n os q w) (he : enqueues os' = [])
    (hd : ∀ c, dispatches c os' = []) : WorkerAt n (os ++ os') q w := by
  have hen : enqueues (os ++ os') = enqueues os := by
    rw [enqueues_append, he, List.append_nil]
  have hdi : ∀ c, dispatches c (os ++ os') = dispatches c os := by
    intro c
    rw [dispatches_append, hd, List.append_nil]
  cases h with
  | absent he' hq hd' => exact .absent (hen.trans he') hq fun c => (hdi c).trans (hd' c)
  | receiving hn he' hd' =>
    exact .receiving hn (hen.trans he') fun c hc => (hdi c).trans (hd' c hc)
  | dispatching hk he' hd' =>
    exact .dispatching hk (hen.trans he') fun c hc => (hdi c).trans (hd' c hc)
  | ended hd' =>
    apply WorkerAt.ended
    intro c hc
    rw [hen, hdi]
    exact hd' c hc

theorem WorkerAt.enqueue (h : WorkerAt n os q (some w)) (hne : w ≠ .ended)
    (he : enqueues os' = [r]) (hd : ∀ c, dispatches c os' = []) :
    WorkerAt n (os ++ os') (q ++ [r]) (some w) := by
  have hen : enqueues (os ++ os') = enqueues os ++ [r] := by rw [enqueues_append, he]
  have hdi : ∀ c, dispatches c (os ++ os') = dispatches c os := by
    intro c
    rw [dispatches_append, hd, List.append_nil]
  cases h with
  | receiving hn he' hd' =>
    apply WorkerAt.receiving hn
    · rw [hen, he', List.append_assoc]
    · exact fun c hc => (hdi c).trans (hd' c hc)
  | dispatching hk he' hd' =>
    apply WorkerAt.dispatching hk
    · rw [hen, he', List.append_assoc, List.cons_append]
    · exact fun c hc => (hdi c).trans (hd' c hc)
  | ended => exact absurd rfl hne

theorem dispatches_one (r : DispatchRequest) (c k : Nat) :
    dispatches c [.dispatch k r] = if k = c then [r] else [] := by
  simp only [dispatches, List.filterMap_cons, List.filterMap_nil]
  split <;> simp_all

theorem WorkerAt.receive (h : WorkerAt n os (r :: q) (some .receiving)) :
    WorkerAt n (os ++ [.dispatch 0 r]) q (some (.dispatching r 0)) := by
  cases h with
  | receiving hn he hd =>
    apply WorkerAt.dispatching hn
    · rw [enqueues_append, he]
      exact List.append_nil _
    · intro c hc
      rw [dispatches_append, hd c hc, dispatches_one]
      by_cases h0 : 0 = c
      · rw [if_pos h0, if_pos (by omega)]
      · rw [if_neg h0, if_neg (by omega), List.append_nil]

theorem WorkerAt.pass (h : WorkerAt n os q (some (.dispatching r k))) (hk : k + 1 < n) :
    WorkerAt n (os ++ [.dispatch (k + 1) r]) q (some (.dispatching r (k + 1))) := by
  cases h with
  | dispatching hk' he hd =>
    apply WorkerAt.dispatching hk
    · rw [enqueues_append, he]
      exact List.append_nil _
    · intro c hc
      rw [dispatches_append, hd c hc, dispatches_one]
      by_cases hck : k + 1 = c
      · rw [if_neg (by omega), if_pos hck, if_pos (by omega)]
      · rw [if_neg hck, List.append_nil]
        by_cases hle : c ≤ k
        · rw [if_pos hle, if_pos (by omega)]
        · rw [if_neg hle, if_neg (by omega)]

theorem WorkerAt.finish (h : WorkerAt n os q (some (.dispatching r k))) (hk : n ≤ k + 1) :
    WorkerAt n os q (some .receiving) := by
  cases h with
  | dispatching hk' he hd =>
    apply WorkerAt.receiving (by omega)
    · rw [he, List.append_cons]
    · intro c hc
      rw [hd c hc, if_pos (by omega)]

/-- The worker, and the sink it belongs to. -/
structure Working (os : List SinkNote) (s : SinkSystem) : Prop where
  worker_at : WorkerAt s.connectors os s.queue s.worker
  dropped_idle : s.dropped = true → ∀ stage ∈ s.calls, stage.isEnded = true
  ended_dropped : s.worker = some .ended → s.dropped = true
  sending_worker : ∀ (i : Nat) (events : List CanalEvent) (batchId : Int64),
    s.calls[i]? = some (SinkStage.sending events batchId) → s.worker ≠ none
  sent_all : 0 < s.connectors → ∀ r ∈ appends os, s.unsent r.call = none → r ∈ enqueues os

theorem Working.can_send (h : Working os s)
    (hi : s.calls[i]? = some (SinkStage.sending events batchId)) :
    ¬ (s.worker = none ∨ s.worker = some .ended) := by
  rintro (hw | hw)
  · exact h.sending_worker i events batchId hi hw
  · have hall := h.dropped_idle (h.ended_dropped hw) _ (List.mem_of_getElem? hi)
    cases hall

theorem Turn.unsent (ht : Turn s t os') (h : Working os s) (hn : 0 < s.connectors)
    (hu : s.unsent i = some events) :
    t.unsent i = some events ∨ ⟨i, events⟩ ∈ enqueues os' := by
  have hset : ∀ {j before after}, s.calls[j]? = some before → t.calls = s.calls.set j after →
      (j = i → before.unsent = some events → after.unsent = some events ∨
        ⟨i, events⟩ ∈ enqueues os') →
      t.unsent i = some events ∨ ⟨i, events⟩ ∈ enqueues os' := by
    intro j before after hj hc hgoal
    have ht : t.unsent i = if j = i then after.unsent else s.unsent i := by
      rw [SinkSystem.unsent, hc, unsent_set hj]
      rfl
    by_cases hji : j = i
    · rw [ht, if_pos hji]
      apply hgoal hji
      rw [← hu, ← hji]
      exact (unsent_of_stage hj).symm
    · rw [ht, if_neg hji]
      exact .inl hu
  cases ht with
  | idle | received | passed | finished | closed | dropped | cancelled => exact .inl hu
  | called new hd =>
    left
    obtain ⟨stage, hst, hev⟩ := Option.bind_eq_some_iff.1 hu
    have hlt : i < s.calls.length := (List.getElem?_eq_some_iff.1 hst).1
    simp only [SinkSystem.unsent, List.getElem?_append_left hlt, hst, Option.bind_some]
    exact hev
  | filtered hj | empty hj | panicked hj | appended hj =>
    apply hset hj rfl
    intro _ hev
    cases hev
  | storedOnly hj hzero => omega
  | ensured hj => exact hset hj rfl fun _ hev => .inl hev
  | sent hj hw hne =>
    apply hset hj rfl
    rintro rfl hev
    cases hev
    exact .inr (List.mem_singleton_self _)
  | refused hj hw => exact absurd hw (h.can_send hj)

theorem Turn.appended_unsent (ht : Turn s t os') (hr : r ∈ appends os') :
    t.unsent r.call = some r.events := by
  cases ht with
  | appended hi store batchId =>
    rw [List.mem_singleton.1 hr, SinkSystem.unsent, unsent_set hi, if_pos rfl]
    rfl
  | _ => cases hr

theorem Turn.connectors (ht : Turn s t os') : t.connectors = s.connectors := by
  cases ht <;> rfl

theorem Working.live (h : Working os s) (hi : s.calls[i]? = some stage)
    (hl : stage.isEnded = false) : s.dropped = false := by
  apply Bool.eq_false_iff.2
  intro hd
  rw [h.dropped_idle hd stage (List.mem_of_getElem? hi)] at hl
  cases hl

theorem sending_of_set {calls : List SinkStage}
    (hs : (calls.set i after)[j]? = some (SinkStage.sending events batchId))
    (ha : ∀ events batchId, after ≠ .sending events batchId) :
    calls[j]? = some (SinkStage.sending events batchId) := by
  rw [List.getElem?_set] at hs
  by_cases hij : i = j
  · rw [if_pos hij] at hs
    split at hs
    · exact absurd (Option.some.inj hs) (ha _ _)
    · cases hs
  · rwa [if_neg hij] at hs

theorem Working.worker_turn (h : Working os s) (ht : Turn s t os') :
    WorkerAt t.connectors (os ++ os') t.queue t.worker := by
  have hw := h.worker_at
  cases ht with
  | idle | called | filtered | empty | panicked | appended | storedOnly | refused | dropped =>
    exact hw.frame rfl fun _ => rfl
  | ensured hi hn =>
    cases hs : s.worker with
    | some w =>
      rw [hs] at hw
      exact hw.frame rfl fun _ => rfl
    | none =>
      rw [hs] at hw
      cases hw with
      | absent he hq hd =>
        have hempty : enqueues os = [] ++ s.queue := he.trans hq.symm
        rw [List.append_nil]
        exact .receiving hn hempty fun c _ => hd c
  | sent hi hs hne =>
    simp only [hs] at hw ⊢
    exact hw.enqueue hne rfl fun _ => rfl
  | received hs hq =>
    rw [hs, hq] at hw
    exact hw.receive
  | passed hs hc =>
    rw [hs] at hw
    exact hw.pass hc
  | finished hs hc =>
    rw [hs] at hw
    rw [List.append_nil]
    exact hw.finish hc
  | closed | cancelled =>
    rw [List.append_nil]
    exact .ended fun c hc => hw.dispatches_prefix hc

theorem Working.sent_turn (h : Working os s) (hb : Booked os s) (ht : Turn s t os')
    (hn : 0 < t.connectors) (hr : r ∈ appends (os ++ os')) (hnone : t.unsent r.call = none) :
    r ∈ enqueues (os ++ os') := by
  rw [ht.connectors] at hn
  rw [appends_append] at hr
  rw [enqueues_append]
  rcases List.mem_append.1 hr with hr | hr
  · cases hu : s.unsent r.call with
    | none => exact List.mem_append_left _ (h.sent_all hn r hr hu)
    | some events =>
      have hev : s.unsent r.call = some r.events := by
        rcases hb.unsent_or_returned r hr with hw | ⟨result, hres⟩
        · exact hw
        · rw [unsent_of_stage (hb.returned_stage _ _ hres)] at hu
          cases hu
      rcases ht.unsent h hn hev with hst | hen
      · rw [hst] at hnone
        cases hnone
      · exact List.mem_append_right _ hen
  · rw [ht.appended_unsent hr] at hnone
    cases hnone

theorem Working.turn (h : Working os s) (hb : Booked os s) (ht : Turn s t os') :
    Working (os ++ os') t where
  worker_at := h.worker_turn ht
  dropped_idle := by
    cases ht with
    | idle | received | passed | finished | closed | cancelled => exact h.dropped_idle
    | called events hd =>
      intro hd'
      rw [hd] at hd'
      cases hd'
    | filtered hi | empty hi | panicked hi | appended hi | storedOnly hi
    | ensured hi | sent hi | refused hi =>
      intro hd
      rw [h.live hi rfl] at hd
      cases hd
    | dropped hall => exact fun _ => hall
  ended_dropped := by
    cases ht with
    | idle | called | filtered | empty | panicked | appended | storedOnly | sent | refused =>
      exact h.ended_dropped
    | ensured hi hn =>
      cases hs : s.worker with
      | none =>
        intro he
        cases he
      | some w =>
        intro he
        exact h.ended_dropped (hs.trans he)
    | received | passed | finished =>
      intro he
      cases he
    | closed hs hq hd => exact fun _ => hd
    | dropped => exact fun _ => rfl
    | cancelled hd => exact fun _ => hd
  sending_worker := by
    intro j events batchId hj
    cases ht with
    | idle | dropped => exact h.sending_worker j events batchId hj
    | called new hd =>
      apply h.sending_worker j events batchId
      rw [List.getElem?_append] at hj
      split at hj
      · exact hj
      · generalize j - s.calls.length = k at hj
        cases k <;> cases hj
    | filtered | empty | panicked | appended | storedOnly | sent | refused =>
      exact h.sending_worker j events batchId (sending_of_set hj fun _ _ he => by cases he)
    | ensured | received | passed | finished | closed | cancelled => exact Option.some_ne_none _
  sent_all := by
    intro hn r hr hnone
    exact h.sent_turn hb ht hn hr hnone

end SinkSystem

end Canal
