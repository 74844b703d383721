import Canal.DispatchOrder

namespace Canal
set_option autoImplicit true

namespace SinkSystem

variable {s t : SinkSystem} {os os' : List SinkNote} {result : Events}
  {i j : Nat}

section Drop

variable (lib : Crates) (d : Bool) (store : MemoryEventStore) (filter : EventFilter)
  (connectors : Nat)

/-- There is no worker that could still dispatch. -/
def WorkerGone (s : SinkSystem) : Prop := s.worker = none ∨ s.worker = some .ended

/-- Every batch that a call stored and answered for was passed to every connector. -/
def Delivered (connectors : Nat) (os : List SinkNote) : Prop :=
  ∀ r ∈ appends os, (∃ result, .returned r.call result ∈ os) →
    ∀ c, c < connectors → r ∈ dispatches c os

/-- A dropped sink on which no call runs. -/
def Closed (s : SinkSystem) : Prop :=
  s.dropped = true ∧ ∀ stage ∈ s.calls, stage.isEnded = true

theorem Closed.turn (h : s.Closed) (ht : Turn s t os') :
    t.Closed ∧ appends os' = [] ∧ ∀ i result, SinkNote.returned i result ∉ os' := by
  have hlive : ∀ {i : Nat} {stage : SinkStage},
      s.calls[i]? = some stage → stage.isEnded = false → False := by
    intro i stage hi hl
    rw [h.2 stage (List.mem_of_getElem? hi)] at hl
    cases hl
  cases ht with
  | idle => exact ⟨h, rfl, fun _ _ => List.not_mem_nil⟩
  | called events hd =>
    rw [h.1] at hd
    cases hd
  | filtered hi | empty hi | panicked hi | appended hi | storedOnly hi
  | ensured hi | sent hi | refused hi => exact (hlive hi rfl).elim
  | received | passed => exact ⟨h, rfl, by simp⟩
  | finished | closed | cancelled => exact ⟨h, rfl, fun _ _ => List.not_mem_nil⟩
  | dropped hall => exact ⟨⟨rfl, h.2⟩, rfl, fun _ _ => List.not_mem_nil⟩

theorem Closed.run (h : s.Closed) (later : List SinkAction) :
    appends (Run.outputs (step lib d) s later) = [] ∧
      ∀ i result, SinkNote.returned i result ∉ Run.outputs (step lib d) s later := by
  apply And.right
  apply Run.history_invariant (step lib d) s (I := fun _ os t => t.Closed ∧ appends os = [] ∧
    ∀ i result, SinkNote.returned i result ∉ os)
  · exact ⟨h, rfl, fun _ _ => List.not_mem_nil⟩
  · rintro _ os t a ⟨hc, ha, hr⟩
    obtain ⟨hc', ha', hr'⟩ := hc.turn (t.step_turn lib d a)
    refine ⟨hc', ?_, ?_⟩
    · rw [appends_append, ha, ha']
      rfl
    · intro i result hm
      rcases List.mem_append.1 hm with hm | hm
      · exact hr i result hm
      · exact hr' i result hm

theorem Working.delivered (h : Working os s) (hb : Booked os s) (hlive : s.dropped = false)
    (hq : s.queue = []) (hk : ∀ r k, s.worker = some (.dispatching r k) → k + 1 = s.connectors) :
    Delivered s.connectors os := by
  rintro r hr ⟨result, hres⟩ c hc
  have hu : s.unsent r.call = none := unsent_of_stage (hb.returned_stage _ _ hres)
  have hen := h.sent_all (by omega) r hr hu
  have hw := h.worker_at
  have hend := h.ended_dropped
  generalize s.worker = w at hw hk hend
  cases hw with
  | absent he =>
    rw [he] at hen
    cases hen
  | receiving hn he hd =>
    rw [hd c hc]
    rwa [he, hq, List.append_nil] at hen
  | dispatching hlt he hd =>
    have hlast := hk _ _ rfl
    rw [hd c hc, if_pos (by omega)]
    rwa [he, hq] at hen
  | ended =>
    rw [hlive] at hend
    cases hend rfl

theorem Working.nothing_left (h : Working os s) (hb : Booked os s)
    (hlive : s.dropped = false) (hdel : Delivered s.connectors os) :
    s.queue = [] ∧ ∀ r k, s.worker = some (.dispatching r k) → k + 1 = s.connectors := by
  have hw := h.worker_at
  have hend := h.ended_dropped
  have hnd := hb.enqueued_nodup
  have hgot : ∀ r ∈ enqueues os, ∀ c, c < s.connectors → r ∈ dispatches c os := by
    intro r hr
    obtain ⟨hm, hres⟩ := hb.enqueued_returned r hr
    exact hdel r hm hres
  generalize s.worker = w at hw hend
  cases hw with
  | absent he hq hd =>
    refine ⟨hq, ?_⟩
    intro r k hw
    cases hw
  | receiving hn he hd =>
    constructor
    · rw [List.eq_nil_iff_forall_not_mem]
      intro r hr
      have hmem := hgot r (by rw [he]; exact List.mem_append_right _ hr) 0 hn
      rw [hd 0 hn] at hmem
      rw [he, List.nodup_append] at hnd
      exact hnd.2.2 r hmem r hr rfl
    · intro r k hw
      cases hw
  | dispatching hlt he hd =>
    rename_i k done r
    rw [he, List.append_cons, List.nodup_append] at hnd
    constructor
    · rw [List.eq_nil_iff_forall_not_mem]
      intro r' hr
      have hmem := hgot r' (by rw [he, List.append_cons]; exact List.mem_append_right _ hr) 0
        (by omega)
      rw [hd 0 (by omega), if_pos (Nat.zero_le _)] at hmem
      exact hnd.2.2 r' hmem r' hr rfl
    · rintro r' k' hw
      cases hw
      by_contra hne
      have hk : k + 1 < s.connectors := by omega
      have hmem := hgot r (by rw [he]; simp) (k + 1) hk
      rw [hd (k + 1) hk, if_neg (by omega)] at hmem
      exact (List.nodup_append.1 hnd.1).2.2 r hmem r (List.mem_singleton_self _) rfl
  | ended =>
    rw [hlive] at hend
    cases hend rfl

theorem Working.all_delivered_iff (h : Working os s) (hb : Booked os s)
    (hn : s.connectors = n) (hlive : s.dropped = false)
    (hidle : ∀ stage ∈ s.calls, stage.isEnded = true) :
    (∀ later, WorkerGone (Run.final (step lib d) { s with dropped := true } later) →
      Delivered n (os ++ Run.outputs (step lib d) { s with dropped := true } later)) ↔
    s.queue = [] ∧ ∀ r k, s.worker = some (.dispatching r k) → k + 1 = n := by
  subst hn
  constructor
  · intro hall
    apply h.nothing_left hb hlive
    by_cases hnone : s.worker = none
    · have hdel := hall [] (.inl hnone)
      rwa [Run.outputs, List.append_nil] at hdel
    · obtain ⟨w, hs⟩ := Option.ne_none_iff_exists'.1 hnone
      have hcancel : ({ s with dropped := true } : SinkSystem).step lib d .cancel =
          ({ s with dropped := true, worker := some .ended, queue := [] }, []) := by
        simp only [step, hs]
      have hdel := hall [.cancel] (by
        rw [Run.final, hcancel]
        exact .inr rfl)
      rwa [Run.outputs, hcancel, Run.outputs, List.append_nil, List.append_nil] at hdel
  · rintro ⟨hq, hk⟩ later -
    have hclosed : ({ s with dropped := true } : SinkSystem).Closed := ⟨rfl, hidle⟩
    obtain ⟨hap, hret⟩ := hclosed.run lib d later
    have hdel := h.delivered hb hlive hq hk
    rintro r hr ⟨result, hres⟩ c hc
    rw [appends_append, hap, List.append_nil] at hr
    rw [List.mem_append, or_iff_left (hret _ _)] at hres
    rw [dispatches_append]
    exact List.mem_append_left _ (hdel r hr ⟨result, hres⟩ c hc)

/-- A sink may be dropped without a loss, whatever its worker still does, if and only if no batch
waits in the channel and the worker is inside no connector but the last. -/
theorem drop_delivers_iff (actions : List SinkAction)
    (hlive : (Run.final (step lib d) (.new store filter connectors) actions).dropped = false)
    (hidle : ∀ stage ∈ (Run.final (step lib d) (.new store filter connectors) actions).calls,
      stage.isEnded = true) :
    let s := Run.final (step lib d) (.new store filter connectors) actions
    (∀ later, WorkerGone
        (Run.final (step lib d) (.new store filter connectors) (actions ++ .drop :: later)) →
      Delivered connectors
        (Run.outputs (step lib d) (.new store filter connectors) (actions ++ .drop :: later))) ↔
    s.queue = [] ∧ ∀ r k, s.worker = some (.dispatching r k) → k + 1 = connectors := by
  intro s
  obtain ⟨hb, hw⟩ := run_invariants lib d store filter connectors actions
  have hn := run_connectors lib d store filter connectors actions
  have hiff := hw.all_delivered_iff lib d hb hn hlive hidle
  have hdrop : (Run.final (step lib d) (.new store filter connectors) actions).step lib d .drop =
      ({ s with dropped := true }, []) := by
    simp only [step]
    rw [if_pos (List.all_eq_true.2 hidle)]
  simp only [Run.final_append, Run.outputs_append, Run.final, Run.outputs, hdrop, List.nil_append]
  exact hiff

end Drop

/-- The calls have returned and the worker has not looked into its channel. -/
def unreadCall : List SinkAction :=
  [.call [storedEvent 100], .advance 0, .advance 0, .advance 0, .advance 0]

theorem dropped_batch_lost :
    let run := unreadCall ++ [.stop, .drop, .cancel]
    let s := Run.final (step .literal true)
      (.new (.new 8) { includeRe := ".*\\..*", exclude := none } 1) run
    let shown := Run.outputs (step .literal true)
      (.new (.new 8) { includeRe := ".*\\..*", exclude := none } 1) run
    s.worker = some .ended ∧ SinkNote.returned 0 (.new 0) ∈ shown ∧
      appends shown = [⟨0, [storedEvent 100]⟩] ∧ dispatches 0 shown = [] := by
  decide

theorem drop_delivers_iff_read :
    let run := unreadCall ++ [.receive]
    let s := Run.final (step .literal true)
      (.new (.new 8) { includeRe := ".*\\..*", exclude := none } 1) run
    (∀ later, WorkerGone (Run.final (step .literal true)
        (.new (.new 8) { includeRe := ".*\\..*", exclude := none } 1) (run ++ .drop :: later)) →
      Delivered 1 (Run.outputs (step .literal true)
        (.new (.new 8) { includeRe := ".*\\..*", exclude := none } 1) (run ++ .drop :: later))) ↔
    s.queue = [] ∧ ∀ r k, s.worker = some (.dispatching r k) → k + 1 = 1 :=
  drop_delivers_iff .literal true (.new 8) { includeRe := ".*\\..*", exclude := none } 1
    (unreadCall ++ [.receive]) (by decide) (by decide)

end SinkSystem

end Canal
