import Canal.Lib.Run
import Canal.Wakeup

namespace Canal
set_option autoImplicit true

open KeyedLog

/-- `GET_BATCH_TIMEOUT_MS`. -/
def getBatchTimeoutMs : Nat := 5000

/-- A put beside the call: the milliseconds since the put before it, or since the call began, what
it puts, and whether `select!` takes its notification when the timer is due at the same time. -/
structure TimedPut where
  delay : Nat
  events : List CanalEvent
  first : Bool := true

/-- Where the call stands: at its `select!`, a number of milliseconds after it began and after it
made the timer, or at its end. -/
inductive Poll
  | waiting (store : MemoryEventStore) (waited timer : Nat)
  | returned (store : MemoryEventStore) (events : Events) (waited : Nat)

namespace Poll

/-- A turn of the loop up to its `select!`, which makes the timer. -/
def loopTurn (start : LogPosition) (batchSize : Nat) (store : MemoryEventStore) (waited : Nat) :
    Poll :=
  match store.lockedRead start batchSize with
  | (store, some events) => .returned store events waited
  | (store, none) => .waiting store waited 0

/-- What comes next: a put, if there is one and it comes in time, or the timer. -/
def step (debugAssertions : Bool) (start : LogPosition) (batchSize : Nat) (s : Poll)
    (next : Option TimedPut) : Poll :=
  match s, next with
  | .returned store events waited, _ => .returned store events waited
  | .waiting store waited timer, none =>
    .returned store (.new 0) (waited + (getBatchTimeoutMs - timer))
  | .waiting store waited timer, some put =>
    let elapsed := timer + put.delay
    if elapsed < getBatchTimeoutMs || elapsed == getBatchTimeoutMs && put.first then
      let o := store.putBatch debugAssertions put.events
      -- a put that notifies nobody leaves the timer running
      if o.notified then loopTurn start batchSize o.store (waited + put.delay)
      else .waiting o.store (waited + put.delay) elapsed
    else .returned store (.new 0) (waited + (getBatchTimeoutMs - timer))

/-- The call after `k` of the puts have come, or the timer before one of them. -/
def run (debugAssertions : Bool) (start : LogPosition) (batchSize : Nat)
    (store : MemoryEventStore) (puts : Nat → Option TimedPut) : Nat → Poll
  | 0 => loopTurn start batchSize store 0
  | k + 1 => (run debugAssertions start batchSize store puts k).step debugAssertions start batchSize
      (puts k)

end Poll

/-- The notification of the put reaches a wait that has just begun before its timer does. -/
def TimedPut.InTime (put : TimedPut) : Prop :=
  put.delay < getBatchTimeoutMs ∨ put.delay = getBatchTimeoutMs ∧ put.first = true

/-- The store after the first `k` puts. -/
def storeAfter (debugAssertions : Bool) (store : MemoryEventStore)
    (puts : Nat → Option TimedPut) : Nat → MemoryEventStore
  | 0 => store
  | k + 1 =>
    let store := storeAfter debugAssertions store puts k
    (puts k).elim store fun put => (store.putBatch debugAssertions put.events).store

/-- The time from the beginning of the call to the `k`-th put. -/
def elapsed (puts : Nat → Option TimedPut) : Nat → Nat
  | 0 => 0
  | k + 1 => elapsed puts k + (puts k).elim 0 TimedPut.delay

/-- Nothing in the store, and nothing that the puts bring, is for the cursor, and each of the puts
wakes the call. -/
structure IdleWakeups (debugAssertions : Bool) (start : LogPosition) (store : MemoryEventStore)
    (puts : Nat → Option TimedPut) : Prop where
  buffered : ∀ e ∈ store.buffer, start.selects e = false
  brought : ∀ k put, puts k = some put → ∀ e ∈ put.events, start.selects e = false
  wakes : ∀ k put, puts k = some put →
    ((storeAfter debugAssertions store puts k).putBatch debugAssertions put.events).notified = true

theorem Poll.loopTurn_idle (h : ∀ e ∈ store.buffer, start.selects e = false) (n waited : Nat) :
    loopTurn start n store waited = .waiting store waited 0 := by
  rw [loopTurn, MemoryEventStore.lockedRead_eq, if_pos (LogPosition.readable_eq_nil h)]

variable {d : Bool} {start : LogPosition} {store : MemoryEventStore}
  {puts : Nat → Option TimedPut}

theorem IdleWakeups.storeAfter (h : IdleWakeups d start store puts) (k : Nat) :
    ∀ e ∈ (storeAfter d store puts k).buffer, start.selects e = false := by
  induction k with
  | zero => exact h.buffered
  | succ k ih =>
    intro e he
    rw [Canal.storeAfter] at he
    cases hp : puts k with
    | none =>
      rw [hp] at he
      exact ih e he
    | some put =>
      rw [hp] at he
      rcases MemoryEventStore.mem_putBatch _ he with he | he
      · exact ih e he
      · exact h.brought k put hp e he

theorem IdleWakeups.step_inTime (h : IdleWakeups d start store puts) (hp : puts k = some put)
    (ht : put.InTime) (n : Nat) :
    (Poll.waiting (Canal.storeAfter d store puts k) waited 0).step d start n (puts k) =
      .waiting (Canal.storeAfter d store puts (k + 1)) (waited + put.delay) 0 := by
  have hnext := h.storeAfter (k + 1)
  rw [Canal.storeAfter, hp, Option.elim_some] at hnext ⊢
  have htime : (0 + put.delay < getBatchTimeoutMs ||
      0 + put.delay == getBatchTimeoutMs && put.first) = true := by
    rw [Nat.zero_add, Bool.or_eq_true, decide_eq_true_iff, Bool.and_eq_true, beq_iff_eq]
    exact ht
  rw [Poll.step, if_pos htime, if_pos (h.wakes k put hp)]
  exact Poll.loopTurn_idle hnext n _

/-- A put that comes too late, and no put at all, leave it to the timer to end the wait. -/
theorem step_late (ht : ∀ put, next = some put → ¬ put.InTime) (n : Nat) :
    (Poll.waiting store waited 0).step d start n next =
      .returned store (.new 0) (waited + getBatchTimeoutMs) := by
  cases next with
  | none => rfl
  | some put =>
    have htime : (0 + put.delay < getBatchTimeoutMs ||
        0 + put.delay == getBatchTimeoutMs && put.first) ≠ true := by
      rw [Nat.zero_add, Ne, Bool.or_eq_true, decide_eq_true_iff, Bool.and_eq_true, beq_iff_eq]
      exact ht put rfl
    rw [Poll.step, if_neg htime, Nat.sub_zero]

theorem IdleWakeups.run_waiting (h : IdleWakeups d start store puts) (n : Nat)
    (ht : ∀ j, j < k → ∃ put, puts j = some put ∧ put.InTime) :
    Poll.run d start n store puts k =
      .waiting (Canal.storeAfter d store puts k) (elapsed puts k) 0 := by
  induction k with
  | zero => exact Poll.loopTurn_idle h.buffered n 0
  | succ k ih =>
    obtain ⟨put, hp, hin⟩ := ht k (Nat.lt_succ_self k)
    rw [Poll.run, ih fun j hj => ht j (Nat.lt_succ_of_lt hj), h.step_inTime hp hin, elapsed, hp]
    rfl

theorem Poll.run_returned (h : run d start n store puts k = .returned t events waited)
    (hk : k ≤ m) : run d start n store puts m = .returned t events waited := by
  induction m, hk using Nat.le_induction with
  | base => exact h
  | succ m _ ih =>
    rw [run, ih]
    rfl

theorem IdleWakeups.run_timeout (h : IdleWakeups d start store puts) (n : Nat)
    (ht : ∀ j, j < k → ∃ put, puts j = some put ∧ put.InTime)
    (hlate : ∀ put, puts k = some put → ¬ put.InTime) :
    Poll.run d start n store puts (k + 1) =
      .returned (Canal.storeAfter d store puts k) (.new 0)
        (elapsed puts k + getBatchTimeoutMs) := by
  rw [Poll.run, h.run_waiting n ht, step_late hlate]

theorem IdleWakeups.exists_timeout (h : IdleWakeups d start store puts)
    (hr : Poll.run d start n store puts m = .returned t events waited) :
    ∃ k, (∀ j, j < k → ∃ put, puts j = some put ∧ put.InTime) ∧
      ∀ put, puts k = some put → ¬ put.InTime := by
  by_contra hne
  have hall : ∀ k, ∀ j, j < k → ∃ put, puts j = some put ∧ put.InTime := by
    intro k
    induction k with
    | zero =>
      intro j hj
      omega
    | succ k ih =>
      intro j hj
      rcases Nat.lt_succ_iff_lt_or_eq.mp hj with hj | hj
      · exact ih j hj
      · subst hj
        by_contra hn
        exact hne ⟨j, ih, fun put hp hin => hn ⟨put, hp, hin⟩⟩
  rw [h.run_waiting n (hall m)] at hr
  cases hr

theorem le_elapsed (hp : puts j = some put) (hj : j < k) : put.delay ≤ elapsed puts k := by
  induction k with
  | zero => omega
  | succ k ih =>
    rw [elapsed]
    rcases Nat.lt_succ_iff_lt_or_eq.mp hj with hj | hj
    · have := ih hj
      omega
    · subst hj
      rw [hp]
      exact Nat.le_add_left _ _

theorem elapsed_eq_zero (h : ∀ j, j < k → ∃ put, puts j = some put ∧ put.delay = 0) :
    elapsed puts k = 0 := by
  induction k with
  | zero => rfl
  | succ k ih =>
    obtain ⟨put, hp, hd⟩ := h k (Nat.lt_succ_self k)
    rw [elapsed, ih fun j hj => h j (Nat.lt_succ_of_lt hj), hp, Option.elim_some, hd]

/-- An idle call returns the empty batch and has waited no longer than the timeout if and only if
no put wakes it after a delay: those before the first wait that lasts to its timer all come at
once. -/
theorem idle_poll_bounded_iff (h : IdleWakeups d start store puts) (n : Nat) :
    (∃ k t waited, Poll.run d start n store puts k = .returned t (.new 0) waited ∧
      waited ≤ getBatchTimeoutMs) ↔
    ∃ k, (∀ j, j < k → ∃ put, puts j = some put ∧ put.delay = 0) ∧
      ∀ put, puts k = some put → ¬ put.InTime := by
  constructor
  · intro ⟨m, t, waited, hr, hw⟩
    obtain ⟨k, hin, hlate⟩ := h.exists_timeout hr
    refine ⟨k, ?_, hlate⟩
    have hend := h.run_timeout n hin hlate
    have hsame : waited = elapsed puts k + getBatchTimeoutMs := by
      rcases Nat.le_total m (k + 1) with hm | hm
      · have := (Poll.run_returned hr hm).symm.trans hend
        injection this
      · have := hr.symm.trans (Poll.run_returned hend hm)
        injection this
    intro j hj
    obtain ⟨put, hp, _⟩ := hin j hj
    have := le_elapsed hp hj
    exact ⟨put, hp, by omega⟩
  · intro ⟨k, hz, hlate⟩
    have hin : ∀ j, j < k → ∃ put, puts j = some put ∧ put.InTime := by
      intro j hj
      obtain ⟨put, hp, hd⟩ := hz j hj
      exact ⟨put, hp, .inl (by rw [hd]; decide)⟩
    refine ⟨k + 1, _, _, h.run_timeout n hin hlate, ?_⟩
    rw [elapsed_eq_zero hz, Nat.zero_add]

theorem MemoryEventStore.putBatch_release {s : MemoryEventStore} (hc : 0 < s.capacity)
    (he : events ≠ []) :
    (s.putBatch false events).notified = true ∧
      (s.putBatch false events).store.capacity = s.capacity := by
  have hkept : events.drop (s.skipCount events.length) ≠ [] := by
    have hl : 0 < events.length := List.length_pos_iff.mpr he
    rw [Ne, List.drop_eq_nil_iff, skipCount_eq]
    omega
  obtain ⟨first, hf⟩ := Option.ne_none_iff_exists'.mp (mt List.head?_eq_none_iff.mp hkept)
  obtain ⟨last, hl⟩ := Option.ne_none_iff_exists'.mp (mt List.getLast?_eq_none_iff.mp hkept)
  have hev : events.isEmpty = false := by simpa using he
  simp only [putBatch, hev, hf, hl, Bool.false_and, Bool.false_eq_true, if_false, and_self]

theorem IdleWakeups.of_release (hc : 0 < store.capacity)
    (hb : ∀ e ∈ store.buffer, start.selects e = false)
    (hp : ∀ k put, puts k = some put →
      put.events ≠ [] ∧ ∀ e ∈ put.events, start.selects e = false) :
    IdleWakeups false start store puts := by
  have hcap : ∀ k, 0 < (Canal.storeAfter false store puts k).capacity := by
    intro k
    induction k with
    | zero => exact hc
    | succ k ih =>
      rw [Canal.storeAfter]
      cases hk : puts k with
      | none => exact ih
      | some put =>
        rw [Option.elim_some, (MemoryEventStore.putBatch_release ih (hp k put hk).1).2]
        exact ih
  exact { buffered := hb
          brought := fun k put hk => (hp k put hk).2
          wakes := fun k put hk =>
            (MemoryEventStore.putBatch_release (hcap k) (hp k put hk).1).1 }

/-- Puts behind the cursor every four seconds keep the call from returning at all. -/
theorem idle_poll_endless :
    let start := LogPosition.new "mysql-bin.000002" 4
    let puts : Nat → Option TimedPut := fun _ => some { delay := 4000, events := [storedEvent 4] }
    IdleWakeups false start (.new 8) puts ∧
      ¬ ∃ k t events waited,
        Poll.run false start 10 (.new 8) puts k = .returned t events waited := by
  intro start puts
  have h : IdleWakeups false start (.new 8) puts := by
    apply IdleWakeups.of_release (by decide) (by decide)
    intro k put hk
    cases hk
    decide
  refine ⟨h, ?_⟩
  intro ⟨k, t, events, waited, hr⟩
  have hwait := h.run_waiting (k := k) 10 fun j _ => ⟨_, rfl, .inl (by decide)⟩
  rw [hwait] at hr
  cases hr

/-- One such put at the very beginning costs no time. -/
theorem idle_poll_bounded_once :
    let start := LogPosition.new "mysql-bin.000002" 4
    let puts : Nat → Option TimedPut := fun k =>
      if k = 0 then some { delay := 0, events := [storedEvent 4] } else none
    ∃ k t waited, Poll.run false start 10 (.new 8) puts k = .returned t (.new 0) waited ∧
      waited ≤ getBatchTimeoutMs := by
  intro start puts
  have h : IdleWakeups false start (.new 8) puts := by
    apply IdleWakeups.of_release (by decide) (by decide)
    intro k put hk
    simp only [puts] at hk
    split at hk
    · cases hk
      decide
    · cases hk
  apply (idle_poll_bounded_iff h 10).mpr
  refine ⟨1, ?_, ?_⟩
  · intro j hj
    have hj : j = 0 := by omega
    subst hj
    exact ⟨_, rfl, rfl⟩
  · intro put hp
    cases hp

/-- The call as the only reader of the store. -/
def soleReader (d : Bool) (store : MemoryEventStore) (call : Option GetBatch) : Readers :=
  { store, debugAssertions := d, calls := Function.update (fun _ => none) 0 call }

theorem soleReader_setCall :
    (soleReader d store call).setCall 0 call' = soleReader d store call' := by
  rw [Readers.setCall, soleReader, soleReader, Function.update_idem]

theorem soleReader_call : (soleReader d store call).calls 0 = call := by
  simp only [soleReader, Function.update_self]

/-- The call, which waits or is gone, without its clock. -/
def Poll.untimed (d : Bool) (start : LogPosition) (n : Nat) : Poll → Readers
  | .waiting store _ _ =>
    soleReader d store (some { start, batchSize := n, stage := .waiting false })
  | .returned store _ _ => soleReader d store none

/-- What the call returns. -/
def Poll.result : Poll → List (Nat × Events)
  | .waiting .. => []
  | .returned _ events _ => [(0, events)]

/-- The system of readers gets from `s` to where the call is now, and shows what it returns. -/
def Poll.Reached (d : Bool) (start : LogPosition) (n : Nat) (s : Readers) (p : Poll) : Prop :=
  ∃ as, Run.final Readers.step s as = p.untimed d start n ∧
    Run.outputs Readers.step s as = p.result

theorem Poll.Reached.head {p : Poll} {s : Readers} (h : p.Reached d start n (s.step a).1)
    (ha : (s.step a).2 = []) :
    p.Reached d start n s := by
  obtain ⟨as, hf, ho⟩ := h
  refine ⟨a :: as, hf, ?_⟩
  rw [Run.outputs, ha, List.nil_append, ho]

theorem Poll.reached_loopTurn (d : Bool) (start : LogPosition) (n : Nat)
    (store : MemoryEventStore) (waited : Nat) :
    (loopTurn start n store waited).Reached d start n
      (soleReader d store (some { start, batchSize := n })) := by
  have harm : (soleReader d store (some { start, batchSize := n })).step (.arm 0) =
      (soleReader d store (some { start, batchSize := n, stage := .armed false }), []) := by
    rw [Readers.step, soleReader_call]
    simp only [soleReader_setCall]
  apply Reached.head (a := .arm 0)
  · rw [harm]
    have hset : ∀ t call, Readers.setCall { soleReader d store
        (some { start, batchSize := n, stage := .armed false }) with store := t } 0 call =
          soleReader d t call := fun t call => soleReader_setCall
    refine ⟨[.check 0], ?_⟩
    rw [Run.final, Run.outputs, Run.final, Run.outputs, List.append_nil, Readers.step,
      soleReader_call, loopTurn]
    simp only
    rw [show (soleReader d store
      (some { start, batchSize := n, stage := .armed false })).store = store from rfl]
    cases hr : store.lockedRead start n with
    | mk t found =>
      cases found with
      | some events => exact ⟨hset t none, rfl⟩
      | none => exact ⟨hset t _, rfl⟩
  · rw [harm]

theorem soleReader_put (d : Bool) (store : MemoryEventStore) (call : GetBatch)
    (events : List CanalEvent) :
    (soleReader d store (some call)).step (.putBatch events) =
      (soleReader d (store.putBatch d events).store
        (some (if (store.putBatch d events).notified then call.notify else call)), []) := by
  have hnotify : (fun i => ((soleReader d store (some call)).calls i).map GetBatch.notify) =
      Function.update (fun _ => none) 0 (some call.notify) := by
    funext i
    by_cases hi : i = 0
    · subst hi
      rw [soleReader_call, Function.update_self, Option.map_some]
    · simp only [soleReader, Function.update_of_ne hi, Option.map_none]
  rw [Readers.step]
  simp only [hnotify]
  split
  · rename_i hn
    rw [show (store.putBatch d events).notified = true from hn]
    rfl
  · rename_i hn
    rw [if_neg (show ¬ (store.putBatch d events).notified = true from hn)]
    rfl

theorem Poll.reached_timeout (d : Bool) (start : LogPosition) (n : Nat)
    (store : MemoryEventStore) (waited waited' timer : Nat) :
    (returned store (.new 0) waited').Reached d start n
      ((waiting store waited timer).untimed d start n) := by
  refine ⟨[.timeout 0], ?_⟩
  rw [Run.final, Run.outputs, Run.final, Run.outputs, List.append_nil, untimed, Readers.step,
    soleReader_call]
  exact ⟨soleReader_setCall, rfl⟩

theorem Poll.reached_step (d : Bool) (start : LogPosition) (n : Nat) (store : MemoryEventStore)
    (waited timer : Nat) (next : Option TimedPut) :
    ((waiting store waited timer).step d start n next).Reached d start n
      ((waiting store waited timer).untimed d start n) := by
  cases next with
  | none => exact reached_timeout ..
  | some put =>
    rw [step]
    simp only
    split
    · -- the put comes first: it notifies the call, which goes round its loop, or leaves it waiting
      have hput := soleReader_put d store { start, batchSize := n, stage := .waiting false }
        put.events
      apply Reached.head (a := .putBatch put.events)
      · rw [untimed, hput]
        cases hn : (store.putBatch d put.events).notified with
        | false => exact ⟨[], rfl, rfl⟩
        | true =>
          have hwake : ∀ t, (soleReader d t (some (GetBatch.notify
              { start, batchSize := n, stage := .waiting false }))).step (.wake 0) =
                (soleReader d t (some { start, batchSize := n }), []) := by
            intro t
            rw [Readers.step, soleReader_call]
            simp only [GetBatch.notify, soleReader_setCall]
          apply Reached.head (a := .wake 0)
          · rw [if_pos rfl, if_pos rfl, hwake]
            exact reached_loopTurn ..
          · rw [if_pos rfl, hwake]
      · rw [untimed, hput]
    · exact reached_timeout ..

/-- Every state of a timed call is one that the call can be in among the readers of the store. -/
theorem Poll.reached_run (d : Bool) (start : LogPosition) (n : Nat) (store : MemoryEventStore)
    (puts : Nat → Option TimedPut) (k : Nat) :
    (run d start n store puts k).Reached d start n
      (soleReader d store (some { start, batchSize := n })) := by
  induction k with
  | zero => exact reached_loopTurn ..
  | succ k ih =>
    rw [run]
    obtain ⟨as, hf, ho⟩ := ih
    cases hp : run d start n store puts k with
    | returned t events waited =>
      rw [hp] at hf ho
      exact ⟨as, hf, ho⟩
    | waiting t waited timer =>
      rw [hp] at hf ho
      obtain ⟨bs, hf', ho'⟩ := reached_step d start n t waited timer (puts k)
      refine ⟨as ++ bs, ?_, ?_⟩
      · rw [Run.final_append, hf, hf']
      · rw [Run.outputs_append, hf, ho, ho']
        rfl

end Canal
