import Canal.Feed

namespace Canal
set_option autoImplicit true

open KeyedLog

/-- The store and the `get_batch` calls that run on it. -/
structure Readers where
  store : MemoryEventStore
  debugAssertions : Bool
  calls : Nat → Option GetBatch

/-- A step of one party. A put is one step, since it holds the buffer lock to its end, and so is a
check; the `Notified` of a call is created outside the lock. -/
inductive ReaderStep
  | putBatch (events : List CanalEvent)
  | getBatch (i : Nat) (start : LogPosition) (batchSize : Nat)
  | arm (i : Nat)
  | check (i : Nat)
  | wake (i : Nat)
  | timeout (i : Nat)

namespace Readers

def new (capacity : Nat) (debugAssertions : Bool) : Readers :=
  { store := .new capacity, debugAssertions, calls := fun _ => none }

def setCall (s : Readers) (i : Nat) (call : Option GetBatch) : Readers :=
  { s with calls := Function.update s.calls i call }

/-- One step, with the events that a call returns. -/
def step (s : Readers) (a : ReaderStep) : Readers × List (Nat × Events) :=
  match a with
  | .putBatch events =>
    let o := s.store.putBatch s.debugAssertions events
    let calls := if o.notified then fun i => (s.calls i).map GetBatch.notify else s.calls
    ({ s with store := o.store, calls }, [])
  | .getBatch i start batchSize =>
    match s.calls i with
    | none => (s.setCall i (some { start, batchSize }), [])
    | some _ => (s, [])
  | .arm i =>
    match s.calls i with
    | some call =>
      match call.stage with
      | .loopHead => (s.setCall i (some { call with stage := .armed false }), [])
      | _ => (s, [])
    | none => (s, [])
  | .check i =>
    match s.calls i with
    | some call =>
      match call.stage with
      | .armed notified =>
        match s.store.lockedRead call.start call.batchSize with
        | (store, some events) => ({ s with store }.setCall i none, [(i, events)])
        | (store, none) =>
          ({ s with store }.setCall i (some { call with stage := .waiting notified }), [])
      | _ => (s, [])
    | none => (s, [])
  | .wake i =>
    match s.calls i with
    | some call =>
      match call.stage with
      | .waiting true => (s.setCall i (some { call with stage := .loopHead }), [])
      | _ => (s, [])
    | none => (s, [])
  | .timeout i =>
    match s.calls i with
    | some call =>
      match call.stage with
      | .waiting _ => (s.setCall i none, [(i, .new 0)])
      | _ => (s, [])
    | none => (s, [])

/-- Where a call with a positional cursor looks at the buffer, no event at or before the cursor
stands behind one that is past it. -/
def Searches (s : Readers) : ReaderStep → Prop
  | .check i => ∀ call, s.calls i = some call → call.start.timestamp = none →
      call.start.Divides s.store.buffer
  | _ => True

/-- Call `i` waits, no put has completed its `Notified`, and the buffer holds an event for it. -/
def Stuck (s : Readers) (i : Nat) : Prop :=
  ∃ call, s.calls i = some call ∧ call.stage = .waiting false ∧
    ∃ e ∈ s.store.buffer, call.start.selects e = true

end Readers

namespace MemoryEventStore

theorem putBatch_unnotified (s : MemoryEventStore)
    (h : (s.putBatch d events).notified = false) :
    (s.putBatch d events).store.buffer <:+ s.buffer := by
  unfold putBatch at h ⊢
  split
  · exact List.suffix_refl _
  simp only at h ⊢
  split
  · split
    · exact List.drop_suffix ..
    · -- the put that appends has notified
      simp_all
  · exact List.drop_suffix ..

/-- A read that comes back empty has found no event for its cursor, if the search could find one. -/
theorem lockedRead_none {s : MemoryEventStore}
    (hd : start.timestamp = none → start.Divides s.buffer)
    (h : (s.lockedRead start n).2 = none) : ∀ e ∈ s.buffer, start.selects e = false := by
  rw [lockedRead_eq] at h
  split at h
  · rename_i hr
    rw [LogPosition.readable_divided hd, suffixFrom, List.dropWhile_eq_nil_iff] at hr
    intro e he
    exact Bool.not_eq_true' _ ▸ hr e he
  · cases h

end MemoryEventStore

theorem GetBatch.notify_stage (g : GetBatch) : g.notify.stage ≠ .waiting false := by
  unfold notify
  cases g.stage <;> simp

namespace Readers

variable {s : Readers}

/-- A call that a step has put at another place than an unnotified wait is not stuck, and neither
is one that the step has left alone. -/
theorem not_stuck_setCall (h : ∀ j, ¬ s.Stuck j)
    (hc : ∀ g, call = some g → g.stage = .waiting false →
      ∀ e ∈ s.store.buffer, g.start.selects e = false) :
    ∀ j, ¬ (s.setCall i call).Stuck j := by
  rintro j ⟨g, hg, hst, e, he, hsel⟩
  simp only [setCall] at hg he
  by_cases hj : j = i
  · subst hj
    rw [Function.update_self] at hg
    rw [hc g hg hst e he] at hsel
    cases hsel
  · rw [Function.update_of_ne hj] at hg
    exact h j ⟨g, hg, hst, e, he, hsel⟩

theorem not_stuck_put (h : ∀ j, ¬ s.Stuck j) (events : List CanalEvent) :
    ∀ j, ¬ (s.step (.putBatch events)).1.Stuck j := by
  rintro j ⟨g, hg, hst, e, he, hsel⟩
  simp only [step] at hg he
  cases hn : (s.store.putBatch s.debugAssertions events).notified with
  | true =>
    -- whoever waited has been notified by this put
    rw [hn, if_pos rfl, Option.map_eq_some_iff] at hg
    obtain ⟨g', -, rfl⟩ := hg
    exact g'.notify_stage hst
  | false =>
    rw [hn, if_neg (by decide)] at hg
    exact h j ⟨g, hg, hst, e, (s.store.putBatch_unnotified hn).subset he, hsel⟩

theorem not_stuck_check (h : ∀ j, ¬ s.Stuck j) (hs : s.Searches (.check i)) :
    ∀ j, ¬ (s.step (.check i)).1.Stuck j := by
  cases hi : s.calls i with
  | none =>
    simp only [step, hi]
    exact h
  | some call =>
    cases hst : call.stage with
    | loopHead | waiting =>
      simp only [step, hi, hst]
      exact h
    | armed notified =>
      have hbuf := s.store.lockedRead_buffer call.start call.batchSize
      have hnone := @MemoryEventStore.lockedRead_none call.start call.batchSize s.store
        (hs call hi)
      simp only [step, hi, hst]
      cases hr : s.store.lockedRead call.start call.batchSize with
      | mk store read =>
        rw [hr] at hbuf hnone
        have hbuf : store.buffer = s.store.buffer := hbuf
        have hs : ∀ j, ¬ { s with store }.Stuck j := by
          intro j
          simp only [Stuck, hbuf]
          exact h j
        cases read with
        | some events => exact not_stuck_setCall hs nofun
        | none =>
          apply not_stuck_setCall hs
          rintro _ ⟨⟩ -
          intro e he
          exact hnone rfl e (hbuf ▸ he)

theorem step_not_stuck (h : ∀ j, ¬ s.Stuck j) (hs : s.Searches a) :
    ∀ j, ¬ (s.step a).1.Stuck j := by
  cases a with
  | putBatch events => exact not_stuck_put h events
  | check i => exact not_stuck_check h hs
  | getBatch i start batchSize =>
    cases hi : s.calls i with
    | none =>
      simp only [step, hi]
      apply not_stuck_setCall h
      rintro _ ⟨⟩ hst
      cases hst
    | some call =>
      simp only [step, hi]
      exact h
  | arm i =>
    cases hi : s.calls i with
    | none =>
      simp only [step, hi]
      exact h
    | some call =>
      simp only [step, hi]
      split
      · apply not_stuck_setCall h
        rintro _ ⟨⟩ hst
        cases hst
      · exact h
  | wake i =>
    cases hi : s.calls i with
    | none =>
      simp only [step, hi]
      exact h
    | some call =>
      simp only [step, hi]
      split
      · apply not_stuck_setCall h
        rintro _ ⟨⟩ hst
        cases hst
      · exact h
  | timeout i =>
    cases hi : s.calls i with
    | none =>
      simp only [step, hi]
      exact h
    | some call =>
      simp only [step, hi]
      split
      · exact not_stuck_setCall h nofun
      · exact h

/-- No lost wake-up, as long as the searches find what there is. -/
theorem no_lost_wakeup (cap : Nat) (d : Bool)
    (h : Run.Along step (fun _ s a => s.Searches a) (.new cap d) as) (i : Nat) :
    ¬ (Run.final step (.new cap d) as).Stuck i := by
  have h0 : ∀ j, ¬ (Readers.new cap d).Stuck j := by
    rintro j ⟨g, hg, -⟩
    cases hg
  exact h.invariant (I := fun _ _ t => ∀ j, ¬ t.Stuck j) h0
    (fun _ _ _ _ ht hs => step_not_stuck ht hs) i

/-- The events that a step hands to `put_batch`. -/
def fed : ReaderStep → List CanalEvent
  | .putBatch events => events
  | _ => []

theorem reflects_step (h : Reflects cap history s.store)
    (hm : Ascending CanalEvent.key (history ++ fed a)) :
    Reflects cap (history ++ fed a) (s.step a).1.store := by
  cases a with
  | putBatch events => exact h.putBatch hm s.debugAssertions
  | getBatch i start n =>
    change Reflects cap (history ++ []) _
    rw [List.append_nil]
    simp only [step]
    split <;> exact h
  | arm i | wake i | timeout i =>
    change Reflects cap (history ++ []) _
    rw [List.append_nil]
    simp only [step]
    split
    · split <;> exact h
    · exact h
  | check i =>
    change Reflects cap (history ++ []) _
    rw [List.append_nil]
    simp only [step]
    split
    · rename_i call hi
      split
      · have hr := h.lockedRead call.start call.batchSize
        split
        · rename_i heq
          rw [heq] at hr
          exact hr
        · rename_i heq
          rw [heq] at hr
          exact hr
      · exact h
    · exact h

theorem searches_of_ascending (cap : Nat) (d : Bool) (as : List ReaderStep)
    (hm : Ascending CanalEvent.key (as.flatMap fed)) :
    Run.Along step (fun _ s a => s.Searches a) (.new cap d) as := by
  have hreflects : ∀ bs : List ReaderStep, Ascending CanalEvent.key (bs.flatMap fed) →
      Reflects cap (bs.flatMap fed) (Run.final step (.new cap d) bs).store := by
    intro bs
    induction bs using List.reverseRecOn with
    | nil => exact fun _ => .init cap
    | append_singleton bs b ih =>
      intro hb
      rw [List.flatMap_append, List.flatMap_singleton] at hb ⊢
      rw [Run.final_concat]
      exact reflects_step (ih hb.left) hb
  rintro pre a post rfl
  cases a with
  | check i =>
    intro call _ hpos
    rw [List.flatMap_append] at hm
    exact LogPosition.divides_of_ascending hpos
      ((hreflects pre hm.left).buffer_ascending hm.left)
  | putBatch | getBatch | arm | wake | timeout => exact trivial

/-- A reader that waits when the event comes. -/
def wokenReader : List ReaderStep :=
  [.putBatch [storedEvent 100], .getBatch 0 (.new "mysql-bin.000001" 100) 10, .arm 0, .check 0,
    .getBatch 1 (.new "mysql-bin.000001" 4) 10, .arm 1, .putBatch [storedEvent 200], .wake 0,
    .arm 0]

theorem no_lost_wakeup_woken : ¬ (Run.final step (.new 8 true) wokenReader).Stuck 0 :=
  no_lost_wakeup 8 true
    (searches_of_ascending 8 true wokenReader (by unfold Ascending wokenReader; decide)) 0

/-- One batch out of order is accepted, and a reader waits beside the event it asks for. -/
theorem unordered_reader_stuck :
    (MemoryEventStore.putBatch true (.new 8)
      [storedEvent 120, storedEvent 200, storedEvent 100, storedEvent 110]).result = .ok 0 ∧
    (Run.final step (.new 8 true)
      [.putBatch [storedEvent 120, storedEvent 200, storedEvent 100, storedEvent 110],
        .getBatch 0 (.new "mysql-bin.000001" 120) 10, .arm 0, .check 0]).Stuck 0 := by
  refine ⟨by decide, ⟨.new "mysql-bin.000001" 120, 10, .waiting false⟩, by rfl, rfl,
    storedEvent 200, by decide, by decide⟩

end Readers

namespace Server

/-- The call a connection is in. -/
def calling : Phase → Option GetBatch
  | .get _ call => some call
  | _ => none

def readers (s : Server) : Readers :=
  { store := s.store, debugAssertions := s.debugAssertions,
    calls := fun c => calling (s.conns c).phase }

theorem readers_setConn (s : Server) (c : Nat) (conn : Connection) :
    (s.setConn c conn).readers = s.readers.setCall c (calling conn.phase) := by
  simp only [readers, setConn, Readers.setCall, Readers.mk.injEq, true_and]
  funext i
  by_cases hi : i = c
  · subst hi
    rw [Function.update_self, Function.update_self]
  · rw [Function.update_of_ne hi, Function.update_of_ne hi]

theorem readers_setCall_self (s : Server) (c : Nat) (hp : calling (s.conns c).phase = call) :
    s.readers.setCall c call = s.readers := by
  subst hp
  simp only [Readers.setCall, readers, Readers.mk.injEq, true_and]
  exact Function.update_eq_self ..

theorem readers_settle (s : Server) (c : Nat) (o : Outcome) :
    (s.settle c o).1.readers = s.readers.setCall c none := by
  unfold settle
  cases o.result <;> exact readers_setConn ..

theorem readers_leave (s : Server) (c : Nat) :
    (s.leave c).1.readers = s.readers.setCall c none := by
  unfold leave
  simp only
  split <;> exact readers_setConn s c _

theorem readers_receive (s : Server) (hp : (s.conns c).phase = .frame) (frame : Frame)
    (tx : Option CanalError) : (s.receive lib c frame tx).1.readers = s.readers ∨
      ∃ start n, (s.receive lib c frame tx).1.readers =
        (s.readers.step (.getBatch c start n)).1 := by
  have hcall : calling (s.conns c).phase = none := by rw [hp]; rfl
  have hnone : s.readers.setCall c none = s.readers := s.readers_setCall_self c hcall
  cases frame with
  | endOfStream => exact .inl ((readers_leave s c).trans hnone)
  | idleTimeout => exact .inl ((readers_leave s c).trans hnone)
  | transportError e => exact .inl ((readers_setConn s c _).trans hnone)
  | keepalive => exact .inl rfl
  | undecodable message => exact .inl ((readers_setConn s c _).trans hnone)
  | packet p =>
    simp only [receive]
    cases hh : handlePacket lib tx s.authToken (s.conns c).state s.sessions s.store p with
    | done o => exact .inl ((readers_settle s c o).trans hnone)
    | getBatch st cid call =>
      obtain ⟨get, -, -, -, -, -, rfl⟩ := handlePacket_getBatch hh
      refine .inr ⟨getStart (s.conns c).state s.sessions cid, get.batchSize, ?_⟩
      have hcalls : s.readers.calls c = none := hcall
      simp only [Readers.step, hcalls]
      exact readers_setConn ..

theorem readers_call {s : Server} (hp : (s.conns c).phase = .get cid call) :
    s.readers.calls c = some call := by
  simp only [readers, hp]
  rfl

theorem readers_check {s : Server} (hp : (s.conns c).phase = .get cid call)
    (hst : call.stage = .armed notified) :
    (s.check c cid call notified).1.readers = (s.readers.step (.check c)).1 := by
  unfold check
  simp only [Readers.step, readers_call hp, hst]
  split
  · rename_i store events hr
    have hr : s.readers.store.lockedRead call.start call.batchSize = (store, some events) := hr
    rw [hr]
    exact readers_setConn ..
  · rename_i store hr
    have hr : s.readers.store.lockedRead call.start call.batchSize = (store, none) := hr
    rw [hr]
    exact readers_setConn ..

theorem calling_notify (conn : Connection) :
    calling conn.notify.phase = (calling conn.phase).map GetBatch.notify := by
  cases conn with
  | mk state phase => cases phase <;> rfl

theorem readers_put (s : Server) (events : List CanalEvent) :
    (s.step lib (.putBatch events)).1.readers = (s.readers.step (.putBatch events)).1 := by
  cases hn : (s.store.putBatch s.debugAssertions events).notified with
  | true =>
    simp only [step, readers, Readers.step, hn, ↓reduceIte, Readers.mk.injEq, true_and]
    funext c
    exact calling_notify _
  | false =>
    simp only [step, readers, Readers.step, hn]
    rfl

theorem step_readers (lib : Crates) (s : Server) (a : Action) :
    (s.step lib a).1.readers = s.readers ∨
      ∃ b, (s.step lib a).1.readers = (s.readers.step b).1 := by
  cases a with
  | putBatch events => exact .inr ⟨_, s.readers_put events⟩
  | receive c frame tx =>
    cases hp : (s.conns c).phase with
    | frame =>
      simp only [step, hp]
      rcases s.readers_receive hp frame tx with h | ⟨start, n, h⟩
      · exact .inl h
      · exact .inr ⟨_, h⟩
    | get | answer | closed => exact .inl (by simp only [step, hp])
  | arm c =>
    cases hp : (s.conns c).phase with
    | get cid call =>
      cases hst : call.stage with
      | loopHead =>
        refine .inr ⟨.arm c, ?_⟩
        simp only [step, hp, hst, Readers.step, readers_call hp]
        exact readers_setConn ..
      | armed | waiting => exact .inl (by simp only [step, hp, hst])
    | frame | answer | closed => exact .inl (by simp only [step, hp])
  | check c =>
    cases hp : (s.conns c).phase with
    | get cid call =>
      cases hst : call.stage with
      | armed notified =>
        simp only [step, hp, hst]
        exact .inr ⟨_, readers_check hp hst⟩
      | loopHead | waiting => exact .inl (by simp only [step, hp, hst])
    | frame | answer | closed => exact .inl (by simp only [step, hp])
  | wake c =>
    cases hp : (s.conns c).phase with
    | get cid call =>
      cases hst : call.stage with
      | waiting notified =>
        cases notified with
        | true =>
          refine .inr ⟨.wake c, ?_⟩
          simp only [step, hp, hst, Readers.step, readers_call hp]
          exact readers_setConn ..
        | false => exact .inl (by simp only [step, hp, hst])
      | loopHead | armed => exact .inl (by simp only [step, hp, hst])
    | frame | answer | closed => exact .inl (by simp only [step, hp])
  | timeout c =>
    cases hp : (s.conns c).phase with
    | get cid call =>
      cases hst : call.stage with
      | waiting notified =>
        refine .inr ⟨.timeout c, ?_⟩
        simp only [step, hp, hst, Readers.step, readers_call hp]
        exact readers_setConn ..
      | loopHead | armed => exact .inl (by simp only [step, hp, hst])
    | frame | answer | closed => exact .inl (by simp only [step, hp])
  | answer c tx =>
    left
    cases hp : (s.conns c).phase with
    | answer cid events =>
      rw [step_answer lib tx hp]
      exact (readers_settle ..).trans (s.readers_setCall_self c (by rw [hp]; rfl))
    | frame | get | closed => simp only [step, hp]

/-- Where the events are fed in order, no connection waits for one that is in the buffer. -/
theorem none_stuck (lib : Crates) (cap : Nat) (authToken : Option String) (d : Bool)
    (hm : Ascending CanalEvent.key (fedBy as)) (c : Nat) :
    ¬ (Run.final (step lib) (.new cap authToken d) as).readers.Stuck c := by
  have h0 : ∀ j, ¬ (Server.new cap authToken d).readers.Stuck j := by
    rintro j ⟨g, hg, -⟩
    cases hg
  induction as using List.reverseRecOn generalizing c with
  | nil => exact h0 c
  | append_singleton as a ih =>
    rw [fedBy_concat] at hm
    rw [Run.final_concat]
    rcases step_readers lib (Run.final (step lib) (.new cap authToken d) as) a with h | ⟨b, h⟩
    · rw [h]
      exact ih hm.left c
    · rw [h]
      apply Readers.step_not_stuck (ih hm.left)
      cases b with
      | check i =>
        intro call _ hpos
        exact LogPosition.divides_of_ascending hpos
          ((Server.reflects lib cap authToken d hm.left).buffer_ascending hm.left)
      | putBatch | getBatch | arm | wake | timeout => exact trivial

end Server

end Canal
