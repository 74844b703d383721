import Canal.Cursor
import Canal.StoreRuns

namespace Canal
set_option autoImplicit true

open KeyedLog

/-- The events that an action hands to `put_batch`. -/
def Action.fed : Action → List CanalEvent
  | .putBatch events => events
  | _ => []

/-- The feed along a run. -/
def fedBy (as : List Action) : List CanalEvent := as.flatMap Action.fed

@[simp] theorem fedBy_nil : fedBy [] = [] := rfl

@[simp] theorem fedBy_append (as bs : List Action) : fedBy (as ++ bs) = fedBy as ++ fedBy bs :=
  List.flatMap_append ..

@[simp] theorem fedBy_cons (a : Action) (as : List Action) :
    fedBy (a :: as) = a.fed ++ fedBy as := rfl

@[simp] theorem fedBy_concat (as : List Action) (a : Action) :
    fedBy (as ++ [a]) = fedBy as ++ a.fed := by
  rw [fedBy_append, fedBy_cons, fedBy_nil, List.append_nil]

theorem fedBy_isPrefix (h : as <+: bs) : fedBy as <+: fedBy bs := by
  obtain ⟨cs, rfl⟩ := h
  rw [fedBy_append]
  exact List.prefix_append ..

theorem Action.eq_putBatch {a : Action} (h : a.actor = none) : ∃ events, a = .putBatch events := by
  cases a with
  | putBatch events => exact ⟨events, rfl⟩
  | _ => cases h

theorem Action.fed_of_actor {a : Action} (h : a.actor = some c) : a.fed = [] := by
  cases a with
  | putBatch => cases h
  | _ => rfl

theorem Turn.store_reads (ht : Turn lib s c a conn ss store es) :
    store = s.store ∨ ∃ start n, store = (s.store.lockedRead start n).1 := by
  cases ht with
  | served hg hr => exact .inr ⟨_, _, by rw [hr]⟩
  | _ => exact .inl rfl

theorem Turn.store_eq {s : Server} (h : Turn lib s c a conn ss store es) :
    ∃ seq, store = { s.store with batchIdSeq := seq } := by
  cases h with
  | served hp hr =>
    rw [s.store.lockedRead_eq] at hr
    split at hr
    · cases hr
    · exact ⟨_, (congrArg Prod.fst hr).symm⟩
  | _ => exact ⟨_, rfl⟩

theorem Turn.batch_read {s : Server} (h : Turn lib s c a conn ss store es)
    (hp : conn.phase = .answer cid events) :
    (s.conns c).phase = .answer cid events ∨ ∀ e ∈ events.events, e ∈ s.store.buffer := by
  cases h with
  | idle => exact .inl hp
  | served hg hr =>
    cases hp
    rw [s.store.lockedRead_eq] at hr
    split at hr
    · cases hr
    · cases hr
      right
      intro e he
      exact (LogPosition.readable_suffix ..).subset
        ((KeyedLog.page_isPrefix ..).subset he)
  | timedOut =>
    cases hp
    exact .inr fun e he => (List.not_mem_nil he).elim
  | stage | acked | rolledBack | awaiting | left => cases hp
  | quiet hf hw hq | refused hf hw hq | authenticated hf hauth hpw hfilter hq
  | subscribed hf hauth hid hfilter hq | answered hg hq => exact absurd hp (Phase.ne_answer hq)

/-- Every event the server has, in its store or in a batch that is on its way out, is one of
`Q`. -/
structure Server.Carries (Q : CanalEvent → Prop) (s : Server) : Prop where
  buffer : ∀ e ∈ s.store.buffer, Q e
  batch : ∀ c cid events, (s.conns c).phase = .answer cid events → ∀ e ∈ events.events, Q e

theorem Server.Carries.new (cap : Nat) (authToken : Option String) (d : Bool) :
    (Server.new cap authToken d).Carries Q where
  buffer e he := (List.not_mem_nil he).elim
  batch c cid events hp := by cases hp

theorem Server.Carries.mono {s : Server} (h : s.Carries P) (hPQ : ∀ e, P e → Q e) :
    s.Carries Q where
  buffer e he := hPQ e (h.buffer e he)
  batch c cid events hp e he := hPQ e (h.batch c cid events hp e he)

theorem Server.Carries.step {s : Server} (h : s.Carries Q)
    (ha : ∀ e ∈ a.fed, Q e) (lib : Crates) :
    (s.step lib a).1.Carries Q := by
  constructor
  · intro e he
    rcases s.step_cases lib a with ⟨events, rfl, hs⟩ | ⟨c, -, conn, ss, store, es, ht, hs⟩
    · rw [hs] at he
      rcases s.store.mem_putBatch he with he | he
      · exact h.buffer e he
      · exact ha e he
    · obtain ⟨seq, hseq⟩ := ht.store_eq
      rw [hs] at he
      rw [hseq] at he
      exact h.buffer e he
  · intro c cid events hp
    by_cases hact : a.actor = some c
    · rcases s.step_conn lib a c with ⟨hno, -⟩ | ⟨-, ht⟩
      · exact absurd hact hno
      rcases ht.batch_read hp with hold | hread
      · exact h.batch c cid events hold
      · exact fun e he => h.buffer e (hread e he)
    · exact h.batch c cid events ((step_other_answer hact lib s).1 hp)

theorem Reflects.step {s : Server} (h : Reflects cap history s.store)
    (hm : Ascending CanalEvent.key (history ++ a.fed)) (lib : Crates) :
    Reflects cap (history ++ a.fed) (s.step lib a).1.store := by
  rcases s.step_cases lib a with ⟨events, rfl, he⟩ | ⟨c, hc, conn, ss, store, es, ht, he⟩
  · rw [he]
    exact h.putBatch hm s.debugAssertions
  · rw [he, Action.fed_of_actor hc, List.append_nil]
    rcases ht.store_reads with hs | ⟨start, n, hs⟩
    · rw [show store = _ from hs]
      exact h
    · rw [show store = _ from hs]
      exact h.lockedRead start n

theorem Reflects.run {s : Server} (h : Reflects cap history s.store)
    (lib : Crates) (as : List Action) (hm : Ascending CanalEvent.key (history ++ fedBy as)) :
    Reflects cap (history ++ fedBy as) (Run.final (Server.step lib) s as).store := by
  induction as using List.reverseRecOn with
  | nil =>
    rw [fedBy_nil, List.append_nil]
    exact h
  | append_singleton as a ih =>
    rw [fedBy_concat, ← List.append_assoc] at hm ⊢
    rw [Run.final_concat]
    exact (ih hm.left).step hm lib

theorem Reflects.buffer_ascending (h : Reflects cap history s)
    (hm : Ascending CanalEvent.key history) : Ascending CanalEvent.key s.buffer := by
  rw [h.buffer]
  exact hm.sublist (List.drop_sublist ..)

theorem Server.reflects (lib : Crates) (cap : Nat) (authToken : Option String) (d : Bool)
    (hm : Ascending CanalEvent.key (fedBy as)) :
    Reflects cap (fedBy as) (Run.final (step lib) (.new cap authToken d) as).store :=
  Reflects.run (s := .new cap authToken d) (Reflects.init cap) lib as hm

theorem Reflects.read_eq {start : LogPosition} {s : MemoryEventStore} (h : Reflects cap history s)
    (hm : Ascending CanalEvent.key history) (hpos : start.timestamp = none)
    (hkeep : ∀ e ∈ dropped cap history, e.key ≤ start.key) :
    start.readable s.buffer = after CanalEvent.key start.key history := by
  rw [LogPosition.readable_positional hpos, h.buffer]
  · exact after_retain hkeep
  · exact h.buffer_ascending hm

end Canal
