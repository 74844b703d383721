import Canal.IdlePoll
import Canal.Pipeline

namespace Canal
set_option autoImplicit true

open KeyedLog

namespace FeedLoop

variable {lib : Crates} {d : Bool} {s : FeedLoop}

/-- What has come out of the channel went through the filter of the instance into the store, in its
order. In a `calm` run, in which nobody stops the instance, all of it did. -/
structure Sifted (calm : Prop) (lib : Crates) (f : EventFilter) (cap : Nat)
    (notes : List FeedNote) (s : FeedLoop) : Prop where
  filter : s.inst.filter = f
  order : (stored notes ++ s.batch.filter fun e => f.matches lib e).Sublist
    ((received notes).filter fun e => f.matches lib e)
  running : calm → s.inst.running = true
  reflects : calm → Ascending CanalEvent.key (stored notes) →
    Reflects cap (stored notes) s.inst.store
  split : calm → stored notes ++ (s.batch.filter fun e => f.matches lib e) =
    (received notes).filter fun e => f.matches lib e

theorem feed_inst (lib : Crates) (d : Bool) (inst : CanalInstance) (events : List CanalEvent) :
    (inst.feed lib d events).1.running = inst.running ∧
      (inst.feed lib d events).1.filter = inst.filter := by
  unfold CanalInstance.feed
  split <;> exact ⟨rfl, rfl⟩

theorem flush_inst (lib : Crates) (d : Bool) (s : FeedLoop) :
    (s.flush lib d).1.inst = (s.inst.feed lib d s.batch).1 := by
  unfold flush
  rcases s.inst.feed lib d s.batch with ⟨inst, result, notes⟩
  cases result <;> rfl

namespace Sifted

variable {calm : Prop} {f : EventFilter} {cap : Nat} {notes : List FeedNote}

theorem receive (h : Sifted calm lib f cap notes s) (e : CanalEvent) :
    Sifted calm lib f cap (notes ++ [.received e]) { s with batch := s.batch ++ [e] } := by
  have h1 : received [.received e] = [e] := rfl
  have h2 : stored [.received e] = [] := rfl
  constructor
  · exact h.filter
  · rw [received_append, stored_append, h1, h2, List.append_nil, List.filter_append,
      List.filter_append, ← List.append_assoc]
    exact h.order.append_right _
  · exact h.running
  · rw [stored_append, h2, List.append_nil]
    exact h.reflects
  · intro hcalm
    rw [received_append, stored_append, h1, h2, List.append_nil, List.filter_append,
      List.filter_append, ← List.append_assoc, h.split hcalm]

theorem flush (h : Sifted calm lib f cap notes s) (d : Bool) :
    Sifted calm lib f cap (notes ++ (s.flush lib d).2) (s.flush lib d).1 := by
  cases hr : s.inst.running with
  | false =>
    have hstopped : calm → False := by
      intro hcalm
      rw [h.running hcalm] at hr
      cases hr
    obtain ⟨h1, -, h3, -⟩ := notes_of_refused s.batch
    rw [flush_stopped hr]
    constructor
    · exact h.filter
    · simp only [received_append, stored_append, h1, h3, List.append_nil, List.filter_nil]
      exact (List.sublist_append_left ..).trans h.order
    · exact fun hcalm => (hstopped hcalm).elim
    · exact fun hcalm => (hstopped hcalm).elim
    · exact fun hcalm => (hstopped hcalm).elim
  | true =>
    obtain ⟨hbatch, hstore, hnotes⟩ := @flush_running lib d s hr
    obtain ⟨hrun, hfilter⟩ := feed_inst lib d s.inst s.batch
    obtain ⟨h1, -, h3, -⟩ := notes_of_rejected
      (s.batch.filter fun e => !s.inst.filter.matches lib e)
    obtain ⟨h5, -, h7, -⟩ := notes_of_fed (s.batch.filter fun e => s.inst.filter.matches lib e)
    have hreceived : received (notes ++ (s.flush lib d).2) = received notes := by
      rw [hnotes]
      simp only [received_append, h1, h5, List.append_nil]
    have hstored : stored (notes ++ (s.flush lib d).2) =
        stored notes ++ s.batch.filter fun e => s.inst.filter.matches lib e := by
      rw [hnotes]
      simp only [stored_append, h3, h7, List.nil_append]
    constructor
    · rw [flush_inst, hfilter, h.filter]
    · rw [hbatch, hreceived, hstored, h.filter, List.filter_nil, List.append_nil]
      exact h.order
    · intro _
      rw [flush_inst, hrun, hr]
    · intro hcalm
      rw [hstore, hstored]
      exact fun hm => (h.reflects hcalm hm.left).putBatch hm d
    · rw [hbatch, hreceived, hstored, h.filter, List.filter_nil, List.append_nil]
      exact h.split

theorem stop (h : Sifted calm lib f cap notes s) :
    Sifted calm lib f cap notes { s with ended := true } :=
  ⟨h.filter, h.order, h.running, h.reflects, h.split⟩

theorem abort (h : Sifted calm lib f cap notes s) (hcalm : ¬ calm) :
    Sifted calm lib f cap notes { s with batch := [], ended := true } where
  filter := h.filter
  order := by
    rw [List.filter_nil, List.append_nil]
    exact (List.sublist_append_left ..).trans h.order
  running h' := (hcalm h').elim
  reflects h' := (hcalm h').elim
  split h' := (hcalm h').elim

theorem step (h : Sifted calm lib f cap notes s) (d : Bool) (ha : calm → a ≠ .stop) :
    Sifted calm lib f cap (notes ++ (s.step lib d a).2) (s.step lib d a).1 := by
  have hidle : Sifted calm lib f cap (notes ++ []) s := (List.append_nil notes).symm ▸ h
  cases a with
  | start => exact ⟨h.filter, hidle.order, fun _ => rfl, hidle.reflects, hidle.split⟩
  | stop =>
    exact ⟨h.filter, hidle.order, fun hcalm => absurd rfl (ha hcalm), hidle.reflects, hidle.split⟩
  | tick =>
    simp only [FeedLoop.step]
    split
    · exact hidle
    · exact h.flush d
  | recv result =>
    simp only [FeedLoop.step]
    split
    · exact hidle
    rcases result with _ | e | event
    · simp only
      split
      · exact hidle.stop
      · exact (h.flush d).stop
    · exact hidle
    · simp only
      split
      · have h' := (h.receive event).flush d
        rw [List.append_assoc] at h'
        exact h'
      · exact h.receive event

end Sifted

/-- The event that a step takes out of the channel. -/
def takes (s : FeedLoop) : FeedAction → List CanalEvent
  | .recv (some (.ok event)) => if s.ended then [] else [event]
  | _ => []

theorem received_flush (lib : Crates) (d : Bool) (s : FeedLoop) :
    received (s.flush lib d).2 = [] := by
  cases h : s.inst.running with
  | false =>
    rw [flush_stopped h]
    exact (notes_of_refused _).1
  | true =>
    rw [(flush_running h).2.2, received_append, (notes_of_rejected _).1, (notes_of_fed _).1]
    rfl

theorem received_step (lib : Crates) (d : Bool) (s : FeedLoop) (a : FeedAction) :
    received (s.step lib d a).2 = s.takes a := by
  cases a with
  | start | stop => rfl
  | tick =>
    simp only [step]
    split
    · rfl
    · exact received_flush ..
  | recv result =>
    cases he : s.ended with
    | true =>
      simp only [step, he, ↓reduceIte]
      rcases result with _ | _ | event
      · rfl
      · rfl
      · simp only [takes, he, ↓reduceIte]
        rfl
    | false =>
      simp only [step, he, Bool.false_eq_true, ↓reduceIte]
      rcases result with _ | e | event
      · simp only
        split
        · rfl
        · exact received_flush ..
      · rfl
      · simp only [takes, he, Bool.false_eq_true, ↓reduceIte]
        split
        · exact congrArg (event :: ·) (received_flush ..)
        · rfl

theorem takes_ended (h : s.ended = true) (a : FeedAction) : s.takes a = [] := by
  rcases a with (_ | _ | event) | _ | _ | _ <;> simp [takes, h]

theorem step_ended (lib : Crates) (d : Bool) (h : s.ended = true) (a : FeedAction) :
    (s.step lib d a).1.ended = true := by
  cases a with
  | start | stop => exact h
  | tick | recv result => simp only [step, h, Bool.true_or, ↓reduceIte]

/-- In a build without debug assertions a store with room takes whatever it is handed. -/
theorem putBatch_release {store : MemoryEventStore} (hc : 0 < store.capacity)
    (events : List CanalEvent) :
    (store.putBatch false events).store.capacity = store.capacity ∧
      ∃ id, (store.putBatch false events).result = .ok id := by
  by_cases he : events = []
  · subst he
    exact ⟨rfl, 0, rfl⟩
  · obtain ⟨hn, hcap⟩ := MemoryEventStore.putBatch_release hc he
    refine ⟨hcap, ?_⟩
    unfold MemoryEventStore.putBatch at hn ⊢
    split at hn
    · cases hn
    · rename_i hne
      rw [if_neg hne]
      simp only at hn ⊢
      split at hn
      · exact ⟨store.batchIdSeq, rfl⟩
      · cases hn

theorem flush_release (lib : Crates) (hc : 0 < s.inst.store.capacity) :
    (s.flush lib false).1.inst.store.capacity = s.inst.store.capacity ∧
      (s.flush lib false).1.ended = s.ended := by
  unfold flush CanalInstance.feed
  split
  · rename_i heq
    split at heq
    · cases heq
    · simp only [DefaultEventSink.sink] at heq
      split at heq
      · cases heq
      · obtain ⟨-, id, hid⟩ := putBatch_release hc
          (s.batch.filter fun e => s.inst.filter.matches lib e)
        simp only [hid, Except.map] at heq
        cases heq
  · rename_i heq
    split at heq
    · cases heq
      exact ⟨rfl, rfl⟩
    · simp only [DefaultEventSink.sink] at heq
      split at heq
      · cases heq
        exact ⟨rfl, rfl⟩
      · cases heq
        exact ⟨(putBatch_release hc _).1, rfl⟩

theorem step_release (lib : Crates) (hc : 0 < s.inst.store.capacity) (a : FeedAction) :
    (s.step lib false a).1.inst.store.capacity = s.inst.store.capacity ∧
      ((s.step lib false a).1.ended = true → s.ended = true ∨ a = .recv none) := by
  cases a with
  | start | stop => exact ⟨rfl, .inl⟩
  | tick =>
    simp only [step]
    split
    · exact ⟨rfl, .inl⟩
    · obtain ⟨hcap, hend⟩ := flush_release lib hc
      exact ⟨hcap, fun h => .inl (hend ▸ h)⟩
  | recv result =>
    simp only [step]
    split
    · exact ⟨rfl, .inl⟩
    rcases result with _ | e | event
    · simp only
      split
      · exact ⟨rfl, fun _ => .inr trivial⟩
      · exact ⟨(flush_release lib hc).1, fun _ => .inr trivial⟩
    · exact ⟨rfl, .inl⟩
    · simp only
      split
      · obtain ⟨hcap, hend⟩ :=
          flush_release (s := { s with batch := s.batch ++ [event] }) lib hc
        exact ⟨hcap, fun h => .inl (hend ▸ h)⟩
      · exact ⟨rfl, .inl⟩

end FeedLoop

end Canal
