import Canal.FeedTask

namespace Canal
set_option autoImplicit true

open KeyedLog

namespace FeedLoop

variable {lib : Crates} {d : Bool} {s : FeedLoop}

end FeedLoop

theorem EventChannel.blockingSend_item (tx : EventChannel) (item : EventItem) :
    (tx.blockingSend item).2.item = item := by
  unfold blockingSend
  split <;> rfl

theorem EventChannel.sendEach_items (tx : EventChannel) (items : List EventItem) :
    (tx.sendEach items).2.map Offer.item = items := by
  induction items generalizing tx with
  | nil => rfl
  | cons item items ih =>
    simp only [sendEach, List.map_cons, blockingSend_item, ih]

namespace Replication

/-- The loop as it would stand with its channel open. -/
def opened (s : Replication) : Replication := { s with tx := {}, ended := false }

variable {s : Replication}

theorem step_event (floats : FloatText) (he : s.ended = false)
    (h : s.opened.Follows startJournal past) (header : EventHeader) (event : BinlogEvent) :
    (s.step floats (.item header event)).1.opened.Follows startJournal (past ++ [event]) ∧
      ∃ os : List Offer,
        (s.step floats (.item header event)).2 = os.map .offered ++ [.committed header event] ∧
        os.map Offer.item =
          attributedItems floats startJournal (past ++ [event]) header event := by
  have hstep : s.step floats (.item header event) = s.handle floats header event := by
    simp only [step, he, Bool.false_eq_true, if_false]
  have hopen : s.opened.step floats (.item header event) =
      s.opened.handle floats header event := rfl
  have hfollows := (h.step floats header event).1
  rw [hopen, handle_eq] at hfollows
  rw [hstep, handle_eq]
  constructor
  · refine ⟨hfollows.file, hfollows.gtid, hfollows.names, hfollows.columns, rfl, rfl⟩
  · refine ⟨_, rfl, ?_⟩
    have hfile : event.rotateFilename.getD s.currentBinlogFile =
        journalAt startJournal (past ++ [event]) := by
      rw [journalAt_concat, ← h.file]
      rfl
    have hgtid : event.gtidText.or s.currentGtid = gtidAt (past ++ [event]) := by
      rw [gtidAt_concat, ← h.gtid]
      rfl
    rw [EventChannel.sendEach_items, hfile, hgtid]
    exact eventItems_eq floats startJournal header s.converter past h.names h.columns event

theorem step_other (floats : FloatText) (hp : pull.event = none) :
    (s.step floats pull).1.opened = s.opened ∧
      ∃ os : List Offer, (s.step floats pull).2 = os.map .offered ∧
        oks (os.map Offer.item) = [] := by
  unfold step
  split
  · exact ⟨rfl, [], rfl, rfl⟩
  cases pull with
  | done => exact ⟨rfl, [], rfl, rfl⟩
  | panicked message =>
    refine ⟨rfl, [(s.tx.blockingSend _).2], rfl, ?_⟩
    rw [List.map_singleton, EventChannel.blockingSend_item]
    rfl
  | streamError message cancelled =>
    cases cancelled with
    | true => exact ⟨rfl, [], rfl, rfl⟩
    | false =>
      refine ⟨rfl, [(s.tx.blockingSend _).2], rfl, ?_⟩
      rw [List.map_singleton, EventChannel.blockingSend_item]
      rfl
  | item header event cancelled =>
    cases cancelled with
    | true => exact ⟨rfl, [], rfl, rfl⟩
    | false => cases hp

end Replication

namespace Pipeline

section Flow

variable (floats : FloatText) (startJournal : String)

/-- The items of the events taken out of the stream so far. -/
def attributed (events : List (EventHeader × BinlogEvent)) : List EventItem :=
  attributedStream floats startJournal [] events

/-- How far the thread has come with the event at hand: `sent` are the items it is done with. -/
def Sending (os : List PipelineNote) (pending : List ReplicationNote) (sent : List EventItem) :
    Prop :=
  (committedEvents os = pulledEvents os ∧ sent = attributed floats startJournal (pulledEvents os) ∧
    ∃ errors : List Offer, pending = errors.map .offered ∧ oks (errors.map Offer.item) = []) ∨
  ∃ header event, ∃ rest : List Offer,
    pulledEvents os = committedEvents os ++ [(header, event)] ∧
    attributed floats startJournal (pulledEvents os) = sent ++ rest.map Offer.item ∧
    attributed floats startJournal (committedEvents os) <+: sent ∧
    pending = rest.map .offered ++ [.committed header event]

/-- What ties a state of the pipeline to the notes of its run. -/
structure Flowing (calm : Prop) (lib : Crates) (f : EventFilter) (cap : Nat) (d : Bool)
    (os : List PipelineNote) (s : Pipeline) : Prop where
  follows : s.replication.opened.Follows startJournal ((pulledEvents os).map Prod.snd)
  sifted : FeedLoop.Sifted calm lib f cap (feedNotes os) s.feed
  sending : ∃ sent, Sending floats startJournal os s.pending sent ∧
    received (feedNotes os) <+: oks sent ∧
    (s.feed.ended = false → received (feedNotes os) ++ oks s.channel = oks sent)
  capacity : calm → d = false → 0 < cap → s.feed.inst.store.capacity = cap
  lasting : calm → d = false → 0 < cap → s.feed.ended = false

end Flow

variable {floats : FloatText} {startJournal : String} {calm : Prop} {lib : Crates}
  {f : EventFilter} {cap : Nat} {d : Bool} {os : List PipelineNote} {s : Pipeline}

theorem Sending.offered {todo : List ReplicationNote}
    (h : Sending floats startJournal os (.offered offer :: todo) sent) :
    ∃ sent', Sending floats startJournal os todo sent' ∧
      oks sent' = oks sent ++ oks [offer.item] := by
  rcases h with ⟨hcommitted, hsent, errors, he, herrors⟩ | ⟨header, event, rest, hp, hs, hc, he⟩
  · cases errors with
    | nil => cases he
    | cons o errors =>
      cases he
      rw [List.map_cons, ← List.singleton_append, oks_append, List.append_eq_nil_iff] at herrors
      refine ⟨sent, .inl ⟨hcommitted, hsent, errors, rfl, herrors.2⟩, ?_⟩
      rw [herrors.1, List.append_nil]
  · cases rest with
    | nil => cases he
    | cons o rest =>
      cases he
      refine ⟨sent ++ [offer.item], .inr ⟨header, event, rest, hp, ?_, ?_, rfl⟩, oks_append ..⟩
      · rw [hs, List.append_assoc]
        rfl
      · exact hc.trans (List.prefix_append ..)

theorem Sending.items {todo : List ReplicationNote}
    (h : Sending floats startJournal os todo sent) :
    oks (attributed floats startJournal (pulledEvents os)) =
        oks sent ++ oks ((offers todo).map Offer.item) ∧
      oks (attributed floats startJournal (committedEvents os)) <+: oks sent := by
  have hoffers : ∀ rest : List Offer, offers (rest.map .offered) = rest := by
    intro rest
    rw [offers, List.filterMap_map]
    exact List.filterMap_some
  rcases h with ⟨hcommitted, rfl, errors, rfl, herrors⟩ | ⟨header, event, rest, -, hs, hc, rfl⟩
  · rw [hoffers, herrors, hcommitted, List.append_nil]
    exact ⟨rfl, List.prefix_refl _⟩
  · have hrest : offers (rest.map .offered ++ [.committed header event]) = rest :=
      (List.filterMap_append ..).trans ((List.append_nil _).trans (hoffers rest))
    rw [hrest, hs, oks_append]
    exact ⟨rfl, oks_isPrefix hc⟩

theorem Sending.committed {todo : List ReplicationNote}
    (h : Sending floats startJournal os (.committed header event :: todo) sent) :
    todo = [] ∧ pulledEvents os = committedEvents os ++ [(header, event)] ∧
      sent = attributed floats startJournal (pulledEvents os) := by
  rcases h with ⟨-, -, errors, he, -⟩ | ⟨header', event', rest, hp, hs, -, he⟩
  · cases errors <;> cases he
  · cases rest with
    | nil =>
      cases he
      exact ⟨rfl, hp, (hs.trans (List.append_nil _)).symm⟩
    | cons => cases he

namespace Flowing

theorem quiet (h : Flowing floats startJournal calm lib f cap d os s) :
    Flowing floats startJournal calm lib f cap d (os ++ []) s := (List.append_nil os).symm ▸ h

theorem sent_all (h : Flowing floats startJournal calm lib f cap d os s) (hp : s.pending = []) :
    committedEvents os = pulledEvents os ∧
      received (feedNotes os) <+: oks (attributed floats startJournal (pulledEvents os)) ∧
      (s.feed.ended = false → received (feedNotes os) ++ oks s.channel =
        oks (attributed floats startJournal (pulledEvents os))) := by
  obtain ⟨sent, hsending, hbefore, hopen⟩ := h.sending
  rw [hp] at hsending
  rcases hsending with ⟨hcommitted, hsent, -⟩ | ⟨header, event, rest, -, -, -, hrest⟩
  · rw [← hsent]
    exact ⟨hcommitted, hbefore, hopen⟩
  · cases rest <;> cases hrest

theorem no_event (h : Flowing floats startJournal calm lib f cap d os s) (hp : s.pending = [])
    {r : Replication} (errors : List Offer) (hr : r.opened = s.replication.opened)
    (herrors : oks (errors.map Offer.item) = []) :
    Flowing floats startJournal calm lib f cap d (os ++ [])
      { s with replication := r, pending := errors.map .offered } := by
  obtain ⟨hcommitted, hbefore, hopen⟩ := h.sent_all hp
  rw [List.append_nil]
  exact ⟨hr ▸ h.follows, h.sifted, ⟨_, .inl ⟨hcommitted, rfl, errors, rfl, herrors⟩, hbefore,
    hopen⟩, h.capacity, h.lasting⟩

theorem an_event (h : Flowing floats startJournal calm lib f cap d os s) (hp : s.pending = [])
    {r : Replication} {rest : List Offer}
    {header : EventHeader} {event : BinlogEvent}
    (hr : r.opened.Follows startJournal ((pulledEvents os).map Prod.snd ++ [event]))
    (hrest : rest.map Offer.item =
      attributedItems floats startJournal ((pulledEvents os).map Prod.snd ++ [event])
        header event) :
    Flowing floats startJournal calm lib f cap d (os ++ [.pulled header event])
      { s with replication := r, pending := rest.map .offered ++ [.committed header event] } := by
  obtain ⟨hcommitted, hbefore, hopen⟩ := h.sent_all hp
  have hp' : pulledEvents (os ++ [.pulled header event]) =
      pulledEvents os ++ [(header, event)] := pulledEvents_append ..
  have hc' : committedEvents (os ++ [.pulled header event]) = committedEvents os := by
    rw [committedEvents_append]
    exact List.append_nil _
  have hf' : feedNotes (os ++ [.pulled header event]) = feedNotes os := by
    rw [feedNotes_append]
    exact List.append_nil _
  refine ⟨?_, hf'.symm ▸ h.sifted, ⟨attributed floats startJournal (pulledEvents os), ?_, ?_, ?_⟩,
    h.capacity, h.lasting⟩
  · rw [hp', List.map_append]
    exact hr
  · refine .inr ⟨header, event, rest, ?_, ?_, ?_, rfl⟩
    · rw [hp', hc', hcommitted]
    · rw [hp', hrest, attributed, attributedStream_append, List.nil_append]
      exact congrArg (_ ++ ·) (List.append_nil _)
    · rw [hc', hcommitted]
  · rw [hf']
    exact hbefore
  · rw [hf']
    exact hopen

theorem pull (h : Flowing floats startJournal calm lib f cap d os s) (p : Pull) :
    Flowing floats startJournal calm lib f cap d (os ++ (s.step floats lib d (.pull p)).2)
      (s.step floats lib d (.pull p)).1 := by
  simp only [step]
  split
  · rename_i hpending
    rw [List.isEmpty_iff] at hpending
    generalize hr : ({ s.replication with
      tx := if s.feed.ended = true then { remaining := some 0 } else {} } : Replication) = r
    have hopened : r.opened = s.replication.opened := by rw [← hr]; rfl
    have hended : s.replication.ended = r.ended := by rw [← hr]
    by_cases he : s.replication.ended = true
    · rw [if_pos he]
      have hstep : r.step floats p = (r, []) := if_pos (hended ▸ he)
      rw [hstep]
      exact h.no_event hpending [] hopened rfl
    · rw [if_neg he]
      rw [Bool.not_eq_true] at he
      cases hp : p.event with
      | none =>
        obtain ⟨hr', errors, hes, herrors⟩ := Replication.step_other (s := r) floats hp
        rw [hes]
        exact h.no_event hpending errors (hr'.trans hopened) herrors
      | some e =>
        have hp' : p = .item e.1 e.2 := by
          cases p with
          | item header event cancelled => cases cancelled <;> cases hp; rfl
          | _ => cases hp
        obtain ⟨hf, rest, hes, hrest⟩ := Replication.step_event floats (hended ▸ he)
          (hopened.symm ▸ h.follows) e.1 e.2
        rw [hp', hes]
        exact h.an_event hpending hf hrest
  · exact h.quiet

theorem progress (h : Flowing floats startJournal calm lib f cap d os s) :
    Flowing floats startJournal calm lib f cap d (os ++ (s.step floats lib d .progress).2)
      (s.step floats lib d .progress).1 := by
  simp only [step]
  split
  · exact h.quiet
  · rename_i header event pending hp
    obtain ⟨sent, hsending, hbefore, hopen⟩ := h.sending
    rw [hp] at hsending
    obtain ⟨rfl, hpulled, rfl⟩ := hsending.committed
    have hp' : pulledEvents (os ++ [.committed header event]) = pulledEvents os := by
      rw [pulledEvents_append]
      exact List.append_nil _
    have hc' : committedEvents (os ++ [.committed header event]) = pulledEvents os := by
      rw [committedEvents_append, hpulled]
      rfl
    have hf' : feedNotes (os ++ [.committed header event]) = feedNotes os := by
      rw [feedNotes_append]
      exact List.append_nil _
    refine ⟨?_, ?_, ⟨_, .inl ⟨hc'.trans hp'.symm, rfl, [], rfl, rfl⟩, ?_⟩,
      h.capacity, h.lasting⟩
    · rw [hp']
      exact h.follows
    · rw [hf']
      exact h.sifted
    · rw [hp', hf']
      exact ⟨hbefore, hopen⟩
  · rename_i offer pending hp
    obtain ⟨sent, hsending, hbefore, hopen⟩ := h.sending
    rw [hp] at hsending
    obtain ⟨sent', hsending', hsent⟩ := hsending.offered
    have hbefore' : received (feedNotes os) <+: oks sent' := by
      rw [hsent]
      exact hbefore.trans (List.prefix_append ..)
    split
    · rename_i hend
      rw [List.append_nil]
      refine ⟨h.follows, h.sifted, ⟨sent', hsending', hbefore', fun he => ?_⟩, h.capacity,
        h.lasting⟩
      rw [hend] at he
      cases he
    · split
      · rw [List.append_nil]
        refine ⟨h.follows, h.sifted, ⟨sent', hsending', hbefore', fun he => ?_⟩, h.capacity,
          h.lasting⟩
        rw [oks_append, ← List.append_assoc, hopen he, hsent]
      · exact h.quiet

theorem work (h : Flowing floats startJournal calm lib f cap d os s) (a : FeedAction)
    (ha : calm → a ≠ .stop)
    {channel : List EventItem}
    (htakes : s.feed.ended = false → oks s.channel = s.feed.takes a ++ oks channel)
    (hopened : a ≠ .recv none) :
    let t : Pipeline := { s with channel }
    Flowing floats startJournal calm lib f cap d (os ++ (t.work lib d a).2) (t.work lib d a).1 := by
  intro t
  obtain ⟨hp', hc', hf'⟩ := notes_of_feed (s.feed.step lib d a).2
  have hpulled : pulledEvents (os ++ (t.work lib d a).2) = pulledEvents os := by
    rw [pulledEvents_append]
    exact hp'.symm ▸ List.append_nil _
  have hcommitted : committedEvents (os ++ (t.work lib d a).2) = committedEvents os := by
    rw [committedEvents_append]
    exact hc'.symm ▸ List.append_nil _
  have hfed : feedNotes (os ++ (t.work lib d a).2) = feedNotes os ++ (s.feed.step lib d a).2 := by
    rw [feedNotes_append]
    exact congrArg (feedNotes os ++ ·) hf'
  have hreceived : received (feedNotes (os ++ (t.work lib d a).2)) =
      received (feedNotes os) ++ s.feed.takes a := by
    rw [hfed, received_append, FeedLoop.received_step]
  obtain ⟨sent, hsending, hbefore, hopen⟩ := h.sending
  have hsending' : Sending floats startJournal (os ++ (t.work lib d a).2) s.pending sent := by
    unfold Sending
    rw [hpulled, hcommitted]
    exact hsending
  refine ⟨?_, ?_, ⟨sent, hsending', ?_, ?_⟩, ?_, ?_⟩
  · rw [hpulled]
    exact h.follows
  · rw [hfed]
    exact h.sifted.step d ha
  · rw [hreceived]
    by_cases he : s.feed.ended = true
    · rw [FeedLoop.takes_ended he, List.append_nil]
      exact hbefore
    · rw [Bool.not_eq_true] at he
      rw [← hopen he, htakes he, ← List.append_assoc]
      exact List.prefix_append ..
  · intro he'
    have he : s.feed.ended = false := by
      rw [← Bool.not_eq_true]
      intro he
      rw [show (t.work lib d a).1.feed.ended = true from FeedLoop.step_ended lib d he a] at he'
      cases he'
    have hchannel : (t.work lib d a).1.channel = channel :=
      if_neg ((Bool.not_eq_true _).mpr he')
    rw [hreceived, hchannel, List.append_assoc, ← htakes he]
    exact hopen he
  · rintro hcalm rfl hcap
    have hc := h.capacity hcalm rfl hcap
    exact (FeedLoop.step_release lib (hc ▸ hcap) a).1.trans hc
  · rintro hcalm rfl hcap
    have hc := h.capacity hcalm rfl hcap
    rw [← Bool.not_eq_true]
    intro he'
    rcases (FeedLoop.step_release lib (hc ▸ hcap) a).2 he' with he | rfl
    · rw [h.lasting hcalm rfl hcap] at he
      cases he
    · exact hopened rfl

theorem recv (h : Flowing floats startJournal calm lib f cap d os s) :
    Flowing floats startJournal calm lib f cap d (os ++ (s.step floats lib d .recv).2)
      (s.step floats lib d .recv).1 := by
  simp only [Pipeline.step]
  split
  · exact h.quiet
  · rename_i hopen
    split
    · rename_i item channel hch
      refine h.work (.recv (some item)) (fun _ => nofun) (fun he => ?_) nofun
      rw [hch]
      cases item with
      | error e => rfl
      | ok event =>
        simp only [FeedLoop.takes, he, Bool.false_eq_true, ↓reduceIte]
        rfl
    · exact h.quiet

theorem step (h : Flowing floats startJournal calm lib f cap d os s) (a : PipelineAction)
    (ha : calm → a ≠ .stop ∧ a ≠ .abort) :
    Flowing floats startJournal calm lib f cap d (os ++ (s.step floats lib d a).2)
      (s.step floats lib d a).1 := by
  cases a with
  | pull p => exact h.pull p
  | progress => exact h.progress
  | recv => exact h.recv
  | tick => exact h.work .tick (fun _ => nofun) (fun _ => rfl) nofun
  | start => exact h.work .start (fun _ => nofun) (fun _ => rfl) nofun
  | stop => exact h.work .stop (fun hcalm => absurd rfl (ha hcalm).1) (fun _ => rfl) nofun
  | abort =>
    have hcalm : ¬ calm := fun hcalm => (ha hcalm).2 rfl
    obtain ⟨sent, hsending, hbefore, -⟩ := h.sending
    refine (?_ : Flowing floats startJournal calm lib f cap d os _).quiet
    exact ⟨h.follows, h.sifted.abort hcalm, ⟨sent, hsending, hbefore, nofun⟩,
      fun h' => (hcalm h').elim, fun h' => (hcalm h').elim⟩

theorem started (floats : FloatText) (startJournal destination : String) (calm : Prop)
    (lib : Crates) (f : EventFilter) (cap : Nat) (d : Bool) :
    Flowing floats startJournal calm lib f cap d [] (.started startJournal destination f cap) where
  follows := ⟨rfl, rfl, fun _ => rfl, fun _ => rfl, rfl, rfl⟩
  sifted := ⟨rfl, List.Sublist.refl _, fun _ => rfl, fun _ _ => .init cap, fun _ => rfl⟩
  sending := ⟨[], .inl ⟨rfl, rfl, [], rfl, rfl⟩, List.prefix_refl _, fun _ => rfl⟩
  capacity _ _ _ := rfl
  lasting _ _ _ := rfl

end Flowing

theorem flowing_run (floats : FloatText) (startJournal destination : String) (lib : Crates)
    (f : EventFilter) (cap : Nat) (d : Bool) (h : ∀ a ∈ as, a ≠ .stop ∧ a ≠ .abort) :
    Flowing floats startJournal True lib f cap d
      (Run.outputs (step floats lib d) (.started startJournal destination f cap) as)
      (Run.final (step floats lib d) (.started startJournal destination f cap) as) := by
  have hg : Run.Along (step floats lib d) (fun _ _ a => a ≠ .stop ∧ a ≠ .abort)
      (.started startJournal destination f cap) as := .of_labels fun a ha _ _ => h a ha
  exact hg.invariant (I := fun _ os s => Flowing floats startJournal True lib f cap d os s)
    (Flowing.started ..) fun _ _ _ a hI ha => hI.step a fun _ => ha

end Pipeline

end Canal
