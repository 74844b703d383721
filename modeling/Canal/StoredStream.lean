import Canal.StreamFlow

namespace Canal
set_option autoImplicit true

open KeyedLog

namespace Pipeline

variable {floats : FloatText} {startJournal : String} {calm : Prop} {lib : Crates}
  {f : EventFilter} {cap : Nat} {d : Bool} {os : List PipelineNote} {s : Pipeline}

/-- The items of the stream that are to be stored. -/
def due (floats : FloatText) (startJournal : String) (lib : Crates) (f : EventFilter)
    (os : List PipelineNote) : List CanalEvent :=
  (oks (attributed floats startJournal (pulledEvents os))).filter fun e => f.matches lib e

/-- The feed loop goes on, as it always does in a release build whose store has room. -/
def Healthy (d : Bool) (cap : Nat) (s : Pipeline) : Prop :=
  s.feed.ended = false ∨ (d = false ∧ 0 < cap)

theorem Flowing.split (h : Flowing floats startJournal True lib f cap d os s)
    (hs : s.Healthy d cap) :
    received (feedNotes os) ++ oks s.channel ++ oks ((offers s.pending).map Offer.item) =
      oks (attributed floats startJournal (pulledEvents os)) ∧
    oks (attributed floats startJournal (committedEvents os)) <+:
      received (feedNotes os) ++ oks s.channel := by
  obtain ⟨sent, hsending, hbefore, hopen⟩ := h.sending
  obtain ⟨hitems, hcommitted⟩ := hsending.items
  have he : s.feed.ended = false := by
    rcases hs with he | ⟨rfl, hcap⟩
    · exact he
    · exact h.lasting trivial rfl hcap
  rw [hopen he]
  exact ⟨hitems.symm, hcommitted⟩

theorem Flowing.stored_follows (h : Flowing floats startJournal True lib f cap d os s) :
    stored (feedNotes os) <+: due floats startJournal lib f os ∧
      (s.Healthy d cap →
        (stored (feedNotes os) ++ (s.feed.batch ++ oks s.channel ++
            oks ((offers s.pending).map Offer.item)).filter fun e => f.matches lib e) =
          due floats startJournal lib f os ∧
        oks (attributed floats startJournal (committedEvents os)) <+:
          received (feedNotes os) ++ oks s.channel) := by
  constructor
  · obtain ⟨sent, hsending, hbefore, -⟩ := h.sending
    have hall : received (feedNotes os) <+:
        oks (attributed floats startJournal (pulledEvents os)) := by
      rw [hsending.items.1]
      exact hbefore.trans (List.prefix_append ..)
    have hstored : stored (feedNotes os) <+:
        (received (feedNotes os)).filter fun e => f.matches lib e := by
      rw [← h.sifted.split trivial]
      exact List.prefix_append ..
    exact hstored.trans (hall.filter _)
  · intro hs
    obtain ⟨hsplit, hcommitted⟩ := h.split hs
    refine ⟨?_, hcommitted⟩
    rw [due, ← hsplit, List.append_assoc s.feed.batch, List.filter_append, ← List.append_assoc,
      h.sifted.split trivial, ← List.filter_append, List.append_assoc]

/-- What the store is handed is what the stream says, in its order, without what the filter of the
instance leaves out: nothing is lost, repeated or moved between the binlog and the store, and an
event is committed only after its items are in the channel. -/
theorem stored_follows_stream (floats : FloatText) (startJournal destination : String)
    (lib : Crates) (f : EventFilter) (cap : Nat) (d : Bool)
    (h : ∀ a ∈ as, a ≠ .stop ∧ a ≠ .abort) :
    let s := Run.final (step floats lib d) (.started startJournal destination f cap) as
    let os := Run.outputs (step floats lib d) (.started startJournal destination f cap) as
    stored (feedNotes os) <+: due floats startJournal lib f os ∧
      (s.Healthy d cap →
        (stored (feedNotes os) ++ (s.feed.batch ++ oks s.channel ++
            oks ((offers s.pending).map Offer.item)).filter fun e => f.matches lib e) =
          due floats startJournal lib f os ∧
        oks (attributed floats startJournal (committedEvents os)) <+:
          received (feedNotes os) ++ oks s.channel) := by
  intro s os
  exact (flowing_run _ _ _ _ _ _ _ h).stored_follows

/-- Three rows of one table from the binlog into the store, two at once and one after them. -/
def rowsIn : List PipelineAction :=
  let header (position : UInt32) : EventHeader :=
    { timestamp := 5, serverId := 1, nextEventPosition := position }
  let table : TableMapEvent :=
    { tableId := 7, databaseName := "db", tableName := "t", columnTypes := [3],
      nullBitmap := [true], tableMetadata := none }
  let row (n : UInt32) : BinlogRow := { cells := [some (.int n)] }
  [.pull (.item (header 200) (.tableMap table)), .progress,
    .pull (.item (header 300) (.writeRows 7 [row 5, row 6])), .progress, .progress, .progress,
    .recv, .recv, .tick,
    .pull (.item (header 400) (.writeRows 7 [row 7])), .progress, .progress, .recv, .tick]

def plainFloats : FloatText := { float := fun _ => "0", double := fun _ => "0" }

def everyTable : EventFilter := { includeRe := ".*\\..*", exclude := none }

theorem rowsIn_calm (n : Nat) : ∀ a ∈ rowsIn.take n, a ≠ .stop ∧ a ≠ .abort := by
  intro a ha
  have hmem := List.mem_of_mem_take ha
  simp only [rowsIn, List.mem_cons, List.not_mem_nil, or_false] at hmem
  constructor
  · rintro rfl
    simp at hmem
  · rintro rfl
    simp at hmem

/-- When the third row is in the channel, the first two are in the store. -/
theorem stored_follows_stream_rowsIn :
    let s := Run.final (step plainFloats .literal true)
      (.started "mysql-bin.000001" "default" everyTable 2) (rowsIn.take 11)
    let os := Run.outputs (step plainFloats .literal true)
      (.started "mysql-bin.000001" "default" everyTable 2) (rowsIn.take 11)
    ((stored (feedNotes os)).length = 2 ∧ s.channel.length = 1) ∧
      (stored (feedNotes os) ++ (s.feed.batch ++ oks s.channel ++
          oks ((offers s.pending).map Offer.item)).filter fun e => everyTable.matches .literal e) =
        due plainFloats "mysql-bin.000001" .literal everyTable os := by
  constructor
  · decide +kernel
  · exact ((stored_follows_stream plainFloats "mysql-bin.000001" "default" .literal everyTable 2
      true (rowsIn_calm 11)).2 (.inl (by decide +kernel))).1

/-- Once all is through, and where the stream is in the order that `put_batch` asks for, the store
holds the newest events of what was due. -/
theorem drained_store_is_newest (floats : FloatText) (startJournal destination : String)
    (lib : Crates) (f : EventFilter) (cap : Nat) (d : Bool)
    (h : ∀ a ∈ as, a ≠ .stop ∧ a ≠ .abort)
    (hs : (Run.final (step floats lib d) (.started startJournal destination f cap) as).Healthy
      d cap)
    (hm : Ascending CanalEvent.key (due floats startJournal lib f
      (Run.outputs (step floats lib d) (.started startJournal destination f cap) as)))
    (hdrained : let s := Run.final (step floats lib d) (.started startJournal destination f cap) as
      s.pending = [] ∧ s.channel = [] ∧ s.feed.batch = []) :
    Reflects cap (due floats startJournal lib f
        (Run.outputs (step floats lib d) (.started startJournal destination f cap) as))
      (Run.final (step floats lib d) (.started startJournal destination f cap) as
        ).feed.inst.store := by
  have hflow := flowing_run floats startJournal destination lib f cap d h
  generalize Run.final (step floats lib d) (.started startJournal destination f cap) as = s
    at hs hdrained hflow ⊢
  obtain ⟨hpending, hchannel, hbatch⟩ := hdrained
  have hall := (hflow.split hs).1
  have hsplit := hflow.sifted.split trivial
  have hnil : oks ((offers []).map Offer.item) = [] := rfl
  have hdue : stored (feedNotes (Run.outputs (step floats lib d)
      (.started startJournal destination f cap) as)) = due floats startJournal lib f
        (Run.outputs (step floats lib d) (.started startJournal destination f cap) as) := by
    rw [hpending, hchannel, hnil, List.append_nil, show oks [] = [] from rfl,
      List.append_nil] at hall
    rw [hbatch, List.filter_nil, List.append_nil, hall] at hsplit
    exact hsplit
  rw [← hdue] at hm ⊢
  exact hflow.sifted.reflects trivial hm

/-- A store for two rows that was given three. -/
theorem drained_store_is_newest_rowsIn :
    let s := Run.final (step plainFloats .literal true)
      (.started "mysql-bin.000001" "default" everyTable 2) (rowsIn.take 14)
    let all := due plainFloats "mysql-bin.000001" .literal everyTable
      (Run.outputs (step plainFloats .literal true)
        (.started "mysql-bin.000001" "default" everyTable 2) (rowsIn.take 14))
    all.length = 3 ∧ Reflects 2 all s.feed.inst.store := by
  constructor
  · decide +kernel
  · exact drained_store_is_newest plainFloats "mysql-bin.000001" "default" .literal everyTable 2
      true (rowsIn_calm 14) (.inl (by decide +kernel)) (by unfold Ascending; decide +kernel)
      ⟨by decide +kernel, by decide +kernel, by decide +kernel⟩

end Pipeline

end Canal
