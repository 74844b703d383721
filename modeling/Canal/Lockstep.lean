import Canal.PollLoop

namespace Canal
set_option autoImplicit true

section Projections

@[simp] theorem readBatches_append (ns ns' : List Note) :
    readBatches (ns ++ ns') = readBatches ns ++ readBatches ns' := List.filterMap_append ..

@[simp] theorem placedItems_append (ns ns' : List Note) :
    placedItems (ns ++ ns') = placedItems ns ++ placedItems ns' := List.filterMap_append ..

/-- The events of the batches read so far. -/
def readEvents (notes : List Note) : List Events := (readBatches notes).map ReadBatch.events

@[simp] theorem readEvents_append (ns ns' : List Note) :
    readEvents (ns ++ ns') = readEvents ns ++ readEvents ns' := by
  rw [readEvents, readBatches_append, List.map_append]
  rfl

end Projections

/-- The batch in hand, unless the call found nothing. -/
def Phase.hand : Phase → List Events
  | .answer _ events => if events.isEmpty then [] else [events]
  | _ => []

theorem Phase.hand_of_isGet {phase : Phase} (h : phase.isGet = false) : phase.hand = [] := by
  cases phase with
  | frame | closed => rfl
  | get | answer => cases h

/-- The last of the batches `bs` is the one that an ack has to name. -/
structure ClientState.Knows (st : ClientState) (bs : List Events) : Prop where
  batchId : st.lastGetBatchId = (bs.getLast?.map Events.batchId).getD 0
  endPos : st.lastGetEndPos = bs.getLast?.map fun b => b.positionRange.stop

theorem ClientState.Knows.served {st : ClientState} (h : st.Knows bs) (cid : String)
    (events : Events) : (st.served events).Knows (bs ++ (Phase.answer cid events).hand) := by
  cases hne : events.isEmpty with
  | true =>
    simp only [ClientState.served, Phase.hand, hne, ↓reduceIte, List.append_nil]
    exact h
  | false =>
    rw [st.served_of_nonempty hne, Phase.hand, if_neg (by rw [hne]; decide)]
    constructor
    · rw [List.getLast?_concat]
      rfl
    · rw [List.getLast?_concat]
      rfl

/-- The consumer still lacks `items` of what has been read. -/
def Pending (lib : WireCrates) (notes : List Note) (items : List (Except CanalError CanalEvent)) :
    Prop :=
  placedItems notes ++ items = (readBatches notes).flatMap (ReadBatch.items lib)

/-- The ack `batchId` was written when all that had been read was placed, and nothing has been read
since. -/
def AckDue (lib : WireCrates) (notes : List Note) (batchId : Int64) : Prop :=
  ∃ before after, notes = before ++ .ackSent batchId :: after ∧ readBatches after = [] ∧
    Pending lib before []

/-- Every accepted ack names the batch read last, and was written when everything read so far had
been placed, in the order of the reads. -/
def AcksFollow (lib : WireCrates) (notes : List Note) : Prop :=
  ∀ pre cid pos post, notes = pre ++ .accepted cid pos :: post →
    ∃ before batchId after batch, pre = before ++ .ackSent batchId :: after ∧
      (readBatches pre).getLast? = some batch ∧ batch.events.batchId = batchId ∧
      batch.events.positionRange.stop = pos ∧ readBatches before = readBatches pre ∧
      placedItems before = (readBatches pre).flatMap (ReadBatch.items lib)

/-- Notes that neither read nor place. -/
structure Quiet (ns : List Note) : Prop where
  read : readBatches ns = []
  placed : placedItems ns = []

theorem Quiet.nil : Quiet [] := ⟨rfl, rfl⟩

theorem Pending.quiet (h : Pending lib notes items) (hn : Quiet ns) :
    Pending lib (notes ++ ns) items := by
  rw [Pending, readBatches_append, placedItems_append, hn.read, hn.placed, List.append_nil,
    List.append_nil]
  exact h

theorem AckDue.quiet (h : AckDue lib notes batchId) (hn : readBatches ns = []) :
    AckDue lib (notes ++ ns) batchId := by
  obtain ⟨before, after, rfl, hafter, hp⟩ := h
  refine ⟨before, after ++ ns, ?_, ?_, hp⟩
  · rw [List.append_assoc, List.cons_append]
  · rw [readBatches_append, hafter, hn, List.append_nil]

theorem AckDue.sent (h : Pending lib notes []) (batchId : Int64) :
    AckDue lib (notes ++ [.ackSent batchId]) batchId := ⟨notes, [], rfl, rfl, h⟩

theorem AcksFollow.append (h : AcksFollow lib notes) (hn : ∀ cid pos, .accepted cid pos ∉ ns) :
    AcksFollow lib (notes ++ ns) := by
  intro pre cid pos post he
  rcases List.append_eq_append_iff.1 he with ⟨mid, rfl, hmid⟩ | ⟨mid, rfl, hmid⟩
  · exact absurd (hmid ▸ List.mem_append_right mid (List.mem_cons_self ..)) (hn cid pos)
  · cases mid with
    | nil =>
      cases hmid
      exact absurd (List.mem_cons_self ..) (hn cid pos)
    | cons n mid =>
      cases hmid
      exact h pre cid pos mid rfl

theorem AcksFollow.accepted (h : AcksFollow lib notes) (hdue : AckDue lib notes batchId)
    (hlast : (readBatches notes).getLast? = some batch) (hid : batch.events.batchId = batchId)
    (hpos : batch.events.positionRange.stop = pos) (cid : String) :
    AcksFollow lib (notes ++ [.accepted cid pos]) := by
  intro pre cid' pos' post he
  rcases List.eq_nil_or_concat post with rfl | ⟨post, n, rfl⟩
  · obtain ⟨rfl, hn⟩ := List.append_inj' he rfl
    cases hn
    obtain ⟨before, after, rfl, hafter, hp⟩ := hdue
    have hread : readBatches (before ++ .ackSent batchId :: after) = readBatches before := by
      have hcons : readBatches (.ackSent batchId :: after) = readBatches after := rfl
      rw [readBatches_append, hcons, hafter, List.append_nil]
    rw [Pending, List.append_nil] at hp
    exact ⟨before, batchId, after, batch, rfl, hlast, hid, hpos, hread.symm, hread.symm ▸ hp⟩
  · rw [List.concat_eq_append, ← List.cons_append, ← List.append_assoc] at he
    obtain ⟨rfl, -⟩ := List.append_inj' he rfl
    exact h pre cid' pos' post rfl

/-- The frames that the lockstep is about. -/
def Frame.isPoll : Frame → Bool
  | .packet (.get _) => true
  | .packet (.clientAck _) => true
  | _ => false

def ClientTask.writes : ClientTask → Bool
  | connecting | authenticating | connected | subscribing | polling => true
  | _ => false

/-- Nothing, or one ack that is due. -/
def AcksDue (lib : WireCrates) (notes : List Note) (frames : List Frame) : Prop :=
  frames = [] ∨ ∃ batchId, frames = [.ack batchId] ∧ AckDue lib notes batchId

/-- Where the client stands, the acks and Gets on their way, the phase of the connection and the
answers on their way. -/
inductive Lockstep (lib : WireCrates) (notes : List Note) :
    ClientTask → List Frame → Phase → List Proto.Messages → Prop
  | idle (ht : task.writes = true) (hq : AcksDue lib notes acks) (hp : Pending lib notes []) :
      Lockstep lib notes task acks .frame []
  | requested (hq : AcksDue lib notes acks) (hp : Pending lib notes []) :
      Lockstep lib notes .awaiting (acks ++ [.fetch 100]) .frame []
  | reading (hp : Pending lib notes []) (hg : phase.isGet = true) :
      Lockstep lib notes .awaiting [] phase []
  | refused (hp : Pending lib notes []) : Lockstep lib notes .awaiting [] .frame []
  | answered (hp : Pending lib notes (m.messages.map lib.item)) :
      Lockstep lib notes .awaiting [] .frame [m]
  | forwarding (hp : Pending lib notes (entries.map lib.item)) :
      Lockstep lib notes (.forwarding batchId entries) [] .frame []
  | stopped (hq : AcksDue lib notes acks) (hg : gets = [] ∨ gets = [.fetch 100])
      (hf : phase.isGet = true → acks = []) :
      Lockstep lib notes .stopped (acks ++ gets) phase ms

namespace Lockstep

theorem requested_alone (hp : Pending lib notes []) :
    Lockstep lib notes .awaiting [.fetch 100] .frame [] := by
  have hq : AcksDue lib notes [] := .inl rfl
  have h := requested hq hp
  exact h

theorem stopped_alone (hg : gets = [] ∨ gets = [.fetch 100]) :
    Lockstep lib notes .stopped gets phase ms := by
  have hq : AcksDue lib notes [] := .inl rfl
  have h : Lockstep lib notes .stopped ([] ++ gets) phase ms := stopped hq hg fun _ => rfl
  exact h

theorem stage (h : Lockstep lib notes task polls phase ms) (hp : phase.isGet = true)
    (hp' : phase'.isGet = true) : Lockstep lib notes task polls phase' ms := by
  cases h with
  | reading h => exact .reading h hp'
  | stopped hq hg hf => exact .stopped hq hg fun _ => hf hp
  | idle | requested | refused | answered | forwarding => cases hp

theorem quiet (h : Lockstep lib notes task polls phase ms) (hn : Quiet ns) :
    Lockstep lib (notes ++ ns) task polls phase ms := by
  have acks : ∀ {frames}, AcksDue lib notes frames → AcksDue lib (notes ++ ns) frames :=
    fun hq => hq.imp_right fun ⟨batchId, he, hdue⟩ => ⟨batchId, he, hdue.quiet hn.read⟩
  cases h with
  | idle ht hq hp => exact .idle ht (acks hq) (hp.quiet hn)
  | requested hq hp => exact .requested (acks hq) (hp.quiet hn)
  | reading hp hg => exact .reading (hp.quiet hn) hg
  | refused hp => exact .refused (hp.quiet hn)
  | answered hp => exact .answered (hp.quiet hn)
  | forwarding hp => exact .forwarding (hp.quiet hn)
  | stopped hq hg hf => exact .stopped (acks hq) hg hf

theorem stop (h : Lockstep lib notes task polls phase ms) :
    Lockstep lib notes .stopped polls phase ms := by
  have nothing : ∀ {phase ms}, Lockstep lib notes .stopped [] phase ms :=
    stopped_alone (.inl rfl)
  cases h with
  | idle ht hq hp =>
    have hs : Lockstep lib notes .stopped (_ ++ []) .frame [] := stopped hq (.inl rfl) nofun
    rw [List.append_nil] at hs
    exact hs
  | requested hq hp => exact .stopped hq (.inr rfl) nofun
  | reading | refused | answered | forwarding => exact nothing
  | stopped hq hg hf => exact .stopped hq hg hf

theorem received (h : Lockstep lib notes task (frame :: polls) .frame ms) :
    (∃ batchId, frame = .ack batchId ∧ AckDue lib notes batchId ∧
      Lockstep lib notes task polls .frame ms) ∨
    (frame = .fetch 100 ∧ Lockstep lib notes task polls .frame ms ∧
      ∀ phase : Phase, phase.isGet = true → Lockstep lib notes task polls phase ms) := by
  generalize hl : frame :: polls = l at h
  cases h with
  | idle ht hq hp =>
    rcases hq with rfl | ⟨batchId, rfl, hdue⟩
    · cases hl
    · cases hl
      exact .inl ⟨batchId, rfl, hdue, .idle ht (.inl rfl) hp⟩
  | requested hq hp =>
    rcases hq with rfl | ⟨batchId, rfl, hdue⟩
    · cases hl
      exact .inr ⟨rfl, .refused hp, fun _ hg => .reading hp hg⟩
    · cases hl
      exact .inl ⟨batchId, rfl, hdue, .requested_alone hp⟩
  | reading | refused | answered | forwarding => cases hl
  | stopped hq hg hf =>
    rcases hq with rfl | ⟨batchId, rfl, hdue⟩
    · rcases hg with rfl | rfl
      · cases hl
      · cases hl
        exact .inr ⟨rfl, .stopped_alone (.inl rfl), fun _ _ => .stopped_alone (.inl rfl)⟩
    · cases hl
      exact .inl ⟨batchId, rfl, hdue, .stopped_alone hg⟩

theorem answer (h : Lockstep lib notes task polls phase ms) (hg : phase.isGet = true)
    (hitems : Pending lib notes [] → Pending lib (notes ++ ns) (m.messages.map lib.item)) :
    Lockstep lib (notes ++ ns) task polls .frame (ms ++ [m]) := by
  cases h with
  | reading hp => exact .answered (hitems hp)
  | stopped hq hgets hf =>
    rw [hf hg]
    exact .stopped (.inl rfl) hgets nofun
  | idle | requested | refused | answered | forwarding => cases hg

theorem sent (h : Lockstep lib notes task polls phase ms)
    (hn : task.next client = some (frame, task')) :
    Lockstep lib (notes ++ Note.ofFrame frame) task' (polls ++ [frame].filter Frame.isPoll) phase
      ms := by
  cases h with
  | idle ht hq hp =>
    cases task with
    | connecting | connected =>
      cases hn
      rw [List.filter_cons_of_neg Bool.false_ne_true, List.filter_nil, List.append_nil]
      exact (idle rfl hq hp).quiet Quiet.nil
    | polling =>
      cases hn
      exact (requested hq hp).quiet Quiet.nil
    | authenticating | subscribing => cases hn
    | awaiting | forwarding | stopped => cases ht
  | @forwarding batchId entries hp =>
    cases entries with
    | nil =>
      cases hn
      exact .idle rfl (.inr ⟨batchId, rfl, .sent hp batchId⟩) (hp.quiet ⟨rfl, rfl⟩)
    | cons entry entries => cases hn
  | requested | reading | refused | answered | stopped => cases hn

theorem place (h : Lockstep lib notes (.forwarding batchId (entry :: entries)) polls phase ms) :
    Lockstep lib (notes ++ [.placed (lib.item entry)]) (.forwarding batchId entries) polls phase
      ms := by
  cases h with
  | idle ht => cases ht
  | forwarding hp =>
    apply forwarding
    rw [Pending, List.map_cons] at hp
    have hplaced : placedItems [.placed (lib.item entry)] = [lib.item entry] := rfl
    have hread : readBatches [.placed (lib.item entry)] = [] := rfl
    rw [Pending, placedItems_append, readBatches_append, hplaced, hread, List.append_nil,
      List.append_assoc]
    exact hp

theorem read (h : Lockstep lib notes task polls phase (answersIn (r :: rs)))
    (hr : task.reads = true) : Lockstep lib notes (task.got r) polls phase (answersIn rs) := by
  generalize hms : answersIn (r :: rs) = ms at h
  cases r with
  | ack a =>
    have hms : answersIn rs = ms := hms
    rw [hms]
    cases h with
    | idle ht hq hp =>
      cases task with
      | authenticating =>
        simp only [ClientTask.got]
        split
        · exact .idle rfl hq hp
        · exact (idle ht hq hp).stop
      | subscribing => exact .idle rfl hq hp
      | connecting | connected | polling | forwarding | stopped => cases hr
      | awaiting => cases ht
    | requested hq hp => exact (requested hq hp).stop
    | reading hp hg => exact (reading hp hg).stop
    | refused hp => exact (refused hp).stop
    | answered hp => exact (answered hp).stop
    | forwarding | stopped => cases hr
  | messages m =>
    have hms : m :: answersIn rs = ms := hms
    cases h with
    | idle | requested | reading | refused => cases hms
    | answered hp =>
      obtain ⟨rfl, hrs⟩ := List.cons.inj hms
      rw [hrs]
      exact .forwarding hp
    | forwarding | stopped => cases hr

end Lockstep

end Canal
