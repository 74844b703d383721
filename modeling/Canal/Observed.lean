import Canal.BatchIds
import Canal.Dialogue

namespace Canal
set_option autoImplicit true

/-- The server, the frames that connection `b` has received, and how many batch ids the store has
handed out. -/
structure Observed where
  server : Server
  got : List Response := []
  drawn : Nat := 0

/-- A step of some party, or an ack by connection `b` of the `i`-th batch it has received. -/
inductive Play
  | act (a : Action)
  | ackNth (i : Nat) (tx : Option CanalError)

/-- The batch ids among the frames. -/
def batchIds (rs : List Response) : List Int64 := (answersIn rs).map fun m => m.batchId

namespace Play

/-- A put, or a step of connection `b`. -/
def concerns (b : Nat) : Play → Bool
  | act a => a.actor.all (· = b)
  | ackNth .. => true

/-- Connection `b` acks by `ackNth` only. -/
def Named (b : Nat) (p : Play) : Prop :=
  ∀ ack tx, p ≠ act (.receive b (.packet (.clientAck (.ok ack))) tx)

end Play

namespace Observed

def new (capacity : Nat) (authToken : Option String) (debugAssertions : Bool) : Observed :=
  { server := .new capacity authToken debugAssertions }

def act (lib : Crates) (b : Nat) (w : Observed) (a : Action) : Observed × List Response :=
  let r := w.server.step lib a
  let rs := responses (trace b r.2)
  ({ server := r.1
     got := w.got ++ rs
     drawn := if r.1.store.batchIdSeq = w.server.store.batchIdSeq then w.drawn else w.drawn + 1 },
    rs)

def step (lib : Crates) (b : Nat) (w : Observed) (p : Play) : Observed × List Response :=
  match p with
  | .act a => w.act lib b a
  | .ackNth i tx =>
    match (batchIds w.got)[i]? with
    | some id => w.act lib b (.receive b (.ack id) tx)
    | none => (w, [])

end Observed

theorem batchIds_append (rs rs' : List Response) :
    batchIds (rs ++ rs') = batchIds rs ++ batchIds rs' := by
  simp only [batchIds, answersIn_append, List.map_append]

/-- The id that the store hands out after `k` others. -/
def nthId (k : Nat) : Int64 := .ofNat k

theorem nthId_succ (k : Nat) : nthId (k + 1) = nthId k + 1 := Int64.ofNat_add k 1

theorem nthId_ne (hj : j < k) (hk : k < 2 ^ 64) : nthId j ≠ nthId k := by
  intro h
  have hn := congrArg (fun i => i.toBitVec.toNat) h
  simp only [nthId, Int64.toBitVec_ofNat', BitVec.toNat_ofNat] at hn
  omega

theorem id_succ_ne (id : Int64) : id + 1 ≠ id := by
  intro h
  have h1 : (1 : Int64) = 0 := by
    simp at h
  cases h1

/-- The id is the zero of a batch without events, or has been drawn after the first. -/
def Observed.Known (w : Observed) (id : Int64) : Prop :=
  id = 0 ∨ ∃ j, 0 < j ∧ j < w.drawn ∧ id = nthId j

/-- A batch on its way out has the number of the last batch, or none. -/
def Connection.InHand (conn : Connection) : Prop :=
  ∀ cid events, conn.phase = .answer cid events →
    events.batchId = if events.isEmpty then 0 else conn.state.lastGetBatchId

/-- The counter stands at the number of ids drawn, and the ids seen so far are known, as are those
of the last batches. -/
structure Observed.Counted (w : Observed) : Prop where
  seq : w.server.store.batchIdSeq = nthId w.drawn
  stored : w.server.store.buffer ≠ [] → 0 < w.drawn
  got : ∀ id ∈ batchIds w.got, w.Known id
  last : ∀ c, w.Known (w.server.conns c).state.lastGetBatchId
  hand : ∀ c, (w.server.conns c).InHand

namespace Observed

variable {lib : Crates} {b : Nat} {w w' : Observed}

theorem Counted.new (cap : Nat) (authToken : Option String) (d : Bool) :
    (Observed.new cap authToken d).Counted where
  seq := rfl
  stored h := absurd rfl h
  got _ h := absurd h List.not_mem_nil
  last _ := .inl rfl
  hand _ _ _ h := by cases h

theorem drawn_le (lib : Crates) (b : Nat) (w : Observed) (a : Action) :
    w.drawn ≤ (w.act lib b a).1.drawn := by
  simp only [act]
  split
  · exact le_rfl
  · exact Nat.le_succ _

theorem Known.mono {id : Int64} (h : w.Known id) (hd : w.drawn ≤ w'.drawn) : w'.Known id :=
  h.imp_right fun ⟨j, h0, hj, he⟩ => ⟨j, h0, hj.trans_le hd, he⟩

theorem Counted.keep (h : w.Counted) {a : Action}
    (hseq : (w.server.step lib a).1.store.batchIdSeq = w.server.store.batchIdSeq)
    (hbuf : (w.server.step lib a).1.store.buffer = w.server.store.buffer)
    (hids : ∀ id ∈ batchIds (w.act lib b a).2, w.Known id)
    (hlast : ∀ c, ((w.server.step lib a).1.conns c).state.lastGetBatchId =
      (w.server.conns c).state.lastGetBatchId)
    (hhand : ∀ c, ((w.server.step lib a).1.conns c).InHand) : (w.act lib b a).1.Counted := by
  have hdrawn : (w.act lib b a).1.drawn = w.drawn := if_pos hseq
  have hknown : ∀ {id}, w.Known id → (w.act lib b a).1.Known id :=
    fun hid => hid.mono (drawn_le lib b w a)
  constructor
  · rw [hdrawn]
    exact hseq.trans h.seq
  · rw [hdrawn]
    exact fun hne => h.stored (hbuf ▸ hne)
  · intro id hid
    have hid : id ∈ batchIds (w.got ++ (w.act lib b a).2) := hid
    rw [batchIds_append, List.mem_append] at hid
    exact hknown (hid.elim (h.got id) (hids id))
  · intro c
    rw [show ((w.act lib b a).1.server.conns c).state.lastGetBatchId = _ from hlast c]
    exact hknown (h.last c)
  · exact hhand

theorem Counted.draw (h : w.Counted) {a : Action}
    (hseq : (w.server.step lib a).1.store.batchIdSeq = w.server.store.batchIdSeq + 1)
    (hids : batchIds (w.act lib b a).2 = [])
    (hlast : ∀ c, ((w.server.step lib a).1.conns c).state.lastGetBatchId =
        (w.server.conns c).state.lastGetBatchId ∨ 0 < w.drawn ∧
      ((w.server.step lib a).1.conns c).state.lastGetBatchId = w.server.store.batchIdSeq)
    (hhand : ∀ c, ((w.server.step lib a).1.conns c).InHand) : (w.act lib b a).1.Counted := by
  have hdrawn : (w.act lib b a).1.drawn = w.drawn + 1 :=
    if_neg (by rw [hseq]; exact id_succ_ne _)
  have hknown : ∀ {id}, w.Known id → (w.act lib b a).1.Known id :=
    fun hid => hid.mono (drawn_le lib b w a)
  constructor
  · rw [hdrawn, nthId_succ, ← h.seq]
    exact hseq
  · rw [hdrawn]
    exact fun _ => Nat.succ_pos _
  · intro id hid
    have hid : id ∈ batchIds (w.got ++ (w.act lib b a).2) := hid
    rw [batchIds_append, hids, List.append_nil] at hid
    exact hknown (h.got id hid)
  · intro c
    rcases hlast c with hold | ⟨h0, hnew⟩
    · rw [show ((w.act lib b a).1.server.conns c).state.lastGetBatchId = _ from hold]
      exact hknown (h.last c)
    · rw [show ((w.act lib b a).1.server.conns c).state.lastGetBatchId = _ from hnew]
      exact .inr ⟨w.drawn, h0, by rw [hdrawn]; exact Nat.lt_succ_self _, h.seq⟩
  · exact hhand

end Observed

theorem Turn.store_of_receive (ht : Turn lib s c (.receive c frame tx) conn ss store es) :
    store = s.store := by
  cases ht with
  | idle | stage | quiet | refused | authenticated | subscribed | acked | rolledBack | awaiting
  | left => rfl

theorem batchIds_messages (sent : List Proto.Messages) :
    batchIds (responses (sent.map Effect.messages)) = sent.map fun m => m.batchId := by
  have hans : ∀ l : List Proto.Messages, answersIn (responses (l.map Effect.messages)) = l := by
    intro l
    induction l with
    | nil => rfl
    | cons m l ih => exact congrArg (m :: ·) ih
  rw [batchIds, hans]

theorem Turn.draws (ht : Turn lib s c a conn ss store es) (h : (s.conns c).InHand) :
    (store = s.store ∧ conn.state.lastGetBatchId = (s.conns c).state.lastGetBatchId ∧
      ∀ id ∈ batchIds (responses es), id = 0 ∨ id = (s.conns c).state.lastGetBatchId) ∨
    (s.store.buffer ≠ [] ∧
      store = { s.store with batchIdSeq := s.store.batchIdSeq + 1 } ∧
      conn.state.lastGetBatchId = s.store.batchIdSeq ∧ responses es = []) := by
  have nothing : ∀ {es : List Effect}, answersIn (responses es) = [] →
      ∀ id ∈ batchIds (responses es), id = 0 ∨ id = (s.conns c).state.lastGetBatchId := by
    intro es hes id hid
    rw [batchIds, hes] at hid
    exact absurd hid List.not_mem_nil
  cases ht with
  | idle | stage | rolledBack | awaiting | acked | timedOut | left =>
    exact .inl ⟨rfl, rfl, nothing rfl⟩
  | quiet hf hw hp unknown acks | refused hf hw hp h3 acks
  | authenticated hf hauth hpw hfilter hp acks | subscribed hf hauth hid hfilter hp acks =>
    exact .inl ⟨rfl, rfl, nothing (answersIn_acks acks)⟩
  | served hg hr hne =>
    right
    rw [MemoryEventStore.lockedRead_eq] at hr
    split at hr
    · cases hr
    rename_i hread
    cases hr
    refine ⟨?_, rfl, rfl, rfl⟩
    intro hb
    rw [hb] at hread
    exact hread (LogPosition.readable_nil _)
  | answered hg hp sent hs =>
    rename_i cid events phase tx
    refine .inl ⟨rfl, rfl, ?_⟩
    intro id hid
    rw [batchIds_messages] at hid
    obtain ⟨m, hm, rfl⟩ := List.mem_map.1 hid
    obtain ⟨hempty, hnumber, -⟩ := hs m hm
    have hhand := h cid events hg
    cases he : events.isEmpty with
    | true =>
      rw [hempty he]
      exact .inl rfl
    | false =>
      rw [he] at hhand
      exact .inr ((hnumber he).trans hhand)

theorem Turn.inHand (ht : Turn lib s c a conn ss store es) (h : (s.conns c).InHand) :
    conn.InHand := by
  cases ht with
  | idle => exact h
  | served hg hr hne =>
    rintro cid events ⟨⟩
    rw [hne]
    rfl
  | timedOut =>
    rintro cid events ⟨⟩
    rfl
  | stage | acked | rolledBack | awaiting | left =>
    intro cid events ha
    cases ha
  | quiet hf hw hq | refused hf hw hq | authenticated hf hauth hpw hfilter hq
  | subscribed hf hauth hid hfilter hq | answered hg hq =>
    exact fun cid events ha => absurd ha (Phase.ne_answer hq)

theorem Connection.InHand.notify {conn : Connection} (h : conn.InHand) : conn.notify.InHand := by
  intro cid events ha
  rw [conn.notify_state]
  exact h cid events (conn.notify_answer.1 ha)

theorem Server.step_inHand (lib : Crates) {s : Server} (h : ∀ c, (s.conns c).InHand) (a : Action)
    (c : Nat) : ((s.step lib a).1.conns c).InHand := by
  rcases s.step_conn lib a c with ⟨-, -, hc | hc⟩ | ⟨-, ht⟩
  · rw [hc]
    exact h c
  · rw [hc]
    exact (h c).notify
  · exact ht.inHand (h c)

namespace Observed

variable {lib : Crates} {b : Nat} {w w' : Observed}

theorem Counted.act (h : w.Counted) (lib : Crates) (b : Nat) (a : Action) :
    (w.act lib b a).1.Counted := by
  have hhand := Server.step_inHand lib h.hand a
  rcases w.server.step_cases lib a with ⟨events, rfl, he⟩ | ⟨c, hc, conn, ss, store, es, ht, he⟩
  · have hrs : (w.act lib b (.putBatch events)).2 = [] := by
      simp only [Observed.act, he]
      rfl
    have hlast : ∀ c, ((w.server.step lib (.putBatch events)).1.conns c).state.lastGetBatchId =
        (w.server.conns c).state.lastGetBatchId := by
      intro c
      have hne : (Action.putBatch events).actor ≠ some c := fun hno => (by cases hno)
      rw [(Server.step_other hne lib w.server).1]
    by_cases hev : events = []
    · subst hev
      apply h.keep
      · rw [he]
        rfl
      · rw [he]
        rfl
      · rw [hrs]
        exact fun id hid => absurd hid List.not_mem_nil
      · exact hlast
      · exact hhand
    · apply h.draw
      · rw [he]
        exact MemoryEventStore.putBatch_seq hev ..
      · rw [hrs]
        rfl
      · exact fun c => .inl (hlast c)
      · exact hhand
  · -- only the turns of connection `b` bring it frames
    have hrs : ∀ id ∈ batchIds (w.act lib b a).2, id ∈ batchIds (responses es) := by
      simp only [Observed.act, he]
      by_cases hcb : c = b
      · subst hcb
        rw [trace_own]
        exact fun id hid => hid
      · rw [trace_other hcb]
        exact fun id hid => absurd hid List.not_mem_nil
    have hself : (w.server.step lib a).1.conns c = conn := by
      rw [he]
      exact Function.update_self c conn w.server.conns
    have hother : ∀ c', c' ≠ c → ((w.server.step lib a).1.conns c').state.lastGetBatchId =
        (w.server.conns c').state.lastGetBatchId := by
      intro c' hne
      rw [Server.step_conn_of_ne hc hne]
    rcases ht.draws (h.hand c) with ⟨hstore, hkept, hids⟩ | ⟨hbuf, hstore, hnew, hsent⟩
    · apply h.keep
      · rw [he]
        exact congrArg MemoryEventStore.batchIdSeq hstore
      · rw [he]
        exact congrArg MemoryEventStore.buffer hstore
      · intro id hid
        rcases hids id (hrs id hid) with rfl | rfl
        · exact .inl rfl
        · exact h.last c
      · intro c'
        by_cases hne : c' = c
        · rw [hne, hself, hkept]
        · exact hother c' hne
      · exact hhand
    · apply h.draw
      · rw [he, hstore]
      · rw [List.eq_nil_iff_forall_not_mem]
        intro id hid
        have hmem := hrs id hid
        rw [hsent] at hmem
        cases hmem
      · intro c'
        by_cases hne : c' = c
        · right
          rw [hne, hself]
          exact ⟨h.stored hbuf, hnew⟩
        · exact .inl (hother c' hne)
      · exact hhand

theorem Counted.step (h : w.Counted) (lib : Crates) (b : Nat) (p : Play) :
    (w.step lib b p).1.Counted := by
  cases p with
  | act a => exact h.act lib b a
  | ackNth i tx =>
    simp only [Observed.step]
    split
    · exact h.act lib b _
    · exact h

theorem final_acts (lib : Crates) (b : Nat) (w : Observed) (as : List Action) :
    (Run.final (step lib b) w (as.map Play.act)).server =
      Run.final (Server.step lib) w.server as := by
  induction as generalizing w with
  | nil => rfl
  | cons a as ih => exact ih _

theorem got_grows (lib : Crates) (b : Nat) (w : Observed) (ps : List Play) :
    w.got <+: (Run.final (step lib b) w ps).got := by
  induction ps generalizing w with
  | nil => exact List.prefix_refl _
  | cons p ps ih =>
    apply List.IsPrefix.trans _ (ih _)
    cases p with
    | act a => exact List.prefix_append ..
    | ackNth i tx =>
      simp only [step]
      split
      · exact List.prefix_append ..
      · exact List.prefix_refl _

end Observed

end Canal
