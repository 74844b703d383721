import Canal.Observed
import Canal.Release
import Canal.Renumbering
import Canal.Replay

namespace Canal
set_option autoImplicit true

open SessionManager (Agree)

/-- The clients that no connection but `b` has the id of. -/
def Server.Apart (s : Server) (b : Nat) (cid : String) : Prop :=
  ∀ c, c ≠ b → (s.conns c).state.clientId ≠ some cid

/-- For each id that connection `b` has received, and for the zero of an empty answer, whether an
ack of it would count. -/
def Observed.marks (w : Observed) (b : Nat) : List Bool :=
  (0 :: batchIds w.got).map (· == (w.server.conns b).state.lastGetBatchId)

/-- Connection `b` finds and has found the same in both worlds, but for the numbers of batches. -/
structure Observed.Alike (b : Nat) (w w' : Observed) : Prop where
  store : w'.server.store = { w.server.store with batchIdSeq := w'.server.store.batchIdSeq }
  authToken : w'.server.authToken = w.server.authToken
  debugAssertions : w'.server.debugAssertions = w.server.debugAssertions
  state : (w.server.conns b).state.Renumbered (w'.server.conns b).state
  phase : (w'.server.conns b).phase.unnumbered = (w.server.conns b).phase.unnumbered
  sessions : Agree (w.server.Apart b) w.server.sessions w'.server.sessions
  got : w.got.map Response.unnumbered = w'.got.map Response.unnumbered
  marks : w.marks b = w'.marks b
  drawn : w'.drawn ≤ w.drawn

namespace Server

theorem step_debugAssertions (lib : Crates) (s : Server) (a : Action) :
    (s.step lib a).1.debugAssertions = s.debugAssertions := by
  rcases s.step_cases lib a with ⟨events, -, h⟩ | ⟨c', -, conn, ss, store, es, -, h⟩ <;> rw [h]

theorem apart_step {s : Server} {b : Nat} {a : Action} (ha : a.actor.all (· = b) = true)
    (lib : Crates) : (s.step lib a).1.Apart b = s.Apart b := by
  funext cid
  apply propext
  apply forall_congr'
  intro c
  apply imp_congr_right
  intro hc
  have hac : a.actor ≠ some c := by
    intro he
    rw [he, Option.all_some, decide_eq_true_eq] at ha
    exact hc ha
  rw [(step_other hac lib s).1]

end Server

namespace Observed

variable {lib : Crates} {b : Nat} {w w' : Observed}

theorem Alike.act (h : Alike b w w') {a a' : Action} (ha : a.actor.all (· = b) = true)
    (hs : StepAlike b (w.server.Apart b) (w.server.step lib a) (w'.server.step lib a'))
    (hstore : (w'.server.step lib a').1.store = { (w.server.step lib a).1.store with
      batchIdSeq := (w'.server.step lib a').1.store.batchIdSeq })
    (hseq : (w.server.step lib a).1.store.batchIdSeq = w.server.store.batchIdSeq ↔
      (w'.server.step lib a').1.store.batchIdSeq = w'.server.store.batchIdSeq)
    (hmarks : (w.act lib b a).1.marks b = (w'.act lib b a').1.marks b) :
    Alike b (w.act lib b a).1 (w'.act lib b a').1 where
  store := hstore
  authToken := (Server.step_authToken ..).trans (h.authToken.trans (Server.step_authToken ..).symm)
  debugAssertions := (Server.step_debugAssertions ..).trans
    (h.debugAssertions.trans (Server.step_debugAssertions ..).symm)
  state := hs.state
  phase := hs.phase
  sessions := by
    intro cid hcid
    have hcid : (w.server.step lib a).1.Apart b cid := hcid
    rw [Server.apart_step ha] at hcid
    exact hs.sessions cid hcid
  got := by
    simp only [Observed.act, List.map_append, h.got, hs.answers]
  marks := hmarks
  drawn := by
    have hd := h.drawn
    simp only [Observed.act, hseq]
    split
    · exact hd
    · exact Nat.succ_le_succ hd

theorem marks_keep (h : Alike b w w') {a a' : Action}
    (hlast : ((w.server.step lib a).1.conns b).state.lastGetBatchId =
      (w.server.conns b).state.lastGetBatchId)
    (hlast' : ((w'.server.step lib a').1.conns b).state.lastGetBatchId =
      (w'.server.conns b).state.lastGetBatchId)
    (hids : ∃ n id id', batchIds (w.act lib b a).2 = List.replicate n id ∧
      batchIds (w'.act lib b a').2 = List.replicate n id' ∧
      (id == (w.server.conns b).state.lastGetBatchId) =
        (id' == (w'.server.conns b).state.lastGetBatchId)) :
    (w.act lib b a).1.marks b = (w'.act lib b a').1.marks b := by
  obtain ⟨n, id, id', hids, hids', hid⟩ := hids
  have hm := h.marks
  have hgot : (w.act lib b a).1.got = w.got ++ (w.act lib b a).2 := rfl
  have hgot' : (w'.act lib b a').1.got = w'.got ++ (w'.act lib b a').2 := rfl
  simp only [marks, hgot, hgot', batchIds_append, hids, hids', List.map_cons, List.map_append,
    List.map_replicate] at hm ⊢
  have hconn : (w.act lib b a).1.server = (w.server.step lib a).1 := rfl
  have hconn' : (w'.act lib b a').1.server = (w'.server.step lib a').1 := rfl
  rw [hconn, hconn', hlast, hlast']
  obtain ⟨hzero, hrest⟩ := List.cons.inj hm
  rw [hzero, hrest, hid]

theorem Alike.zero (h : Alike b w w') : (0 == (w.server.conns b).state.lastGetBatchId) =
    (0 == (w'.server.conns b).state.lastGetBatchId) := (List.cons.inj h.marks).1

theorem Alike.frame_iff (h : Alike b w w') :
    (w'.server.conns b).phase = .frame ↔ (w.server.conns b).phase = .frame := by
  rw [← Phase.unnumbered_frame, h.phase, Phase.unnumbered_frame]

end Observed

namespace MemoryEventStore

theorem putBatch_renumbered (d : Bool) (s : MemoryEventStore) (n : Int64)
    (events : List CanalEvent) :
    let o := s.putBatch d events
    let o' := ({ s with batchIdSeq := n } : MemoryEventStore).putBatch d events
    o'.store = { o.store with batchIdSeq := o'.store.batchIdSeq } ∧ o'.notified = o.notified := by
  have hdrain : ({ s with batchIdSeq := n } : MemoryEventStore).drainCount events.length =
      s.drainCount events.length := rfl
  have hskip : ({ s with batchIdSeq := n } : MemoryEventStore).skipCount events.length =
      s.skipCount events.length := rfl
  unfold putBatch
  cases events.isEmpty with
  | true => exact ⟨rfl, rfl⟩
  | false =>
    simp only [hdrain, hskip, Bool.false_eq_true, ↓reduceIte]
    generalize (events.drop (s.skipCount events.length)).head? = first
    generalize (events.drop (s.skipCount events.length)).getLast? = last
    cases first with
    | none => exact ⟨rfl, rfl⟩
    | some first =>
      cases last with
      | none => exact ⟨rfl, rfl⟩
      | some last =>
        simp only
        split
        · exact ⟨rfl, rfl⟩
        · exact ⟨rfl, rfl⟩

end MemoryEventStore

namespace Observed

variable {lib : Crates} {b : Nat} {w w' : Observed}

theorem notify_unnumbered (conn : Connection) : conn.notify.phase.unnumbered =
    match conn.phase.unnumbered with
    | .get cid call => .get cid call.notify
    | phase => phase := by
  cases conn with
  | mk st phase => cases phase <;> rfl

theorem Alike.put (h : Alike b w w') (events : List CanalEvent) :
    Alike b (w.act lib b (.putBatch events)).1 (w'.act lib b (.putBatch events)).1 := by
  have hput := MemoryEventStore.putBatch_renumbered w.server.debugAssertions w.server.store
    w'.server.store.batchIdSeq events
  rw [← h.store] at hput
  obtain ⟨hstore, hnotified⟩ := hput
  have hconn : ∀ s : Server, (s.step lib (.putBatch events)).1.conns b =
      if (s.store.putBatch s.debugAssertions events).notified then (s.conns b).notify
      else s.conns b := by
    intro s
    simp only [Server.step]
    split <;> rfl
  have hlast : ∀ s : Server, ((s.step lib (.putBatch events)).1.conns b).state =
      (s.conns b).state := by
    intro s
    rw [hconn]
    split
    · exact Connection.notify_state _
    · rfl
  apply h.act rfl
  · constructor
    · rw [hlast, hlast]
      exact h.state
    · rw [hconn, hconn, h.debugAssertions, hnotified]
      split
      · rw [notify_unnumbered, notify_unnumbered, h.phase]
      · exact h.phase
    · exact h.sessions
    · rfl
  · simp only [Server.step, h.debugAssertions]
    exact hstore
  · by_cases he : events = []
    · subst he
      exact ⟨fun _ => rfl, fun _ => rfl⟩
    · simp only [Server.step, MemoryEventStore.putBatch_seq he]
      exact ⟨fun hs => absurd hs (id_succ_ne _), fun hs => absurd hs (id_succ_ne _)⟩
  · exact marks_keep h (by rw [hlast]) (by rw [hlast]) ⟨0, 0, 0, rfl, rfl, h.zero⟩

/-- What is assumed of connection `b` where it moves: its own client id is nobody else's. -/
structure Own (b : Nat) (w : Observed) : Prop where
  authenticated : (w.server.conns b).state.authenticated = true →
    ∃ cid, (w.server.conns b).state.clientId = some cid
  call : ∀ cid call, (w.server.conns b).phase = .get cid call →
    (w.server.conns b).state.clientId = some cid
  answer : ∀ cid events, (w.server.conns b).phase = .answer cid events →
    (w.server.conns b).state.clientId = some cid
  apart : ∀ cid, (w.server.conns b).state.clientId = some cid → w.server.Apart b cid

theorem Alike.turn (h : Alike b w w') {a a' : Action} (ha : a.actor = some b)
    (hs : StepAlike b (w.server.Apart b) (w.server.step lib a) (w'.server.step lib a'))
    (hst : (w.server.step lib a).1.store = w.server.store)
    (hst' : (w'.server.step lib a').1.store = w'.server.store)
    (hmarks : (w.act lib b a).1.marks b = (w'.act lib b a').1.marks b) :
    Alike b (w.act lib b a).1 (w'.act lib b a').1 := by
  apply h.act (by rw [ha]; exact decide_eq_true rfl) hs _ _ hmarks
  · rw [hst, hst']
    exact h.store
  · exact iff_of_true (congrArg _ hst) (congrArg _ hst')

theorem Alike.idle (h : Alike b w w') {a a' : Action} (ha : a.actor = some b)
    (hs : w.server.step lib a = (w.server, [])) (hs' : w'.server.step lib a' = (w'.server, [])) :
    Alike b (w.act lib b a).1 (w'.act lib b a').1 := by
  apply h.turn ha
  · rw [hs, hs']
    exact ⟨h.state, h.phase, h.sessions, rfl⟩
  · rw [hs]
  · rw [hs']
  · apply marks_keep h
    · rw [hs]
    · rw [hs']
    · refine ⟨0, 0, 0, ?_, ?_, h.zero⟩
      · simp only [Observed.act, hs]
        rfl
      · simp only [Observed.act, hs']
        rfl

theorem Alike.stage (h : Alike b w w') {a a' : Action} {stage : GetBatchStage}
    (ha : a.actor = some b)
    (hs : w.server.step lib a = (w.server.setStage b cid call stage, []))
    (hs' : w'.server.step lib a' = (w'.server.setStage b cid call stage, [])) :
    Alike b (w.act lib b a).1 (w'.act lib b a').1 := by
  have hlast : ∀ s : Server, ((s.setStage b cid call stage).conns b).state = (s.conns b).state := by
    intro s
    simp only [Server.setStage, Server.setConn, Function.update_self]
  apply h.turn ha
  · rw [hs, hs']
    exact Server.setConn_alike h.sessions h.state _
  · rw [hs]
    rfl
  · rw [hs']
    rfl
  · apply marks_keep h
    · rw [hs, hlast]
    · rw [hs', hlast]
    · refine ⟨0, 0, 0, ?_, ?_, h.zero⟩
      · simp only [Observed.act, hs]
        rfl
      · simp only [Observed.act, hs']
        rfl

theorem receive_keeps (lib : Crates) {w : Observed} (hp : (w.server.conns b).phase = .frame)
    (frame : Frame) (tx : Option CanalError) :
    (w.server.step lib (.receive b frame tx)).1.store = w.server.store ∧
      ((w.server.step lib (.receive b frame tx)).1.conns b).state.lastGetBatchId =
        (w.server.conns b).state.lastGetBatchId ∧
      batchIds (w.act lib b (.receive b frame tx)).2 = [] := by
  have ht := ((w.server.step_conn lib (.receive b frame tx) b).resolve_left
    fun hno => hno.1 rfl).2
  obtain ⟨hans, hlast, -⟩ := ht.keeps_last hp
  exact ⟨ht.store_of_receive, hlast, congrArg _ hans⟩

theorem Alike.read (h : Alike b w w') (hp : (w.server.conns b).phase = .frame)
    {frame frame' : Frame} {tx : Option CanalError}
    (hs : StepAlike b (w.server.Apart b) (w.server.step lib (.receive b frame tx))
      (w'.server.step lib (.receive b frame' tx))) :
    Alike b (w.act lib b (.receive b frame tx)).1 (w'.act lib b (.receive b frame' tx)).1 := by
  obtain ⟨hst, hlast, hids⟩ := receive_keeps lib hp frame tx
  obtain ⟨hst', hlast', hids'⟩ := receive_keeps lib (h.frame_iff.2 hp) frame' tx
  exact h.turn rfl hs hst hst' (marks_keep h hlast hlast' ⟨0, 0, 0, hids, hids', h.zero⟩)

theorem Alike.receive (h : Alike b w w') (ho : Own b w) (frame : Frame)
    (hack : ∀ ack, frame ≠ .packet (.clientAck (.ok ack))) (tx : Option CanalError) :
    Alike b (w.act lib b (.receive b frame tx)).1 (w'.act lib b (.receive b frame tx)).1 := by
  by_cases hp : (w.server.conns b).phase = .frame
  · have hp' := h.frame_iff.2 hp
    apply h.read hp
    simp only [Server.step, hp, hp']
    apply Server.receive_alike h.sessions h.state hp hp' _ _ h.authToken frame hack tx
    · intro hauth
      obtain ⟨cid, hcid⟩ := ho.authenticated hauth
      exact ⟨cid, hcid, ho.apart cid hcid⟩
    · rw [h.store]
  · exact h.idle rfl (Server.step_receive_idle lib _ _ hp)
      (Server.step_receive_idle lib _ _ (mt h.frame_iff.1 hp))

theorem Alike.ack (h : Alike b w w') {id id' : Int64}
    (hid : id = (w.server.conns b).state.lastGetBatchId ↔
      id' = (w'.server.conns b).state.lastGetBatchId) (tx : Option CanalError) :
    Alike b (w.act lib b (.receive b (.ack id) tx)).1
      (w'.act lib b (.receive b (.ack id') tx)).1 := by
  by_cases hp : (w.server.conns b).phase = .frame
  · have hp' := h.frame_iff.2 hp
    apply h.read hp
    have hauth' : (w'.server.conns b).state.authenticated =
        (w.server.conns b).state.authenticated := by rw [h.state]
    cases hauth : (w.server.conns b).state.authenticated with
    | false =>
      have hne : ∀ id body,
          Packet.clientAck (.ok { batchId := id }) ≠ .clientAuthentication body := by
        intro id body he
        cases he
      simp only [Server.step, hp, hp', Server.receive, Frame.ack,
        handlePacket_unauthenticated hauth (hne id),
        handlePacket_unauthenticated (hauth'.trans hauth) (hne id')]
      apply Server.settle_alike
      have hq := Outcome.Alike.quiet h.sessions (w.server.conns b).state
        (w'.server.conns b).state.lastGetBatchId []
      rw [← h.state] at hq
      exact hq.send tx rfl
    | true =>
      rw [Frame.ack, Frame.ack, Server.step_ack hp hauth, Server.step_ack hp' (hauth'.trans hauth)]
      apply Server.settle_alike
      have hack := handleClientAck_alike h.sessions
        { (w.server.conns b).state with unknownPacketCount := 0 }
        (w'.server.conns b).state.lastGetBatchId { batchId := id } { batchId := id' } hid
      have hst := h.state
      unfold ClientState.Renumbered at hst
      rw [hst]
      exact hack
  · exact h.idle rfl (Server.step_receive_idle lib _ _ hp)
      (Server.step_receive_idle lib _ _ (mt h.frame_iff.1 hp))

end Observed

end Canal
