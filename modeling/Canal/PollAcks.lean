import Canal.Following

namespace Canal
set_option autoImplicit true

namespace ClientServer

variable {lib : WireCrates} {notes : List Note} {s : ClientServer}

theorem Following.client (h : Following lib notes s) {t : ClientServer} {ns : List Note}
    (hs : t.server = s.server) (hread : readBatches ns = [])
    (hacc : ∀ cid pos, .accepted cid pos ∉ ns)
    (hl : Lockstep lib notes s.task (s.toServer.filter Frame.isPoll) (s.server.conns 0).phase
        (answersIn s.toClient) →
      Lockstep lib (notes ++ ns) t.task (t.toServer.filter Frame.isPoll)
        (s.server.conns 0).phase (answersIn t.toClient)) : Following lib (notes ++ ns) t := by
  constructor
  · rw [hs, readEvents, readBatches_append, hread, List.append_nil]
    exact h.known
  · rw [hs]
    exact h.lockstep.imp_right hl
  · exact h.acks.append hacc

theorem Following.stop (h : Following lib notes s) :
    Following lib (notes ++ []) { s with task := .stopped } := by
  apply h.client (t := { s with task := .stopped }) rfl rfl fun _ _ => List.not_mem_nil
  intro hl
  rw [List.append_nil]
  exact hl.stop

theorem following_send (h : Following lib notes s) (client : CanalClient) (ok : Bool) :
    Following lib (notes ++ (s.step lib client (.send ok)).2) (s.step lib client (.send ok)).1 := by
  cases hn : s.task.next client with
  | none =>
    simp only [step, hn, List.append_nil]
    exact h
  | some next =>
    obtain ⟨frame, task⟩ := next
    cases ok with
    | false =>
      simp only [step, hn]
      exact h.stop
    | true =>
      simp only [step, hn, ↓reduceIte]
      have hnotes : readBatches (Note.ofFrame frame) = [] ∧
          ∀ cid pos, Note.accepted cid pos ∉ Note.ofFrame frame := by
        unfold Note.ofFrame
        split
        · exact ⟨rfl, fun _ _ hm => nomatch List.mem_singleton.1 hm⟩
        · exact ⟨rfl, fun _ _ => List.not_mem_nil⟩
      apply h.client (t := { s with task, toServer := s.toServer ++ [frame] }) rfl hnotes.1 hnotes.2
      intro hl
      simp only [List.filter_append]
      exact hl.sent hn

theorem following_place (h : Following lib notes s) (client : CanalClient) (consumer : Bool) :
    Following lib (notes ++ (s.step lib client (.place consumer)).2)
      (s.step lib client (.place consumer)).1 := by
  simp only [step]
  split
  · rename_i batchId entry entries ht
    split
    · apply h.client (t := { s with task := .forwarding batchId entries }) rfl rfl
      · exact fun _ _ hm => nomatch List.mem_singleton.1 hm
      · intro hl
        rw [ht] at hl
        exact hl.place
    · exact h.stop
  · rw [List.append_nil]
    exact h

theorem following_read (h : Following lib notes s) (client : CanalClient) (ok : Bool) :
    Following lib (notes ++ (s.step lib client (.read ok)).2) (s.step lib client (.read ok)).1 := by
  simp only [step]
  split
  · rename_i hr
    split
    · split
      · rename_i r rs hq
        apply h.client (t := { s with task := s.task.got r, toClient := rs }) rfl rfl
        · exact fun _ _ => List.not_mem_nil
        · intro hl
          rw [hq] at hl
          exact (hl.read hr).quiet Quiet.nil
      · rw [List.append_nil]
        exact h
    · exact h.stop
  · rw [List.append_nil]
    exact h

theorem following_step (h : Following lib notes s) (client : CanalClient) (m : Move) :
    Following lib (notes ++ (s.step lib client m).2) (s.step lib client m).1 := by
  cases m with
  | elsewhere a =>
    by_cases ha : a.actor = some 0
    · simp only [step, ha, ↓reduceIte, List.append_nil]
      exact h
    · simp only [step, ha, ↓reduceIte]
      exact following_elsewhere h ha
  | send ok => exact following_send h client ok
  | place consumer => exact following_place h client consumer
  | read ok => exact following_read h client ok
  | abort => exact h.stop
  | receive tx =>
    simp only [step]
    split
    · rename_i frame frames hq hp
      exact following_receive h hq hp tx
    · rw [List.append_nil]
      exact h
  | lose frame =>
    simp only [step]
    split
    · rename_i hf
      exact following_lose h hf
    · rw [List.append_nil]
      exact h
  | arm => exact following_call h rfl (Server.call_arm ..)
  | check => exact following_call h rfl (Server.call_check ..)
  | wake => exact following_call h rfl (Server.call_wake ..)
  | timeout => exact following_call h rfl (Server.call_timeout ..)
  | answer tx => exact following_answered h tx

/-- Acks never run ahead of the consumer: in every run, an ack that the server accepts names the
batch read last, and everything read up to it, cut down to what passes the filter, had been placed
on the channel of the consumer, in the order of the reads, before the ack was written. -/
theorem acks_follow_consumer (lib : WireCrates) (client : CanalClient) (cap : Nat)
    (authToken : Option String) (d : Bool) (ms : List Move) :
    AcksFollow lib (Run.outputs (step lib client) (.new cap authToken d) ms) := by
  have h := Run.history_invariant (step lib client) (.new cap authToken d)
    (I := fun _ notes s => Following lib notes s) ?_ ?_ ms
  · exact h.acks
  · refine ⟨⟨rfl, rfl⟩, .inr (.idle rfl (.inl rfl) rfl), ?_⟩
    intro pre cid pos post he
    cases pre <;> cases he
  · exact fun _ _ _ m h => following_step h client m

/-- A client that receives one row and acks it. -/
example : (Run.outputs (step .protobuf { clientId := 1001 }) (.new 8 none true)
    [.elsewhere (.putBatch [storedEvent 100]), .send true, .receive none, .read true, .send true,
      .receive none, .read true, .send true, .receive none, .arm, .check, .answer none,
      .read true, .place true, .send true, .receive none]).getLast? =
    some (.accepted "1001" (.new "mysql-bin.000001" 100)) := by rfl

end ClientServer

end Canal
