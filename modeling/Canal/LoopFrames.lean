import Canal.Loop

namespace Canal
set_option autoImplicit true

open Framing

namespace ByteLoop

/-- The state of the level of frames behind a state on bytes. -/
structure Simulates (lib : PeerCrates) (s : ByteLoop) (t : ClientServer) : Prop where
  server : s.host.server = t.server
  task : s.task = .of lib t.task
  up : (∃ r, (t.server.conns 0).phase = .closed r) ∨
    Uplinked lib (s.host.transports 0) s.upstream t.toServer
  down : t.task = .stopped ∨ Downlinked lib s.downstream t.toClient

variable {lib : PeerCrates} {client : CanalClient} {s : ByteLoop} {t : ClientServer}

theorem Simulates.silent (h : Simulates lib s t) (ha : s.host.action lib a = none)
    (upstream : List UInt8)
    (hup : Uplinked lib (s.host.transports 0) s.upstream t.toServer →
      Uplinked lib (s.host.transport lib 0 a) upstream t.toServer) :
    Simulates lib { (s.serve lib a).1 with upstream } t ∧ (s.serve lib a).2 = [] := by
  have hstep : (s.host.step lib a).2 = [] := by simp only [ByteServer.step, ha]
  have hserver : (s.host.step lib a).1.server = s.host.server := by simp only [ByteServer.step, ha]
  refine ⟨⟨hserver.trans h.server, h.task, h.up.imp_right fun hu => ?_, ?_⟩, ?_⟩
  · simp only [serve, ByteServer.step_transports]
    exact hup hu
  · have hnil : downlink lib (responses (trace 0 ([] : List (Nat × Effect)))) = [] := rfl
    simp only [serve, hstep, hnil, List.append_nil]
    exact h.down
  · simp only [serve, hstep, ha]
    rfl

theorem Simulates.idle (h : Simulates lib s t) (ha : s.host.action lib a = none)
    (hup : Uplinked lib (s.host.transports 0) s.upstream t.toServer →
      Uplinked lib (s.host.transport lib 0 a) s.upstream t.toServer) :
    Simulates lib (s.serve lib a).1 t ∧ (s.serve lib a).2 = [] := h.silent ha s.upstream hup

theorem Simulates.served (h : Simulates lib s t) (frames : List Frame)
    (ha : s.host.action lib a = some b)
    (hfit : ∀ r ∈ responses (trace 0 (s.host.step lib a).2), (r.payload lib).length < 2 ^ 32)
    (hup : (∃ r, ((t.server.step lib.toCrates b).1.conns 0).phase = .closed r) ∨
      Uplinked lib (s.host.transport lib 0 a) s.upstream frames) :
    let t' : ClientServer := { t with toServer := frames }
    Simulates lib (s.serve lib a).1 (t'.serve lib.toWireCrates b).1 ∧
      (s.serve lib a).2 = (t'.serve lib.toWireCrates b).2 := by
  intro t'
  have hout : (s.host.step lib a).2 = (t.server.step lib.toCrates b).2 := by
    simp only [ByteServer.step, ha, h.server]
  have hserver : (s.host.step lib a).1.server = (t.server.step lib.toCrates b).1 := by
    simp only [ByteServer.step, ha, h.server]
  refine ⟨⟨hserver, h.task, hup.imp_right fun hu => ?_, h.down.imp_right fun hd => ?_⟩, ?_⟩
  · simp only [serve, ByteServer.step_transports]
    exact hu
  · rw [hout] at hfit
    simp only [serve, ClientServer.serve, hout]
    exact hd.written hfit
  · simp only [serve, ClientServer.serve, hout, h.server, ha, Option.elim_some]
    rfl

/-- What a step on bytes comes to is a run on the level of frames. -/
def Follows (lib : PeerCrates) (client : CanalClient) (t : ClientServer)
    (r : ByteLoop × List Note) : Prop :=
  ∃ ms, Simulates lib r.1 (Run.final (ClientServer.step lib.toWireCrates client) t ms) ∧
    r.2 = Run.outputs (ClientServer.step lib.toWireCrates client) t ms

theorem Follows.still {r : ByteLoop × List Note} (h : Simulates lib r.1 t ∧ r.2 = []) :
    Follows lib client t r := ⟨[], h⟩

theorem Follows.move {r : ByteLoop × List Note} (m : Move)
    (h : Simulates lib r.1 (t.step lib.toWireCrates client m).1 ∧
      r.2 = (t.step lib.toWireCrates client m).2) : Follows lib client t r := by
  refine ⟨[m], h.1, ?_⟩
  rw [Run.outputs, Run.outputs, List.append_nil]
  exact h.2

theorem Simulates.worked (h : Simulates lib s t) (m : Move)
    (hm : t.step lib.toWireCrates client m = t.serve lib.toWireCrates b)
    (ha : s.host.action lib a = some b)
    (hfit : ∀ r ∈ responses (trace 0 (s.host.step lib a).2), (r.payload lib).length < 2 ^ 32)
    (ht : s.host.transport lib 0 a = s.host.transports 0) :
    Follows lib client t (s.serve lib a) := by
  apply Follows.move m
  rw [hm]
  apply h.served t.toServer ha hfit
  rw [ht]
  apply h.up.imp_left
  intro hclosed
  obtain ⟨r, hr⟩ := hclosed
  exact ⟨r, (Server.step_of_closed hr lib.toCrates b).1⟩

theorem Simulates.elsewhere (h : Simulates lib s t) (hb : b.actor ≠ some 0)
    (ha : s.host.action lib a = some b)
    (hfit : ∀ r ∈ responses (trace 0 (s.host.step lib a).2), (r.payload lib).length < 2 ^ 32)
    (ht : s.host.transport lib 0 a = s.host.transports 0) :
    Follows lib client t (s.serve lib a) :=
  h.worked (.elsewhere b) (if_neg hb) ha hfit ht

theorem step_loss_tx (hf : frame.isLoss = true) (lib : Crates) (server : Server)
    (tx : Option CanalError) :
    server.step lib (.receive 0 frame tx) = server.step lib (.receive 0 frame none) := by
  cases frame with
  | endOfStream | idleTimeout | transportError => rfl
  | keepalive | undecodable | packet => cases hf

theorem Simulates.lost (h : Simulates lib s t) (hp : (t.server.conns 0).phase = .frame)
    (hf : frame.isLoss = true) (ha : s.host.action lib a = some (.receive 0 frame tx))
    (hfit : ∀ r ∈ responses (trace 0 (s.host.step lib a).2), (r.payload lib).length < 2 ^ 32) :
    Follows lib client t (s.serve lib a) := by
  apply Follows.move (.lose frame)
  have hm : t.step lib.toWireCrates client (.lose frame) =
      t.serve lib.toWireCrates (.receive 0 frame tx) := by
    simp only [ClientServer.step, hf, ↓reduceIte, ClientServer.serve,
      step_loss_tx hf lib.toCrates t.server tx]
    rfl
  rw [hm]
  exact h.served t.toServer ha hfit (.inl (Server.step_loss hp hf lib.toCrates tx))

theorem simulates_next (hlib : lib.Lawful) (h : Simulates lib s t) (tx : Option CanalError)
    (hfit : ∀ r ∈ responses (trace 0 (s.host.step lib (.next 0 tx)).2),
      (r.payload lib).length < 2 ^ 32) :
    Follows lib client t (s.serve lib (.next 0 tx)) := by
  cases hp : (s.host.server.conns 0).phase with
  | get | answer | closed =>
    apply Follows.still
    apply h.idle
    · simp only [ByteServer.action, ByteServer.read, hp]
    · simp only [ByteServer.transport, ↓reduceIte, hp]
      exact id
  | frame =>
    have ha : s.host.action lib (.next 0 tx) =
        ((s.host.transports 0).next lib).1.map fun frame => .receive 0 frame tx := by
      simp only [ByteServer.action, ByteServer.read, hp]
    have ht : s.host.transport lib 0 (.next 0 tx) = ((s.host.transports 0).next lib).2 := by
      simp only [ByteServer.transport, ↓reduceIte, hp]
    have hp' : (t.server.conns 0).phase = .frame := h.server ▸ hp
    have hu := h.up.resolve_left (by
      intro hclosed
      obtain ⟨r, hr⟩ := hclosed
      cases hp'.symm.trans hr)
    rcases hu.next hlib with ⟨hn, hu'⟩ | ⟨frame, rest, hn, hq, hu'⟩ | ⟨frame, hn, hf⟩
    · rw [hn] at ha
      apply Follows.still
      apply h.idle ha
      rw [ht]
      exact fun _ => hu'
    · rw [hn] at ha
      apply Follows.move (.receive tx)
      have hm : t.step lib.toWireCrates client (.receive tx) =
          ({ t with toServer := rest } : ClientServer).serve lib.toWireCrates
            (.receive 0 frame tx) := by
        simp only [ClientServer.step, hq, hp']
      rw [hm]
      apply h.served rest ha hfit
      rw [ht]
      exact .inr hu'
    · rw [hn] at ha
      exact h.lost hp' hf ha hfit

theorem simulates_host (hlib : lib.Lawful) (h : Simulates lib s t) (a : ByteAction)
    (harrive : ∀ chunk, a ≠ .arrive 0 chunk)
    (hfit : ∀ r ∈ responses (trace 0 (s.host.step lib a).2), (r.payload lib).length < 2 ^ 32) :
    Follows lib client t (s.serve lib a) := by
  -- a read of any connection that leaves the transport of the client alone
  have hread : ∀ {c frame tx}, s.host.action lib a = s.host.read c (some frame) tx →
      s.host.transport lib 0 a = s.host.transports 0 → frame.isLoss = true ∨ c ≠ 0 →
      Follows lib client t (s.serve lib a) := by
    intro c frame tx ha ht hor
    cases hp : (s.host.server.conns c).phase with
    | get | answer | closed =>
      simp only [ByteServer.read, hp] at ha
      apply Follows.still
      apply h.idle ha
      rw [ht]
      exact id
    | frame =>
      simp only [ByteServer.read, hp, Option.map_some] at ha
      by_cases hc : c = 0
      · subst hc
        exact h.lost (h.server ▸ hp) (hor.resolve_right fun hne => hne rfl) ha hfit
      · have hb : (Action.receive c frame tx).actor ≠ some 0 := fun he => hc (Option.some.inj he)
        exact h.elsewhere hb ha hfit ht
  cases a with
  | arrive c chunk =>
    have hc : c ≠ 0 := by
      rintro rfl
      exact harrive chunk rfl
    apply Follows.still
    apply h.idle rfl
    simp only [ByteServer.transport, hc, ↓reduceIte]
    exact id
  | hangUp c =>
    apply Follows.still
    apply h.idle rfl
    by_cases hc : c = 0
    · simp only [ByteServer.transport, hc, ↓reduceIte]
      exact Uplinked.hangUp
    · simp only [ByteServer.transport, hc, ↓reduceIte]
      exact id
  | next c tx =>
    by_cases hc : c = 0
    · subst hc
      exact simulates_next hlib h tx hfit
    · have ht : s.host.transport lib 0 (.next c tx) = s.host.transports 0 := if_neg hc
      cases hn : ((s.host.transports c).next lib).1 with
      | none =>
        apply Follows.still
        apply h.idle
        · simp only [ByteServer.action, hn, ByteServer.read, Option.map_none]
          split <;> rfl
        · rw [ht]
          exact id
      | some frame => exact hread (congrArg (s.host.read c · tx) hn) ht (.inr hc)
  | idle c => exact hread rfl rfl (.inl rfl)
  | abort c e => exact hread rfl rfl (.inl rfl)
  | work b =>
    -- a turn of the client's connection is a move of its own
    have hturn : ∀ {c} (m : Move), b.actor = some c →
        (c = 0 → t.step lib.toWireCrates client m = t.serve lib.toWireCrates b) →
        s.host.action lib (.work b) = some b → Follows lib client t (s.serve lib (.work b)) := by
      intro c m hb hm ha
      by_cases hc : c = 0
      · exact h.worked m (hm hc) ha hfit rfl
      · exact h.elsewhere (fun he => hc (Option.some.inj (hb.symm.trans he))) ha hfit rfl
    cases b with
    | putBatch events =>
      have hb : (Action.putBatch events).actor ≠ some 0 := (Option.some_ne_none 0).symm
      exact h.elsewhere hb rfl hfit rfl
    | receive c frame tx =>
      apply Follows.still
      exact h.idle rfl id
    | arm c => exact hturn .arm rfl (fun hc => by rw [hc]; rfl) rfl
    | check c => exact hturn .check rfl (fun hc => by rw [hc]; rfl) rfl
    | wake c => exact hturn .wake rfl (fun hc => by rw [hc]; rfl) rfl
    | timeout c => exact hturn .timeout rfl (fun hc => by rw [hc]; rfl) rfl
    | answer c tx => exact hturn (.answer tx) rfl (fun hc => by rw [hc]; rfl) rfl

theorem simulates_receive (hlib : lib.Lawful) (h : Simulates lib s t)
    (hr : t.task.reads = true) : Follows lib client t (s.receive lib, []) := by
  have hd := h.down.resolve_left (by
    intro hs
    rw [hs] at hr
    cases hr)
  cases hq : t.toClient with
  | nil =>
    apply Follows.still
    refine ⟨?_, rfl⟩
    have hw : waits s.downstream = true := by
      rw [hd.1, hq]
      rfl
    rw [receive, if_pos hw]
    exact h
  | cons r rs =>
    rw [hq] at hd
    have hsize := hd.2 r (List.mem_cons_self ..)
    have hdown : s.downstream = CanalCodec.encode (r.payload lib) [] ++ downlink lib rs :=
      hd.1.trans (List.flatMap_cons ..)
    have hw : ¬ waits s.downstream = true := by
      rw [hdown, waits_written hsize]
      decide
    rw [receive, if_neg hw]
    rcases Nat.lt_or_ge maxPacketSize (r.payload lib).length with hmax | hmax
    · obtain ⟨e, he⟩ := readPacket_too_large lib hsize hmax (downlink lib rs)
      rw [← hdown] at he
      apply Follows.move (.read false)
      cases hres : readPacket lib.decodePacket s.downstream with
      | mk found rest =>
        rw [hres] at he
        cases he
        simp only [ClientServer.step, hr, ↓reduceIte, Bool.false_eq_true]
        exact ⟨⟨h.server, rfl, h.up, .inl rfl⟩, trivial⟩
    · have hread := readPacket_written hlib (r.packet_type_ne_zero lib) hmax (downlink lib rs)
      rw [← Response.payload, ← hdown] at hread
      apply Follows.move (.read true)
      simp only [ClientServer.step, hr, hq, ↓reduceIte, hread, h.task, ByteTask.got_of hlib hr r]
      exact ⟨⟨h.server, rfl, h.up, .inr ⟨rfl, fun q hq => hd.2 q (List.mem_cons_of_mem _ hq)⟩⟩,
        trivial⟩

theorem simulates_step (hlib : lib.Lawful) (h : Simulates lib s t) (m : ByteMove)
    (hfit : s.Fits lib client m) : Follows lib client t (s.step lib client m) := by
  have hstop : Follows lib client t ({ s with task := .stopped }, []) :=
    .move .abort ⟨⟨h.server, rfl, h.up, .inl rfl⟩, rfl⟩
  cases m with
  | host a =>
    by_cases harr : ∃ chunk, a = .arrive 0 chunk
    · obtain ⟨chunk, rfl⟩ := harr
      exact .still ⟨h, rfl⟩
    · have hs : s.step lib client (.host a) = s.serve lib a := by
        unfold step
        split
        · rename_i chunk heq
          exact absurd ⟨chunk, ByteMove.host.inj heq⟩ harr
        · rename_i heq
          rw [ByteMove.host.inj heq]
        all_goals (rename_i heq; cases heq)
      rw [hs]
      exact simulates_host hlib h a (fun chunk he => harr ⟨chunk, he⟩) hfit
  | deliver n =>
    apply Follows.still
    apply h.silent rfl
    exact fun hu => hu.delivered n
  | send ok =>
    rcases ByteTask.next_of lib client t.task with ⟨hn, hn'⟩ | ⟨r, task, hn, hn'⟩
    · simp only [step, h.task, hn]
      exact .still ⟨h, rfl⟩
    · have hr := hfit (r, .of lib task) (by rw [h.task, hn]; rfl)
      simp only [step, h.task, hn]
      cases ok with
      | false => exact hstop
      | true =>
        apply Follows.move (.send true)
        simp only [ClientServer.step, hn', ↓reduceIte, and_true]
        refine ⟨h.server, rfl, h.up.imp_right fun hu => hu.written hr, .inr ?_⟩
        apply h.down.resolve_left
        intro hs
        rw [hs] at hn'
        cases hn'
  | place consumer =>
    simp only [step, h.task]
    cases ht : t.task with
    | forwarding batchId entries =>
      cases entries with
      | nil => exact .still ⟨h, rfl⟩
      | cons entry entries =>
        cases consumer with
        | false => exact hstop
        | true =>
          apply Follows.move (.place true)
          simp only [ClientServer.step, ht, ↓reduceIte]
          refine ⟨⟨h.server, rfl, h.up, .inr ?_⟩, rfl⟩
          apply h.down.resolve_left
          intro hs
          cases ht.symm.trans hs
    | _ => exact .still ⟨h, rfl⟩
  | read ok =>
    simp only [step, h.task, ByteTask.reads_of]
    cases hr : t.task.reads with
    | false => exact .still ⟨h, rfl⟩
    | true =>
      cases ok with
      | false => exact hstop
      | true => exact simulates_receive hlib h hr
  | abort => exact hstop

/-- The client and the server over a byte stream behave as over two queues of frames: a run on
bytes, cut in any way and with losses at any point, shows what some run on frames shows, and leaves
the server in the same state. -/
theorem refines_frames (hlib : lib.Lawful) (client : CanalClient) (cap : Nat)
    (authToken : Option String) (d : Bool) (ms : List ByteMove)
    (hfit : Run.Along (step lib client) (fun _ s m => s.Fits lib client m)
      (.new cap authToken d) ms) :
    ∃ moves,
      (Run.final (step lib client) (.new cap authToken d) ms).host.server =
        (Run.final (ClientServer.step lib.toWireCrates client) (.new cap authToken d)
          moves).server ∧
      Run.outputs (step lib client) (.new cap authToken d) ms =
        Run.outputs (ClientServer.step lib.toWireCrates client) (.new cap authToken d) moves := by
  have hstart : Simulates lib (.new cap authToken d) (.new cap authToken d) :=
    ⟨rfl, rfl, .inr ⟨[], [], rfl, rfl, fun _ => rfl, nofun⟩, .inr ⟨rfl, nofun⟩⟩
  obtain ⟨moves, hs, ho⟩ := hfit.simulated hstart fun _ s t m h hm => simulates_step hlib h m hm
  exact ⟨moves, hs.server, ho⟩

/-- A client that receives one row and acks it, its requests cut in two. -/
def oneRow : List ByteMove :=
  [.host (.work (.putBatch [storedEvent 100])),
    .send true, .deliver 6, .deliver 100, .host (.next 0 none), .read true,
    .send true, .deliver 6, .deliver 100, .host (.next 0 none), .read true,
    .send true, .deliver 6, .deliver 100, .host (.next 0 none), .host (.work (.arm 0)),
    .host (.work (.check 0)), .host (.work (.answer 0 none)), .read true, .place true,
    .send true, .deliver 6, .deliver 100, .host (.next 0 none)]

theorem oneRow_fits :
    Run.Along (step .protobuf { clientId := 1001 })
      (fun _ s m => s.Fits .protobuf { clientId := 1001 } m) (.new 8 none true) oneRow := by
  intro pre m post he
  have hcheck : Run.check (step .protobuf { clientId := 1001 })
      (fun _ s m => decide (s.Fits .protobuf { clientId := 1001 } m)) [] (.new 8 none true)
      oneRow = true := by decide +kernel
  exact of_decide_eq_true (Run.Along.of_check hcheck pre m post he)

theorem refines_frames_oneRow :
    ∃ moves, Run.outputs (ClientServer.step WireCrates.protobuf { clientId := 1001 })
        (.new 8 none true) moves =
      Run.outputs (step .protobuf { clientId := 1001 }) (.new 8 none true) oneRow := by
  obtain ⟨moves, -, ho⟩ := refines_frames PeerCrates.protobuf_lawful { clientId := 1001 } 8 none
    true oneRow oneRow_fits
  exact ⟨moves, ho.symm⟩

example : (Run.outputs (step .protobuf { clientId := 1001 }) (.new 8 none true) oneRow).getLast? =
    some (.accepted "1001" (.new "mysql-bin.000001" 100)) := by rfl

/-- Acks never run ahead of the consumer on the byte stream either. -/
theorem acks_follow_consumer_on_bytes (hlib : lib.Lawful) (client : CanalClient) (cap : Nat)
    (authToken : Option String) (d : Bool) (ms : List ByteMove)
    (hfit : Run.Along (step lib client) (fun _ s m => s.Fits lib client m)
      (.new cap authToken d) ms) :
    AcksFollow lib.toWireCrates (Run.outputs (step lib client) (.new cap authToken d) ms) := by
  have hstart : Simulates lib (.new cap authToken d) (.new cap authToken d) :=
    ⟨rfl, rfl, .inr ⟨[], [], rfl, rfl, fun _ => rfl, nofun⟩, .inr ⟨rfl, nofun⟩⟩
  obtain ⟨moves, -, ho⟩ := hfit.simulated hstart fun _ s t m h hm => simulates_step hlib h m hm
  have h := Run.history_invariant (ClientServer.step lib.toWireCrates client)
    (.new cap authToken d)
    (I := fun _ notes s => ClientServer.Following lib.toWireCrates notes s) ?_ ?_ moves
  · rw [ho]
    exact h.acks
  · refine ⟨⟨rfl, rfl⟩, .inr (.idle rfl (.inl rfl) rfl), ?_⟩
    intro pre cid pos post he
    cases pre <;> cases he
  · exact fun _ _ _ m h => ClientServer.following_step h client m

theorem acks_follow_consumer_on_bytes_oneRow :
    AcksFollow WireCrates.protobuf
      (Run.outputs (step .protobuf { clientId := 1001 }) (.new 8 none true) oneRow) :=
  acks_follow_consumer_on_bytes PeerCrates.protobuf_lawful { clientId := 1001 } 8 none true oneRow
    oneRow_fits

end ByteLoop

end Canal
