import Canal.Chunking
import Canal.PollLoop
import Canal.Release
import Canal.Requests

namespace Canal
set_option autoImplicit true

open Framing

/-- The coders `prost` generates for the packets, the requests and the answers. -/
structure PeerCrates extends WireCrates where
  decodePacket : List UInt8 → Decoded Proto.Packet
  encodeClientAuth : Proto.ClientAuth → List UInt8
  decodeClientAuth : List UInt8 → Decoded Proto.ClientAuth
  encodeSub : Sub → List UInt8
  decodeSub : List UInt8 → Decoded Sub
  encodeGet : Proto.Get → List UInt8
  decodeGet : List UInt8 → Decoded Proto.Get
  encodeClientAck : Proto.ClientAck → List UInt8
  decodeClientAck : List UInt8 → Decoded Proto.ClientAck
  encodeClientRollback : Proto.ClientAck → List UInt8
  decodeClientRollback : List UInt8 → Decoded Proto.ClientAck
  encodeAck : Proto.Ack → List UInt8
  decodeAck : List UInt8 → Decoded Proto.Ack
  decodeMessages : List UInt8 → Decoded Proto.RawMessages

/-- Decoding undoes encoding, and a packet with a type is not empty. -/
structure PeerCrates.Lawful (lib : PeerCrates) : Prop where
  wire : lib.toWireCrates.Lawful
  packet : ∀ p, lib.decodePacket (lib.encodePacket p) = .ok (.ofRaw p)
  typed : ∀ p : Proto.RawPacket, p.type ≠ 0 → lib.encodePacket p ≠ []
  clientAuth : ∀ m, lib.decodeClientAuth (lib.encodeClientAuth m) = .ok m
  sub : ∀ m, lib.decodeSub (lib.encodeSub m) = .ok m
  get : ∀ m, lib.decodeGet (lib.encodeGet m) = .ok m
  clientAck : ∀ m, lib.decodeClientAck (lib.encodeClientAck m) = .ok m
  clientRollback : ∀ m, lib.decodeClientRollback (lib.encodeClientRollback m) = .ok m
  ack : ∀ m, lib.decodeAck (lib.encodeAck m) = .ok m
  messages : ∀ m, lib.decodeMessages (lib.encodeMessages m) = .ok m

/-- The crates with the coders of the schemas. -/
def PeerCrates.protobuf : PeerCrates :=
  { WireCrates.protobuf with
    decodePacket := Schema.decoded Schema.wholePacket
    encodeClientAuth := Schema.clientAuth.encode
    decodeClientAuth := Schema.decoded Schema.clientAuth
    encodeSub := Schema.sub.encode
    decodeSub := Schema.decoded Schema.sub
    encodeGet := Schema.get.encode
    decodeGet := Schema.decoded Schema.get
    encodeClientAck := Schema.clientAck.encode
    decodeClientAck := Schema.decoded Schema.clientAck
    encodeClientRollback := Schema.clientAck.encode
    decodeClientRollback := Schema.decoded Schema.clientAck
    encodeAck := Schema.ack.encode
    decodeAck := Schema.decoded Schema.ack
    decodeMessages := Schema.decoded Schema.messages }

theorem PeerCrates.protobuf_lawful : PeerCrates.protobuf.Lawful where
  wire := WireCrates.protobuf_lawful
  packet p := Schema.decoded_encode Schema.wholePacket_lawful (.ofRaw p)
  typed p hp hnil := by
    have hf : some (Schema.packet.fields p) = some [] :=
      (Protobuf.decode_encode _).symm.trans (congrArg Protobuf.decode hnil)
    simp [Schema.packet, Protobuf.scalar, hp] at hf
  clientAuth := Schema.decoded_encode Schema.clientAuth_lawful
  sub := Schema.decoded_encode Schema.sub_lawful
  get := Schema.decoded_encode Schema.get_lawful
  clientAck := Schema.decoded_encode Schema.clientAck_lawful
  clientRollback := Schema.decoded_encode Schema.clientAck_lawful
  ack := Schema.decoded_encode Schema.ack_lawful
  messages := Schema.decoded_encode Schema.messages_lawful

/-- The branch of `handle_client` for a packet, with what its handler makes of the body. -/
def Packet.ofProto (lib : PeerCrates) (p : Proto.Packet) : Packet :=
  if p.type = Proto.packetTypeClientauthentication then
    .clientAuthentication ((lib.decodeClientAuth p.body).map Proto.ClientAuth.read)
  else if p.type = Proto.packetTypeSubscription then .subscription (lib.decodeSub p.body)
  else if p.type = Proto.packetTypeGet then .get ((lib.decodeGet p.body).map Proto.Get.read)
  else if p.type = Proto.packetTypeClientack then
    .clientAck ((lib.decodeClientAck p.body).map Proto.ClientAck.read)
  else if p.type = Proto.packetTypeClientrollback then
    .clientRollback ((lib.decodeClientRollback p.body).map fun _ => ())
  else if p.type = Proto.packetTypeHeartbeat then .heartbeat
  else .unknown p.type

/-- What `handle_client` makes of the bytes of a frame. -/
def Frame.ofBytes (lib : PeerCrates) (bytes : List UInt8) : Frame :=
  if bytes.isEmpty then .keepalive
  else match lib.decodePacket bytes with
    | .error message => .undecodable message
    | .ok p => .packet (.ofProto lib p)

/-- The read half of a `Framed`: what has arrived and has not been taken, and whether the peer has
ended its stream. -/
structure Transport where
  buffer : List UInt8 := []
  ended : Bool := false
deriving DecidableEq

namespace Transport

def arrive (t : Transport) (chunk : List UInt8) : Transport :=
  if t.ended then t else { t with buffer := t.buffer ++ chunk }

def hangUp (t : Transport) : Transport := { t with ended := true }

/-- `transport.next()`, if it is ready: with the provided `decode_eof`, bytes that are no whole
frame fail at the end of the stream. -/
def next (lib : PeerCrates) (t : Transport) : Option Frame × Transport :=
  match CanalCodec.decode t.buffer with
  | (.ok (some bytes), buffer) => (some (.ofBytes lib bytes), { t with buffer })
  | (.error e, buffer) => (some (.transportError e), { t with buffer })
  | (.ok none, buffer) =>
    if !t.ended then (none, { t with buffer })
    else if buffer.isEmpty then (some .endOfStream, { t with buffer })
    else (some (.transportError (.io "bytes remaining on stream")), { t with buffer })

end Transport

/-- A step of one party: bytes of a peer arrive, the task of a connection polls its transport, or
one of the steps of the server that read no frame. -/
inductive ByteAction
  | arrive (c : Nat) (chunk : List UInt8)
  | hangUp (c : Nat)
  | next (c : Nat) (tx : Option CanalError)
  | idle (c : Nat)
  | abort (c : Nat) (e : CanalError)
  | work (a : Action)

/-- Each connection has the read half of a `Framed`, and a turn of its loop begins with a poll of
it. -/
structure ByteServer where
  server : Server
  transports : Nat → Transport := fun _ => {}

namespace ByteServer

/-- The frame that connection `c` is handed if its task is in front of one. -/
def read (s : ByteServer) (c : Nat) (frame : Option Frame) (tx : Option CanalError) :
    Option Action :=
  match (s.server.conns c).phase with
  | .frame => frame.map fun frame => .receive c frame tx
  | _ => none

/-- The step of the server behind a step on bytes. -/
def action (lib : PeerCrates) (s : ByteServer) : ByteAction → Option Action
  | .arrive _ _ => none
  | .hangUp _ => none
  | .next c tx => s.read c ((s.transports c).next lib).1 tx
  | .idle c => s.read c (some .idleTimeout) none
  | .abort c e => s.read c (some (.transportError e)) none
  | .work (.receive ..) => none
  | .work a => some a

/-- The transport of connection `c` after a step. -/
def transport (lib : PeerCrates) (s : ByteServer) (c : Nat) : ByteAction → Transport
  | .arrive c' chunk => if c' = c then (s.transports c).arrive chunk else s.transports c
  | .hangUp c' => if c' = c then (s.transports c).hangUp else s.transports c
  | .next c' _ =>
    if c' = c then
      match (s.server.conns c).phase with
      | .frame => ((s.transports c).next lib).2
      | _ => s.transports c
    else s.transports c
  | _ => s.transports c

def step (lib : PeerCrates) (s : ByteServer) (a : ByteAction) :
    ByteServer × List (Nat × Effect) :=
  let transports := fun c => s.transport lib c a
  match s.action lib a with
  | none => ({ s with transports }, [])
  | some action =>
    let r := s.server.step lib.toCrates action
    ({ server := r.1, transports }, r.2)

/-- The steps of the server along a run on bytes. -/
def actions (lib : PeerCrates) (s : ByteServer) : List ByteAction → List Action
  | [] => []
  | a :: as => (s.action lib a).toList ++ actions lib (s.step lib a).1 as

theorem actions_concat (lib : PeerCrates) (s : ByteServer) (as : List ByteAction)
    (a : ByteAction) : s.actions lib (as ++ [a]) =
      s.actions lib as ++ ((Run.final (step lib) s as).action lib a).toList := by
  induction as generalizing s with
  | nil => exact List.append_nil _
  | cons b as ih => simp only [List.cons_append, actions, ih, Run.final, List.append_assoc]

theorem step_server (lib : PeerCrates) (s : ByteServer) (a : ByteAction) :
    (s.step lib a).1.server =
        Run.final (Server.step lib.toCrates) s.server (s.action lib a).toList ∧
      (s.step lib a).2 =
        Run.outputs (Server.step lib.toCrates) s.server (s.action lib a).toList := by
  unfold step
  cases s.action lib a with
  | none => exact ⟨rfl, rfl⟩
  | some action =>
    refine ⟨rfl, ?_⟩
    rw [Option.toList_some, Run.outputs, Run.outputs, List.append_nil]

theorem step_transports (lib : PeerCrates) (s : ByteServer) (a : ByteAction) (c : Nat) :
    (s.step lib a).1.transports c = s.transport lib c a := by
  unfold step
  cases s.action lib a with
  | none => rfl
  | some action => rfl

end ByteServer

/-- The stream of a peer after a step. -/
def Transport.deliver (c : Nat) (t : Transport) : ByteAction → Transport
  | .arrive c' chunk => if c' = c then t.arrive chunk else t
  | .hangUp c' => if c' = c then t.hangUp else t
  | _ => t

/-- The stream of the peer of connection `c`, with nothing taken off it. -/
def peerStream (c : Nat) (as : List ByteAction) : Transport := as.foldl (Transport.deliver c) {}

/-- The frames that connection `c` is handed. -/
def handed (c : Nat) (as : List Action) : List Frame :=
  as.filterMap fun
    | .receive c' frame _ => if c' = c then some frame else none
    | _ => none

@[simp] theorem handed_append (c : Nat) (as bs : List Action) :
    handed c (as ++ bs) = handed c as ++ handed c bs := List.filterMap_append ..

/-- What the read after `n` frames of a stream finds. -/
def Transport.nth (lib : PeerCrates) (stream : Transport) (n : Nat) : Option Frame :=
  let r := readChunks [stream.buffer]
  match r.items[n]?, r.failure with
  | some bytes, _ => some (.ofBytes lib bytes)
  | none, some e => some (.transportError e)
  | none, none =>
    if !stream.ended then none
    else if r.buffer.isEmpty then some .endOfStream
    else some (.transportError (.io "bytes remaining on stream"))

theorem Server.step_loss {s : Server} (hp : (s.conns c).phase = .frame) (hf : frame.isLoss = true)
    (lib : Crates) (tx : Option CanalError) :
    ∃ r, ((s.step lib (.receive c frame tx)).1.conns c).phase = .closed r := by
  cases frame with
  | endOfStream | idleTimeout =>
    simp only [step, hp, receive, leave]
    cases (s.conns c).state.clientId <;> exact ⟨.ok (), by simp [setConn]⟩
  | transportError e => exact ⟨.error e, by simp [step, hp, receive, setConn]⟩
  | keepalive | undecodable | packet => cases hf

theorem handed_own (c : Nat) (frame : Frame) (tx : Option CanalError) :
    handed c [.receive c frame tx] = [frame] := by
  simp [handed]

theorem CanalCodec.decode_error_keeps (hd : decode src = (.error e, r)) : r = src := by
  cases head src with
  | short h => cases (decode_short h).symm.trans hd
  | empty h => cases (decode_empty h _).symm.trans hd
  | large h =>
    cases (decode_large h _).symm.trans hd
    rfl
  | begun h0 hmax h => cases (decode_begun h0 hmax h).symm.trans hd
  | whole h0 hmax h => cases (decode_whole h0 hmax h).symm.trans hd

/-- What connection `c` has been handed of the stream of its peer: whole frames in order and at most
one end, after which its task is over. -/
structure ByteServer.Fed (lib : PeerCrates) (s : ByteServer) (c : Nat) (stream : Transport)
    (frames : List Frame) : Prop where
  ended : (s.transports c).ended = stream.ended
  order : ∃ bodies last, frames = bodies.map (Frame.ofBytes lib) ++ last ∧
    Taken CanalCodec.decode stream.buffer bodies (s.transports c).buffer ∧
    (last = [] ∨ (∃ frame, last = [frame] ∧ frame.isLoss = true) ∧
      ∃ r, (s.server.conns c).phase = .closed r)

namespace ByteServer

variable {lib : PeerCrates} {s : ByteServer}

theorem handed_read (s : ByteServer) (hc : c' ≠ c) (frame : Option Frame)
    (tx : Option CanalError) : handed c (s.read c' frame tx).toList = [] := by
  unfold read
  cases (s.server.conns c').phase with
  | get | answer | closed => rfl
  | frame =>
    cases frame with
    | none => rfl
    | some frame => simp [handed, hc]

theorem Fed.other (h : s.Fed lib c stream frames)
    (ht : (s.step lib a).1.transports c = s.transports c)
    (ha : handed c (s.action lib a).toList = []) :
    (s.step lib a).1.Fed lib c stream (frames ++ handed c (s.action lib a).toList) := by
  obtain ⟨bodies, last, rfl, htaken, hlast⟩ := h.order
  rw [ha, List.append_nil]
  refine ⟨by rw [ht]; exact h.ended, bodies, last, rfl, by rw [ht]; exact htaken, ?_⟩
  refine hlast.imp_right fun hclosed => ⟨hclosed.1, ?_⟩
  obtain ⟨r, hr⟩ := hclosed.2
  rw [(step_server lib s a).1]
  cases s.action lib a with
  | none => exact ⟨r, hr⟩
  | some action => exact ⟨r, (Server.step_of_closed hr lib.toCrates action).1⟩

theorem Fed.loss (h : s.Fed lib c stream frames) (hp : (s.server.conns c).phase = .frame)
    (ha : s.action lib a = some (.receive c frame tx)) (hf : frame.isLoss = true)
    (he : ((s.step lib a).1.transports c).ended = (s.transports c).ended)
    (hb : ((s.step lib a).1.transports c).buffer = (s.transports c).buffer) :
    (s.step lib a).1.Fed lib c stream (frames ++ handed c (s.action lib a).toList) := by
  obtain ⟨bodies, last, rfl, htaken, hlast⟩ := h.order
  have hnil : last = [] := by
    rcases hlast with hlast | ⟨-, r, hr⟩
    · exact hlast
    · cases hp.symm.trans hr
  rw [ha, Option.toList_some, handed_own, hnil, List.append_nil]
  refine ⟨he.trans h.ended, bodies, [frame], rfl, hb ▸ htaken, .inr ⟨⟨frame, rfl, hf⟩, ?_⟩⟩
  rw [(step_server lib s a).1, ha]
  exact Server.step_loss hp hf lib.toCrates tx

theorem Fed.next (h : s.Fed lib c stream frames) (hp : (s.server.conns c).phase = .frame)
    (tx : Option CanalError) :
    (s.step lib (.next c tx)).1.Fed lib c stream
      (frames ++ handed c (s.action lib (.next c tx)).toList) := by
  have ht : (s.step lib (.next c tx)).1.transports c = ((s.transports c).next lib).2 := by
    simp only [step_transports, transport, hp, ↓reduceIte]
  have ha : s.action lib (.next c tx) =
      ((s.transports c).next lib).1.map fun frame => .receive c frame tx := by
    simp only [action, read, hp]
  unfold Transport.next at ht ha
  cases hd : CanalCodec.decode (s.transports c).buffer with
  | mk found buffer =>
    rw [hd] at ht ha
    cases found with
    | error e =>
      have hb : buffer = (s.transports c).buffer := CanalCodec.decode_error_keeps hd
      exact h.loss hp ha rfl (by rw [ht]) (by rw [ht]; exact hb)
    | ok found =>
      cases found with
      | some bytes =>
        obtain ⟨bodies, last, rfl, htaken, hlast⟩ := h.order
        have hnil : last = [] := by
          rcases hlast with hlast | ⟨-, r, hr⟩
          · exact hlast
          · cases hp.symm.trans hr
        simp only [Option.map_some] at ha
        rw [ha, Option.toList_some, handed_own, hnil, List.append_nil]
        refine ⟨by rw [ht]; exact h.ended, bodies ++ [bytes], [], ?_, ?_, .inl rfl⟩
        · rw [List.map_append, List.map_singleton, List.append_nil]
        · rw [ht]
          exact htaken.concat CanalCodec.incremental hd
      | none =>
        have hb : buffer = (s.transports c).buffer := CanalCodec.incremental.keeps hd
        simp only at ht ha
        split at ht
        · rename_i hopen
          rw [if_pos hopen] at ha
          apply h.other
          · rw [ht, hb]
          · rw [ha]
            rfl
        · rename_i hopen
          rw [if_neg hopen] at ha
          split at ht
          · rename_i hempty
            rw [if_pos hempty] at ha
            exact h.loss hp ha rfl (by rw [ht]) (by rw [ht]; exact hb)
          · rename_i hempty
            rw [if_neg hempty] at ha
            exact h.loss hp ha rfl (by rw [ht]) (by rw [ht]; exact hb)

theorem fed_step (h : s.Fed lib c stream frames) (a : ByteAction) :
    (s.step lib a).1.Fed lib c (stream.deliver c a)
      (frames ++ handed c (s.action lib a).toList) := by
  have hquiet : ∀ {a}, s.transport lib c a = s.transports c → stream.deliver c a = stream →
      handed c (s.action lib a).toList = [] → (s.step lib a).1.Fed lib c (stream.deliver c a)
        (frames ++ handed c (s.action lib a).toList) := by
    intro a ht hs ha
    rw [hs]
    exact h.other ((step_transports lib s a c).trans ht) ha
  cases a with
  | arrive c' chunk =>
    by_cases hc : c' = c
    · subst hc
      obtain ⟨bodies, last, rfl, htaken, hlast⟩ := h.order
      have ht : (s.step lib (.arrive c' chunk)).1.transports c' = (s.transports c').arrive chunk :=
        (step_transports ..).trans (if_pos rfl)
      have hs : stream.deliver c' (.arrive c' chunk) = stream.arrive chunk := if_pos rfl
      rw [hs]
      have ha : handed c' (s.action lib (.arrive c' chunk)).toList = [] := rfl
      rw [ha, List.append_nil]
      have hended := h.ended
      unfold Transport.arrive at ht ⊢
      rw [hended] at ht
      cases he : stream.ended with
      | true =>
        rw [he, if_pos rfl] at ht
        rw [if_pos rfl]
        exact ⟨by rw [ht, hended, he], bodies, last, rfl, by rw [ht]; exact htaken, hlast⟩
      | false =>
        rw [he, if_neg Bool.false_ne_true] at ht
        rw [if_neg Bool.false_ne_true]
        exact ⟨by rw [ht], bodies, last, rfl, by rw [ht]; exact htaken.more chunk, hlast⟩
    · exact hquiet (if_neg hc) (if_neg hc) rfl
  | hangUp c' =>
    by_cases hc : c' = c
    · subst hc
      obtain ⟨bodies, last, rfl, htaken, hlast⟩ := h.order
      have ht : (s.step lib (.hangUp c')).1.transports c' = (s.transports c').hangUp :=
        (step_transports ..).trans (if_pos rfl)
      have hs : stream.deliver c' (.hangUp c') = stream.hangUp := if_pos rfl
      rw [hs]
      have ha : handed c' (s.action lib (.hangUp c')).toList = [] := rfl
      rw [ha, List.append_nil]
      exact ⟨by rw [ht]; rfl, bodies, last, rfl, by rw [ht]; exact htaken, hlast⟩
    · exact hquiet (if_neg hc) (if_neg hc) rfl
  | next c' tx =>
    by_cases hc : c' = c
    · subst hc
      cases hp : (s.server.conns c').phase with
      | frame => exact h.next hp tx
      | get | answer | closed =>
        apply hquiet
        · simp only [transport, hp, ↓reduceIte]
        · rfl
        · simp only [action, read, hp]
          rfl
    · exact hquiet (if_neg hc) rfl (s.handed_read hc ..)
  | idle c' =>
    by_cases hc : c' = c
    · subst hc
      cases hp : (s.server.conns c').phase with
      | frame =>
        have ha : s.action lib (.idle c') = some (.receive c' .idleTimeout none) := by
          simp only [action, read, hp, Option.map_some]
        exact h.loss hp ha rfl (by rw [step_transports]; rfl) (by rw [step_transports]; rfl)
      | get | answer | closed =>
        apply hquiet rfl rfl
        simp only [action, read, hp]
        rfl
    · exact hquiet rfl rfl (s.handed_read hc ..)
  | abort c' e =>
    by_cases hc : c' = c
    · subst hc
      cases hp : (s.server.conns c').phase with
      | frame =>
        have ha : s.action lib (.abort c' e) = some (.receive c' (.transportError e) none) := by
          simp only [action, read, hp, Option.map_some]
        exact h.loss hp ha rfl (by rw [step_transports]; rfl) (by rw [step_transports]; rfl)
      | get | answer | closed =>
        apply hquiet rfl rfl
        simp only [action, read, hp]
        rfl
    · exact hquiet rfl rfl (s.handed_read hc ..)
  | work a =>
    apply hquiet rfl rfl
    cases a <;> rfl

theorem Fed.position (h : s.Fed lib c stream frames) :
    ∃ n last, n ≤ (readChunks [stream.buffer]).items.length ∧
      frames = ((readChunks [stream.buffer]).items.take n).map (Frame.ofBytes lib) ++ last ∧
      (last = [] ∨ (∃ frame, last = [frame] ∧ frame.isLoss = true) ∧
        ∃ r, (s.server.conns c).phase = .closed r) ∧
      ((s.transports c).next lib).1 = stream.nth lib n := by
  obtain ⟨bodies, last, rfl, htaken, hlast⟩ := h.order
  obtain ⟨rest, o, hrest⟩ := CanalCodec.incremental.exists_parses (s.transports c).buffer
  have hall := readChunks_parses [stream.buffer]
  rw [List.flatten_singleton] at hall
  obtain ⟨hitems, hout⟩ := hall.unique (htaken.parses hrest)
  refine ⟨bodies.length, last, ?_, ?_, hlast, ?_⟩
  · rw [hitems, List.length_append]
    exact Nat.le_add_right ..
  · rw [hitems, List.take_left]
  · unfold Transport.next Transport.nth
    simp only [hitems, List.getElem?_append_right (Nat.le_refl _), Nat.sub_self, h.ended]
    cases hrest with
    | wait hd =>
      obtain ⟨hf, hb⟩ := Reader.outcome_eq_ok hout
      rw [hd, hf, hb]
      simp only [List.getElem?_nil]
      split
      · rfl
      · split <;> rfl
    | fail hd =>
      rw [hd, Reader.outcome_eq_error hout]
      rfl
    | item hd ht =>
      rw [hd]
      rfl

/-- A run on bytes is a run of the server, which hands each connection the stream of its peer. -/
theorem fed_run (lib : PeerCrates) (server : Server) (as : List ByteAction) :
    let start : ByteServer := { server }
    let after := Run.final (step lib) start as
    after.server = Run.final (Server.step lib.toCrates) server (start.actions lib as) ∧
      Run.outputs (step lib) start as =
        Run.outputs (Server.step lib.toCrates) server (start.actions lib as) ∧
      ∀ c, after.Fed lib c (peerStream c as) (handed c (start.actions lib as)) := by
  intro start after
  induction as using List.reverseRecOn with
  | nil => exact ⟨rfl, rfl, fun c => ⟨rfl, [], [], rfl, .nil _, .inl rfl⟩⟩
  | append_singleton as a ih =>
    obtain ⟨hs, ho, hfed⟩ := ih
    obtain ⟨hs', ho'⟩ := step_server lib (Run.final (step lib) start as) a
    rw [hs] at hs' ho'
    refine ⟨?_, ?_, fun c => ?_⟩
    · simp only [after, actions_concat, Run.final_append]
      exact hs'
    · rw [Run.outputs_concat, actions_concat, Run.outputs_append, ho]
      exact congrArg _ ho'
    · simp only [after, Run.final_concat, actions_concat, handed_append]
      rw [peerStream, List.foldl_concat]
      exact fed_step (hfed c) a

end ByteServer

/-- The server on bytes does what the server on frames does: a run of the one is a run of the other
with the same state and the same effects, in which every connection is handed the whole frames of
the stream of its peer, in order and however the stream was cut, and the next read finds the frame
after those, or what is left of the stream. -/
theorem ByteServer.refines (lib : PeerCrates) (server : Server) (as : List ByteAction) :
    let start : ByteServer := { server }
    let after := Run.final (step lib) start as
    after.server = Run.final (Server.step lib.toCrates) server (start.actions lib as) ∧
      Run.outputs (step lib) start as =
        Run.outputs (Server.step lib.toCrates) server (start.actions lib as) ∧
      ∀ c, ∃ n last, n ≤ (readChunks [(peerStream c as).buffer]).items.length ∧
        handed c (start.actions lib as) =
          ((readChunks [(peerStream c as).buffer]).items.take n).map (Frame.ofBytes lib) ++ last ∧
        (last = [] ∨ (∃ frame, last = [frame] ∧ frame.isLoss = true) ∧
          ∃ r, (after.server.conns c).phase = .closed r) ∧
        ∀ tx, (after.server.conns c).phase = .frame → after.action lib (.next c tx) =
          ((peerStream c as).nth lib n).map fun frame => .receive c frame tx := by
  intro start after
  obtain ⟨hs, ho, hfed⟩ := fed_run lib server as
  refine ⟨hs, ho, fun c => ?_⟩
  obtain ⟨n, last, hn, hframes, hlast, hnext⟩ := (hfed c).position
  refine ⟨n, last, hn, hframes, hlast, fun tx hp => ?_⟩
  rw [← hnext]
  simp only [action, read]
  rw [hp]

end Canal
