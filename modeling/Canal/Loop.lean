import Canal.PollAcks
import Canal.Uplink

namespace Canal
set_option autoImplicit true

open Framing

namespace CanalClient

def authRequest (client : CanalClient) : Request :=
  .clientAuth { destination := client.destination, clientId := toString client.clientId,
                filter := client.filter }

def subRequest (client : CanalClient) : Request := .sub client.sub

def getRequest (client : CanalClient) : Request :=
  .get { destination := client.destination, clientId := toString client.clientId,
         fetchSize := 100 }

def ackRequest (client : CanalClient) (batchId : Int64) : Request :=
  .clientAck { destination := client.destination, clientId := toString client.clientId, batchId }

end CanalClient

/-- Where the client stands; the entries of an answer are as they came. -/
inductive ByteTask
  | connecting
  | authenticating
  | connected
  | subscribing
  | polling
  | awaiting
  | forwarding (batchId : Int64) (entries : List (List UInt8))
  | stopped

namespace ByteTask

def next (client : CanalClient) : ByteTask → Option (Request × ByteTask)
  | connecting => some (client.authRequest, authenticating)
  | connected => some (client.subRequest, subscribing)
  | polling => some (client.getRequest, awaiting)
  | forwarding batchId [] => some (client.ackRequest batchId, polling)
  | _ => none

/-- What the client makes of a packet. A packet that is neither an answer nor an Ack is slept over
and the poll repeated. -/
def got (lib : PeerCrates) (task : ByteTask) (p : Proto.Packet) : ByteTask :=
  match task with
  | authenticating =>
    if p.type ≠ Proto.packetTypeAck then stopped
    else match lib.decodeAck p.body with
      | .error _ => stopped
      | .ok ack => if ack.errorMessage.isEmpty then connected else stopped
  | subscribing => if p.type ≠ Proto.packetTypeAck then stopped else polling
  | awaiting =>
    if p.type = Proto.packetTypeMessages then
      match lib.decodeMessages p.body with
      | .error _ => stopped
      | .ok m => forwarding m.batchId m.messages
    else if p.type = Proto.packetTypeAck then stopped
    else polling
  | _ => stopped

def reads : ByteTask → Bool
  | authenticating | subscribing | awaiting => true
  | _ => false

end ByteTask

/-- `read_exact` has not got what it asks for, neither for the header nor for the body. -/
def waits : List UInt8 → Bool
  | a :: b :: c :: d :: rest =>
    fromBeBytes a b c d ≠ 0 && fromBeBytes a b c d ≤ maxPacketSize &&
      rest.length < fromBeBytes a b c d
  | _ => true

/-- The packet of an answer. -/
def Response.packet (lib : PeerCrates) : Response → Proto.RawPacket
  | .ack a => { type := Proto.packetTypeAck, body := lib.encodeAck a }
  | .messages m =>
    { type := Proto.packetTypeMessages
      body := lib.encodeMessages { m with messages := m.messages.map lib.encodeEntry } }

def Response.payload (lib : PeerCrates) (r : Response) : List UInt8 :=
  lib.encodePacket (r.packet lib)

/-- The bytes that the server writes for answers one after another. -/
def downlink (lib : PeerCrates) (rs : List Response) : List UInt8 :=
  rs.flatMap fun r => CanalCodec.encode (r.payload lib) []

/-- The client is at the other end of connection 0: `upstream` is on its way to the server and
`downstream` on its way to the client. -/
structure ByteLoop where
  host : ByteServer
  task : ByteTask := .connecting
  upstream : List UInt8 := []
  downstream : List UInt8 := []

/-- A step of one party, or the arrival of some more bytes at the server. -/
inductive ByteMove
  | host (a : ByteAction)
  | deliver (n : Nat)
  | send (ok : Bool)
  | place (consumer : Bool)
  | read (ok : Bool)
  | abort

namespace ByteLoop

def new (capacity : Nat) (authToken : Option String) (debugAssertions : Bool) : ByteLoop :=
  { host := { server := .new capacity authToken debugAssertions } }

/-- A step of the server; what it writes to connection 0 is on its way to the client. -/
def serve (lib : PeerCrates) (s : ByteLoop) (a : ByteAction) : ByteLoop × List Note :=
  let r := s.host.step lib a
  let es := trace 0 r.2
  ({ s with host := r.1, downstream := s.downstream ++ downlink lib (responses es) },
    (s.host.action lib a).elim [] s.host.server.takenUp ++ es.filterMap Note.ofEffect)

/-- The client reads a packet, or waits for the rest of it. -/
def receive (lib : PeerCrates) (s : ByteLoop) : ByteLoop :=
  if waits s.downstream then s
  else match readPacket lib.decodePacket s.downstream with
    | (.error _, downstream) => { s with task := .stopped, downstream }
    | (.ok p, downstream) => { s with task := s.task.got lib p, downstream }

def step (lib : PeerCrates) (client : CanalClient) (s : ByteLoop) (m : ByteMove) :
    ByteLoop × List Note :=
  match m with
  | .host (.arrive 0 _) => (s, [])
  | .host a => s.serve lib a
  | .deliver n =>
    let r := s.serve lib (.arrive 0 (s.upstream.take n))
    ({ r.1 with upstream := s.upstream.drop n }, r.2)
  | .send ok =>
    match s.task.next client with
    | some (r, task) =>
      if ok then ({ s with task, upstream := s.upstream ++ sendPacket (r.payload lib) },
        Note.ofFrame r.frame)
      else ({ s with task := .stopped }, [])
    | none => (s, [])
  | .place consumer =>
    match s.task with
    | .forwarding batchId (bytes :: entries) =>
      if consumer then ({ s with task := .forwarding batchId entries },
        [.placed (entryBytesToEvent lib.toWireCrates bytes)])
      else ({ s with task := .stopped }, [])
    | _ => (s, [])
  | .read ok =>
    if s.task.reads then
      if ok then (s.receive lib, [])
      else ({ s with task := .stopped }, [])
    else (s, [])
  | .abort => ({ s with task := .stopped }, [])

/-- Whatever is written in the step is shorter than 4 GiB, so that its header tells its length. -/
def Fits (lib : PeerCrates) (client : CanalClient) (s : ByteLoop) : ByteMove → Prop
  | .host a => ∀ r ∈ responses (trace 0 (s.host.step lib a).2), (r.payload lib).length < 2 ^ 32
  | .send _ => ∀ next ∈ s.task.next client, (next.1.payload lib).length < 2 ^ 32
  | _ => True

instance (lib : PeerCrates) (client : CanalClient) (s : ByteLoop) (m : ByteMove) :
    Decidable (s.Fits lib client m) :=
  match m with
  | .host a =>
    inferInstanceAs (Decidable (∀ r ∈ responses (trace 0 (s.host.step lib a).2),
      (r.payload lib).length < 2 ^ 32))
  | .send _ =>
    inferInstanceAs (Decidable (∀ next ∈ s.task.next client, (next.1.payload lib).length < 2 ^ 32))
  | .deliver _ => isTrue trivial
  | .place _ => isTrue trivial
  | .read _ => isTrue trivial
  | .abort => isTrue trivial

end ByteLoop

theorem waits_written (h : payload.length < 2 ^ 32) (rest : List UInt8) :
    waits (CanalCodec.encode payload [] ++ rest) = false := by
  have hmod : payload.length % 2 ^ 32 = payload.length := Nat.mod_eq_of_lt h
  simp only [CanalCodec.encode, beBytes, List.nil_append, List.cons_append, waits,
    fromBeBytes_beBytes, hmod, List.length_append]
  simp

theorem decode_too_large (h : payload.length < 2 ^ 32) (hmax : maxPacketSize < payload.length)
    (rest : List UInt8) :
    ∃ e, CanalCodec.decode (CanalCodec.encode payload [] ++ rest) =
      (.error e, CanalCodec.encode payload [] ++ rest) := by
  have hmod : payload.length % 2 ^ 32 = payload.length := Nat.mod_eq_of_lt h
  simp only [CanalCodec.encode, beBytes, List.nil_append, List.cons_append]
  refine ⟨_, CanalCodec.decode_large ?_ _⟩
  rw [fromBeBytes_beBytes, hmod]
  exact hmax

section Packets

variable {decodePacket : List UInt8 → Decoded P}

theorem readPacket_of_body (hb : readBody stream = (.ok body, rest))
    (hd : decodePacket body = .ok p) : readPacket decodePacket stream = (.ok p, rest) := by
  simp only [readPacket, hb, hd]

theorem readPacket_of_error (hb : (readBody stream).1 = .error e) :
    (readPacket decodePacket stream).1 = .error e := by
  unfold readPacket
  split
  · rename_i heq
    rw [heq] at hb
    rw [Except.error.inj hb]
  · rename_i heq
    rw [heq] at hb
    cases hb

end Packets

theorem readPacket_written {lib : PeerCrates} (h : lib.Lawful) {p : Proto.RawPacket}
    (ht : p.type ≠ 0) (hmax : (lib.encodePacket p).length ≤ maxPacketSize) (rest : List UInt8) :
    readPacket lib.decodePacket (CanalCodec.encode (lib.encodePacket p) [] ++ rest) =
      (.ok (.ofRaw p), rest) := by
  exact readPacket_of_body (readBody_item (CanalCodec.decode_encode hmax rest) (h.typed p ht))
    (h.packet p)

theorem readPacket_too_large (lib : PeerCrates) (h : payload.length < 2 ^ 32)
    (hmax : maxPacketSize < payload.length) (rest : List UInt8) :
    ∃ e, (readPacket lib.decodePacket (CanalCodec.encode payload [] ++ rest)).1 = .error e := by
  obtain ⟨e, he⟩ := decode_too_large h hmax rest
  exact ⟨_, readPacket_of_error (readBody_fail he)⟩

theorem Response.packet_type_ne_zero (lib : PeerCrates) (r : Response) :
    (r.packet lib).type ≠ 0 := by
  have hne : ∀ type ∈ [3, 7], type ≠ (0 : Int32) := by simp
  apply hne
  cases r <;> simp [packet, Proto.packetTypeAck, Proto.packetTypeMessages]

namespace ByteTask

/-- The task of the level of frames, with its entries encoded. -/
def of (lib : PeerCrates) : ClientTask → ByteTask
  | .connecting => connecting
  | .authenticating => authenticating
  | .connected => connected
  | .subscribing => subscribing
  | .polling => polling
  | .awaiting => awaiting
  | .forwarding batchId entries => forwarding batchId (entries.map lib.encodeEntry)
  | .stopped => stopped

theorem reads_of (lib : PeerCrates) (task : ClientTask) : (of lib task).reads = task.reads := by
  cases task <;> rfl

theorem next_of (lib : PeerCrates) (client : CanalClient) (task : ClientTask) :
    ((of lib task).next client = none ∧ task.next client = none) ∨
    ∃ r task', (of lib task).next client = some (r, of lib task') ∧
      task.next client = some (r.frame, task') := by
  cases task with
  | connecting => exact .inr ⟨client.authRequest, .authenticating, rfl, rfl⟩
  | connected => exact .inr ⟨client.subRequest, .subscribing, rfl, rfl⟩
  | polling => exact .inr ⟨client.getRequest, .awaiting, rfl, rfl⟩
  | forwarding batchId entries =>
    cases entries with
    | nil => exact .inr ⟨client.ackRequest batchId, .polling, rfl, rfl⟩
    | cons => exact .inl ⟨rfl, rfl⟩
  | authenticating | subscribing | awaiting | stopped => exact .inl ⟨rfl, rfl⟩

theorem got_of {lib : PeerCrates} (h : lib.Lawful) {task : ClientTask} (hr : task.reads = true)
    (r : Response) : (of lib task).got lib (.ofRaw (r.packet lib)) = of lib (task.got r) := by
  cases task with
  | authenticating =>
    cases r with
    | ack a =>
      simp only [of, got, Proto.Packet.ofRaw, Response.packet, ne_eq, not_true_eq_false,
        ↓reduceIte, h.ack, ClientTask.got]
      split <;> rfl
    | messages m => rfl
  | subscribing => cases r <;> rfl
  | awaiting =>
    cases r with
    | ack a => rfl
    | messages m =>
      simp only [of, got, Proto.Packet.ofRaw, Response.packet, ↓reduceIte, h.messages,
        ClientTask.got]
  | connecting | connected | polling | forwarding | stopped => cases hr

end ByteTask

/-- What has arrived at the server and what is on its way are the bytes of the frames in the queue;
what is on its way is lost when the server has seen the end of the stream. -/
def Uplinked (lib : PeerCrates) (t : Transport) (upstream : List UInt8) (frames : List Frame) :
    Prop :=
  ∃ rs m, frames = rs.map Request.frame ∧ t.buffer ++ m = uplink lib rs ∧
    (t.ended = false → m = upstream) ∧ ∀ r ∈ rs, (r.payload lib).length < 2 ^ 32

/-- What is on its way to the client are the bytes of the answers in the queue. -/
def Downlinked (lib : PeerCrates) (downstream : List UInt8) (rs : List Response) : Prop :=
  downstream = downlink lib rs ∧ ∀ r ∈ rs, (r.payload lib).length < 2 ^ 32

namespace Uplinked

variable {lib : PeerCrates}

theorem written (h : Uplinked lib t upstream frames) {r : Request}
    (hr : (r.payload lib).length < 2 ^ 32) :
    Uplinked lib t (upstream ++ sendPacket (r.payload lib)) (frames ++ [r.frame]) := by
  obtain ⟨rs, m, rfl, hm, hopen, hsize⟩ := h
  refine ⟨rs ++ [r], m ++ sendPacket (r.payload lib), ?_, ?_, fun he => by rw [hopen he], ?_⟩
  · rw [List.map_append, List.map_singleton]
  · rw [← List.append_assoc, hm, uplink, uplink, List.flatMap_append, List.flatMap_singleton]
  · intro q hq
    rcases List.mem_append.1 hq with hq | hq
    · exact hsize q hq
    · cases List.mem_singleton.1 hq
      exact hr

theorem delivered (h : Uplinked lib t upstream frames) (n : Nat) :
    Uplinked lib (t.arrive (upstream.take n)) (upstream.drop n) frames := by
  obtain ⟨rs, m, rfl, hm, hopen, hsize⟩ := h
  unfold Transport.arrive
  cases he : t.ended with
  | true =>
    rw [if_pos rfl]
    exact ⟨rs, m, rfl, hm, fun hne => absurd (he.symm.trans hne) nofun, hsize⟩
  | false =>
    rw [if_neg Bool.false_ne_true]
    refine ⟨rs, upstream.drop n, rfl, ?_, fun _ => rfl, hsize⟩
    rw [List.append_assoc, List.take_append_drop, ← hopen he]
    exact hm

theorem hangUp (h : Uplinked lib t upstream frames) : Uplinked lib t.hangUp upstream frames := by
  obtain ⟨rs, m, rfl, hm, -, hsize⟩ := h
  exact ⟨rs, m, rfl, hm, nofun, hsize⟩

theorem next (h : lib.Lawful) (hu : Uplinked lib t upstream frames) :
    ((t.next lib).1 = none ∧ Uplinked lib (t.next lib).2 upstream frames) ∨
    (∃ frame rest, (t.next lib).1 = some frame ∧ frames = frame :: rest ∧
      Uplinked lib (t.next lib).2 upstream rest) ∨
    ∃ frame, (t.next lib).1 = some frame ∧ frame.isLoss = true := by
  obtain ⟨rs, m, rfl, hm, hopen, hsize⟩ := hu
  unfold Transport.next
  cases hd : CanalCodec.decode t.buffer with
  | mk found buffer =>
    cases found with
    | error e => exact .inr (.inr ⟨_, rfl, rfl⟩)
    | ok found =>
      cases found with
      | none =>
        have hb := CanalCodec.incremental.keeps hd
        simp only
        split
        · exact .inl ⟨rfl, rs, m, rfl, by rw [hb]; exact hm, hopen, hsize⟩
        · split
          · exact .inr (.inr ⟨_, rfl, rfl⟩)
          · exact .inr (.inr ⟨_, rfl, rfl⟩)
      | some bytes =>
        right
        left
        -- the whole queue begins with the same frame
        have hall := CanalCodec.incremental.item_append hd m
        rw [hm] at hall
        cases rs with
        | nil => cases hall
        | cons r rs =>
          have hu : uplink lib (r :: rs) =
              CanalCodec.encode (r.payload lib) [] ++ uplink lib rs := by
            rw [encode_eq_sendPacket]
            exact List.flatMap_cons ..
          rw [hu] at hall
          have hr := hsize r (List.mem_cons_self ..)
          rcases Nat.lt_or_ge maxPacketSize (r.payload lib).length with hmax | hmax
          · obtain ⟨e, he⟩ := decode_too_large hr hmax (uplink lib rs)
            cases he.symm.trans hall
          · rw [CanalCodec.decode_encode hmax, Prod.mk.injEq, Except.ok.injEq,
              Option.some.injEq] at hall
            obtain ⟨rfl, hrest⟩ := hall
            refine ⟨r.frame, rs.map Request.frame, ?_, List.map_cons, rs, m, rfl, hrest.symm,
              hopen, fun q hq => hsize q (List.mem_cons_of_mem _ hq)⟩
            exact congrArg some (Frame.ofBytes_payload h r)

end Uplinked

theorem Downlinked.written {lib : PeerCrates} (h : Downlinked lib downstream rs)
    (hr : ∀ r ∈ rs', (r.payload lib).length < 2 ^ 32) :
    Downlinked lib (downstream ++ downlink lib rs') (rs ++ rs') := by
  refine ⟨?_, fun r hmem => ?_⟩
  · rw [h.1, downlink, downlink, downlink, List.flatMap_append]
  · rcases List.mem_append.1 hmem with hmem | hmem
    · exact h.2 r hmem
    · exact hr r hmem

namespace ByteLoop

end ByteLoop

end Canal
