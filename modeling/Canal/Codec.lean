import Canal.Lib.Framing
import Canal.Messages

namespace Canal
set_option autoImplicit true

open Framing

/-- `to_be_bytes` of `n as u32`. -/
def beBytes (n : Nat) : List UInt8 :=
  [UInt8.ofNat (n / 2 ^ 24), UInt8.ofNat (n / 2 ^ 16), UInt8.ofNat (n / 2 ^ 8), UInt8.ofNat n]

/-- `u32::from_be_bytes`. -/
def fromBeBytes (a b c d : UInt8) : Nat :=
  a.toNat * 2 ^ 24 + b.toNat * 2 ^ 16 + c.toNat * 2 ^ 8 + d.toNat

theorem fromBeBytes_beBytes (n : Nat) :
    fromBeBytes (.ofNat (n / 2 ^ 24)) (.ofNat (n / 2 ^ 16)) (.ofNat (n / 2 ^ 8)) (.ofNat n) =
      n % 2 ^ 32 := by
  simp only [fromBeBytes, UInt8.toNat_ofNat']
  omega

/-- The limit of both decoders, 8 MiB. -/
def maxPacketSize : Nat := 8 * 1024 * 1024

namespace CanalCodec

/-- `Decoder::decode`; what it reserves in the buffer changes no content. -/
def decode : Decoder UInt8 (List UInt8) CanalError
  | a :: b :: c :: d :: rest =>
    let len := fromBeBytes a b c d
    if len = 0 then (.ok (some []), rest)
    else if maxPacketSize < len then
      (.error (.protocol ("packet too large: " ++ toString len ++ " bytes")),
        a :: b :: c :: d :: rest)
    else if rest.length < len then (.ok none, a :: b :: c :: d :: rest)
    else (.ok (some (rest.take len)), rest.drop len)
  | src => (.ok none, src)

/-- `Encoder::encode`. -/
def encode (item dst : List UInt8) : List UInt8 := dst ++ beBytes item.length ++ item

/-- What a buffer begins with. -/
inductive Head : List UInt8 → Prop
  | short (h : src.length < 4) : Head src
  | empty (h : fromBeBytes a b c d = 0) : Head (a :: b :: c :: d :: rest)
  | large (h : maxPacketSize < fromBeBytes a b c d) : Head (a :: b :: c :: d :: rest)
  | begun (h0 : fromBeBytes a b c d ≠ 0) (hmax : fromBeBytes a b c d ≤ maxPacketSize)
      (h : rest.length < fromBeBytes a b c d) : Head (a :: b :: c :: d :: rest)
  | whole (h0 : fromBeBytes a b c d ≠ 0) (hmax : fromBeBytes a b c d ≤ maxPacketSize)
      (h : fromBeBytes a b c d ≤ rest.length) : Head (a :: b :: c :: d :: rest)

theorem head (src : List UInt8) : Head src := by
  rcases src with _ | ⟨a, _ | ⟨b, _ | ⟨c, _ | ⟨d, rest⟩⟩⟩⟩
  · exact .short (by decide)
  · exact .short (Nat.le_add_left ..)
  · exact .short (Nat.le_add_left ..)
  · exact .short (Nat.le_add_left ..)
  · by_cases h0 : fromBeBytes a b c d = 0
    · exact .empty h0
    · rcases Nat.lt_or_ge maxPacketSize (fromBeBytes a b c d) with hmax | hmax
      · exact .large hmax
      · rcases Nat.lt_or_ge rest.length (fromBeBytes a b c d) with h | h
        · exact .begun h0 hmax h
        · exact .whole h0 hmax h

theorem decode_short (h : src.length < 4) : decode src = (.ok none, src) := by
  rcases src with _ | ⟨a, _ | ⟨b, _ | ⟨c, _ | ⟨d, rest⟩⟩⟩⟩
  · rfl
  · rfl
  · rfl
  · rfl
  · simp only [List.length_cons] at h
    omega

theorem decode_empty (h : fromBeBytes a b c d = 0) (rest : List UInt8) :
    decode (a :: b :: c :: d :: rest) = (.ok (some []), rest) := by
  simp only [decode, h, ↓reduceIte]

theorem decode_large (h : maxPacketSize < fromBeBytes a b c d) (rest : List UInt8) :
    decode (a :: b :: c :: d :: rest) =
      (.error (.protocol ("packet too large: " ++ toString (fromBeBytes a b c d) ++ " bytes")),
        a :: b :: c :: d :: rest) := by
  have h0 : fromBeBytes a b c d ≠ 0 := by omega
  simp only [decode, h0, h, ↓reduceIte]

theorem decode_begun (h0 : fromBeBytes a b c d ≠ 0) (hmax : fromBeBytes a b c d ≤ maxPacketSize)
    (h : rest.length < fromBeBytes a b c d) :
    decode (a :: b :: c :: d :: rest) = (.ok none, a :: b :: c :: d :: rest) := by
  simp only [decode, h0, not_lt.2 hmax, h, ↓reduceIte]

theorem decode_whole (h0 : fromBeBytes a b c d ≠ 0) (hmax : fromBeBytes a b c d ≤ maxPacketSize)
    (h : fromBeBytes a b c d ≤ rest.length) :
    decode (a :: b :: c :: d :: rest) =
      (.ok (some (rest.take (fromBeBytes a b c d))), rest.drop (fromBeBytes a b c d)) := by
  simp only [decode, h0, not_lt.2 hmax, not_lt.2 h, ↓reduceIte]

theorem incremental : Incremental decode where
  consumes := by
    intro src x r hd
    cases head src with
    | short h => cases (decode_short h).symm.trans hd
    | empty h =>
      cases (decode_empty h _).symm.trans hd
      simp only [List.length_cons]
      omega
    | large h => cases (decode_large h _).symm.trans hd
    | begun h0 hmax h => cases (decode_begun h0 hmax h).symm.trans hd
    | whole h0 hmax h =>
      cases (decode_whole h0 hmax h).symm.trans hd
      simp only [List.length_cons, List.length_drop]
      omega
  keeps := by
    intro src r hd
    cases head src with
    | short h =>
      cases (decode_short h).symm.trans hd
      rfl
    | empty h => cases (decode_empty h _).symm.trans hd
    | large h => cases (decode_large h _).symm.trans hd
    | begun h0 hmax h =>
      cases (decode_begun h0 hmax h).symm.trans hd
      rfl
    | whole h0 hmax h => cases (decode_whole h0 hmax h).symm.trans hd
  item_append := by
    intro src x r hd m
    cases head src with
    | short h => cases (decode_short h).symm.trans hd
    | empty h =>
      cases (decode_empty h _).symm.trans hd
      exact decode_empty h _
    | large h => cases (decode_large h _).symm.trans hd
    | begun h0 hmax h => cases (decode_begun h0 hmax h).symm.trans hd
    | @whole a b c d rest h0 hmax h =>
      cases (decode_whole h0 hmax h).symm.trans hd
      have h' : fromBeBytes a b c d ≤ (rest ++ m).length := by
        rw [List.length_append]
        omega
      rw [List.cons_append, List.cons_append, List.cons_append, List.cons_append,
        decode_whole h0 hmax h', List.take_append_of_le_length h, List.drop_append_of_le_length h]
  fail_append := by
    intro src e r hd m
    cases head src with
    | short h => cases (decode_short h).symm.trans hd
    | empty h => cases (decode_empty h _).symm.trans hd
    | large h =>
      cases (decode_large h _).symm.trans hd
      exact ⟨_, decode_large h _⟩
    | begun h0 hmax h => cases (decode_begun h0 hmax h).symm.trans hd
    | whole h0 hmax h => cases (decode_whole h0 hmax h).symm.trans hd

theorem decode_encode (h : item.length ≤ maxPacketSize) (rest : List UInt8) :
    decode (encode item [] ++ rest) = (.ok (some item), rest) := by
  have hmod : item.length % 2 ^ 32 = item.length := by
    apply Nat.mod_eq_of_lt
    unfold maxPacketSize at h
    omega
  simp only [encode, beBytes, List.nil_append, List.cons_append, decode, fromBeBytes_beBytes, hmod]
  by_cases h0 : item.length = 0
  · rw [if_pos h0, List.eq_nil_of_length_eq_zero h0, List.nil_append]
  · rw [if_neg h0, if_neg (by omega), if_neg (by rw [List.length_append]; omega),
      List.take_left, List.drop_left]

end CanalCodec

/-- The bytes that `send_packet` writes for an encoded packet. -/
def sendPacket (body : List UInt8) : List UInt8 := beBytes body.length ++ body

/-- `read_exact` on what a stream still holds; at its end all of that is gone. -/
def readExact (n : Nat) (stream : List UInt8) : Except CanalError (List UInt8) × List UInt8 :=
  if stream.length < n then (.error (.io "early eof"), []) else (.ok (stream.take n), stream.drop n)

/-- `read_packet` up to its call of `Packet::decode`. -/
def readBody (stream : List UInt8) : Except CanalError (List UInt8) × List UInt8 :=
  match readExact 4 stream with
  | (.ok [a, b, c, d], stream) =>
    let len := fromBeBytes a b c d
    if len = 0 then (.error (.protocol "received zero-length packet"), stream)
    else if maxPacketSize < len then
      (.error (.protocol ("packet too large: " ++ toString len ++ " bytes (max 8MB)")), stream)
    else readExact len stream
  | (.ok _, stream) => (.error (.io "early eof"), stream)
  | (.error e, stream) => (.error e, stream)

/-- `read_packet` for a decoder of packets. -/
def readPacket (decodePacket : List UInt8 → Decoded P) (stream : List UInt8) :
    Except CanalError P × List UInt8 :=
  match readBody stream with
  | (.error e, stream) => (.error e, stream)
  | (.ok body, stream) =>
    match decodePacket body with
    | .ok packet => (.ok packet, stream)
    | .error e => (.error (.protocol ("decode Packet: " ++ e)), stream)

/-- The frame boundaries of at most `n` calls of `read_packet`, up to the first that fails before
it has a frame. -/
def readBodies : Nat → List UInt8 → List (List UInt8) × Option CanalError
  | 0, _ => ([], none)
  | n + 1, stream =>
    match readBody stream with
    | (.error e, _) => ([], some e)
    | (.ok body, stream) =>
      let (bodies, e) := readBodies n stream
      (body :: bodies, e)

end Canal
