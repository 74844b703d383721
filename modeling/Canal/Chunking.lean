import Canal.Codec

namespace Canal
set_option autoImplicit true

open Framing

/-- Who writes a frame: the codec of the server or `send_packet` of the client. -/
inductive Sender
  | codec
  | client

/-- The stream after one more frame. -/
def Sender.write (who : Sender) (payload stream : List UInt8) : List UInt8 :=
  match who with
  | .codec => CanalCodec.encode payload stream
  | .client => stream ++ sendPacket payload

theorem encode_eq_sendPacket (payload : List UInt8) :
    CanalCodec.encode payload [] = sendPacket payload := by
  rw [CanalCodec.encode, sendPacket, List.nil_append]

theorem Sender.write_eq (who : Sender) (payload stream : List UInt8) :
    who.write payload stream = stream ++ CanalCodec.encode payload [] := by
  cases who with
  | codec => rw [write, CanalCodec.encode, CanalCodec.encode, List.nil_append, List.append_assoc]
  | client => rw [write, encode_eq_sendPacket]

/-- The stream of frames written one after another. -/
def streamOf (sent : List (Sender × List UInt8)) : List UInt8 :=
  sent.foldl (fun stream frame => frame.1.write frame.2 stream) []

theorem foldl_write (sent : List (Sender × List UInt8)) (stream : List UInt8) :
    sent.foldl (fun stream frame => frame.1.write frame.2 stream) stream =
      stream ++ sent.flatMap fun frame => CanalCodec.encode frame.2 [] := by
  induction sent generalizing stream with
  | nil => rw [List.foldl_nil, List.flatMap_nil, List.append_nil]
  | cons frame sent ih =>
    rw [List.foldl_cons, ih, Sender.write_eq, List.flatMap_cons, List.append_assoc]

/-- The reader of the server after the chunks of a stream. -/
def readChunks (chunks : List (List UInt8)) : Reader UInt8 (List UInt8) CanalError :=
  chunks.foldl (feed CanalCodec.decode) {}

theorem readChunks_parses (chunks : List (List UInt8)) :
    Parses CanalCodec.decode chunks.flatten (readChunks chunks).items
      (readChunks chunks).outcome :=
  parses_chunks CanalCodec.incremental ⟨[], rfl⟩ chunks

theorem parses_written {sent : List (Sender × List UInt8)}
    (hmax : ∀ frame ∈ sent, frame.2.length ≤ maxPacketSize) :
    Parses CanalCodec.decode (sent.flatMap fun frame => CanalCodec.encode frame.2 [])
      (sent.map Prod.snd) (.ok []) := by
  induction sent with
  | nil => exact .wait rfl
  | cons frame sent ih =>
    rw [List.flatMap_cons, List.map_cons]
    apply Parses.item (CanalCodec.decode_encode (hmax frame (List.mem_cons_self ..)) _)
    exact ih fun frame h => hmax frame (List.mem_cons_of_mem _ h)

/-- The error of the client where the codec waits or fails. -/
def clientError : Option CanalError → CanalError
  | none => .io "early eof"
  | some (.protocol message) => .protocol (message ++ " (max 8MB)")
  | some e => e

theorem readBody_header (a b c d : UInt8) (rest : List UInt8) :
    readBody (a :: b :: c :: d :: rest) =
      if fromBeBytes a b c d = 0 then (.error (.protocol "received zero-length packet"), rest)
      else if maxPacketSize < fromBeBytes a b c d then
        (.error (.protocol ("packet too large: " ++ toString (fromBeBytes a b c d) ++
          " bytes (max 8MB)")), rest)
      else readExact (fromBeBytes a b c d) rest := by
  have h4 : ¬ (a :: b :: c :: d :: rest).length < 4 := by
    simp only [List.length_cons]
    omega
  rw [readBody, readExact, if_neg h4]
  rfl

theorem readBody_wait (hd : CanalCodec.decode src = (.ok none, r)) :
    (readBody src).1 = .error (clientError none) := by
  cases CanalCodec.head src with
  | short h => simp [readBody, readExact, clientError, h]
  | empty h => cases (CanalCodec.decode_empty h _).symm.trans hd
  | large h => cases (CanalCodec.decode_large h _).symm.trans hd
  | begun h0 hmax h =>
    rw [readBody_header, if_neg h0, if_neg (not_lt.2 hmax), readExact, if_pos h, clientError]
  | whole h0 hmax h => cases (CanalCodec.decode_whole h0 hmax h).symm.trans hd

theorem readBody_fail (hd : CanalCodec.decode src = (.error e, r)) :
    (readBody src).1 = .error (clientError (some e)) := by
  cases CanalCodec.head src with
  | short h => cases (CanalCodec.decode_short h).symm.trans hd
  | empty h => cases (CanalCodec.decode_empty h _).symm.trans hd
  | @large a b c d rest h =>
    cases (CanalCodec.decode_large h _).symm.trans hd
    have h0 : fromBeBytes a b c d ≠ 0 := by omega
    rw [readBody_header, if_neg h0, if_pos h, clientError, @String.append_assoc _ " bytes"]
    rfl
  | begun h0 hmax h => cases (CanalCodec.decode_begun h0 hmax h).symm.trans hd
  | whole h0 hmax h => cases (CanalCodec.decode_whole h0 hmax h).symm.trans hd

theorem readBody_empty (hd : CanalCodec.decode src = (.ok (some []), r)) :
    (readBody src).1 = .error (.protocol "received zero-length packet") := by
  cases CanalCodec.head src with
  | short h => cases (CanalCodec.decode_short h).symm.trans hd
  | empty h => rw [readBody_header, if_pos h]
  | large h => cases (CanalCodec.decode_large h _).symm.trans hd
  | begun h0 hmax h => cases (CanalCodec.decode_begun h0 hmax h).symm.trans hd
  | @whole a b c d rest h0 hmax h =>
    have hd := (CanalCodec.decode_whole h0 hmax h).symm.trans hd
    rw [Prod.mk.injEq, Except.ok.injEq, Option.some.injEq] at hd
    have hlen := congrArg List.length hd.1
    rw [List.length_take, List.length_nil] at hlen
    omega

theorem readBody_item (hd : CanalCodec.decode src = (.ok (some body), r)) (hne : body ≠ []) :
    readBody src = (.ok body, r) := by
  cases CanalCodec.head src with
  | short h => cases (CanalCodec.decode_short h).symm.trans hd
  | empty h =>
    cases (CanalCodec.decode_empty h _).symm.trans hd
    exact absurd rfl hne
  | large h => cases (CanalCodec.decode_large h _).symm.trans hd
  | begun h0 hmax h => cases (CanalCodec.decode_begun h0 hmax h).symm.trans hd
  | whole h0 hmax h =>
    cases (CanalCodec.decode_whole h0 hmax h).symm.trans hd
    rw [readBody_header, if_neg h0, if_neg (not_lt.2 hmax), readExact, if_neg (not_lt.2 h)]

/-- The client takes the frames of the stream up to the first empty one, and fails there or where
the codec stops. -/
theorem readBodies_parses {r : Reader UInt8 (List UInt8) CanalError}
    (h : Parses CanalCodec.decode s frames r.outcome) (hn : s.length < n) :
    readBodies n s = (frames.takeWhile (!·.isEmpty), some (if [] ∈ frames then
      .protocol "received zero-length packet"
      else clientError r.failure)) := by
  generalize ho : r.outcome = o at h
  induction h generalizing n with
  | wait h =>
    cases n with
    | zero => omega
    | succ n =>
      have hb := readBody_wait h
      cases hr : readBody _ with
      | mk found rest =>
        rw [hr] at hb
        cases hb
        simp [readBodies, hr, (r.outcome_eq_ok ho).1]
  | fail h =>
    cases n with
    | zero => omega
    | succ n =>
      have hb := readBody_fail h
      cases hr : readBody _ with
      | mk found rest =>
        rw [hr] at hb
        cases hb
        simp [readBodies, hr, r.outcome_eq_error ho]
  | @item s rest body frames o h ht ih =>
    cases n with
    | zero => omega
    | succ n =>
      by_cases hne : body = []
      · subst hne
        have hb := readBody_empty h
        cases hr : readBody s with
        | mk found rest =>
          rw [hr] at hb
          cases hb
          simp [readBodies, hr]
      · have hlen := CanalCodec.incremental.consumes h
        have hi := ih (n := n) (by omega) ho
        simp [readBodies, readBody_item h hne, hi, hne, Ne.symm hne]

/-- Frames come out as they went in; the cuts of a stream change neither what is decoded nor where
it fails; and the client sees the same boundaries as long as there is a frame it takes. -/
theorem frames_independent_of_cuts :
    (∀ payload, CanalCodec.encode payload [] = sendPacket payload) ∧
    (∀ sent chunks, (∀ frame ∈ sent, frame.2.length ≤ maxPacketSize) →
      chunks.flatten = streamOf sent →
      (readChunks chunks).items = sent.map Prod.snd ∧ (readChunks chunks).failure = none ∧
        (readChunks chunks).buffer = []) ∧
    (∀ chunks chunks', chunks.flatten = chunks'.flatten →
      (readChunks chunks).items = (readChunks chunks').items ∧
        (readChunks chunks).failure = (readChunks chunks').failure ∧
        ((readChunks chunks).failure = none →
          (readChunks chunks).buffer = (readChunks chunks').buffer ∧
            CanalCodec.decode (readChunks chunks).buffer =
              (.ok none, (readChunks chunks).buffer))) ∧
    ∀ chunks n, chunks.flatten.length < n →
      readBodies n chunks.flatten =
        ((readChunks chunks).items.takeWhile (!·.isEmpty),
          some (if [] ∈ (readChunks chunks).items then .protocol "received zero-length packet"
            else clientError (readChunks chunks).failure)) := by
  refine ⟨encode_eq_sendPacket, ?_, ?_, ?_⟩
  · intro sent chunks hmax hs
    have h := readChunks_parses chunks
    rw [hs, streamOf, foldl_write, List.nil_append] at h
    obtain ⟨hi, ho⟩ := h.unique (parses_written hmax)
    exact ⟨hi, Reader.outcome_eq_ok ho⟩
  · intro chunks chunks' hs
    have h := readChunks_parses chunks
    have h' := readChunks_parses chunks'
    rw [← hs] at h'
    obtain ⟨hi, ho⟩ := h.unique h'
    refine ⟨hi, Reader.failure_of_outcome ho, fun hf => ?_⟩
    rw [Reader.outcome_ok hf] at h ho
    exact ⟨(Reader.outcome_eq_ok ho.symm).2.symm, h.rest CanalCodec.incremental⟩
  · intro chunks n hn
    exact readBodies_parses (readChunks_parses chunks) hn

theorem frames_independent_of_cuts_three :
    (readChunks [[0, 0], [0, 1, 42, 0, 0], [], [0, 0, 0, 0, 0, 1, 99]]).items = [[42], [], [99]] :=
  (frames_independent_of_cuts.2.1 [(.client, [42]), (.codec, []), (.codec, [99])]
    [[0, 0], [0, 1, 42, 0, 0], [], [0, 0, 0, 0, 0, 1, 99]] (by decide) (by decide)).1

end Canal
