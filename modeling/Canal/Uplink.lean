import Canal.Authentication
import Canal.Bytes

namespace Canal
set_option autoImplicit true

open Framing

/-- A request as a client writes it. -/
inductive Request
  | clientAuth (m : Proto.ClientAuth)
  | sub (m : Sub)
  | get (m : Proto.Get)
  | clientAck (m : Proto.ClientAck)
  | clientRollback (m : Proto.ClientAck)
  | heartbeat (body : List UInt8)

namespace Request

def packet (lib : PeerCrates) : Request → Proto.RawPacket
  | clientAuth m =>
    { type := Proto.packetTypeClientauthentication, body := lib.encodeClientAuth m }
  | sub m => { type := Proto.packetTypeSubscription, body := lib.encodeSub m }
  | get m => { type := Proto.packetTypeGet, body := lib.encodeGet m }
  | clientAck m => { type := Proto.packetTypeClientack, body := lib.encodeClientAck m }
  | clientRollback m =>
    { type := Proto.packetTypeClientrollback, body := lib.encodeClientRollback m }
  | heartbeat body => { type := Proto.packetTypeHeartbeat, body }

def payload (lib : PeerCrates) (r : Request) : List UInt8 := lib.encodePacket (r.packet lib)

/-- What the server is to make of it. -/
def frame : Request → Frame
  | clientAuth m => .packet (.clientAuthentication (.ok m.read))
  | sub m => .packet (.subscription (.ok m))
  | get m => .packet (.get (.ok m.read))
  | clientAck m => .packet (.clientAck (.ok m.read))
  | clientRollback _ => .rollback
  | heartbeat _ => .packet .heartbeat

end Request

/-- The bytes that `send_packet` writes for requests one after another. -/
def uplink (lib : PeerCrates) (rs : List Request) : List UInt8 :=
  rs.flatMap fun r => sendPacket (r.payload lib)

theorem Request.packet_type_ne_zero (lib : PeerCrates) (r : Request) :
    (r.packet lib).type ≠ 0 := by
  have hne : ∀ type ∈ [2, 4, 6, 8, 11, 12], type ≠ (0 : Int32) := by simp
  apply hne
  cases r <;> simp [packet, Proto.packetTypeClientauthentication, Proto.packetTypeSubscription,
    Proto.packetTypeGet, Proto.packetTypeClientack, Proto.packetTypeHeartbeat,
    Proto.packetTypeClientrollback]

theorem Frame.ofBytes_payload {lib : PeerCrates} (h : lib.Lawful) (r : Request) :
    Frame.ofBytes lib (r.payload lib) = r.frame := by
  have hne : ¬ (r.payload lib).isEmpty = true := by
    rw [List.isEmpty_iff]
    exact h.typed _ (r.packet_type_ne_zero lib)
  rw [ofBytes, if_neg hne, Request.payload, h.packet]
  cases r with
  | clientAuth m =>
    change Frame.packet (.clientAuthentication
      ((lib.decodeClientAuth (lib.encodeClientAuth m)).map _)) = _
    rw [h.clientAuth]
    rfl
  | sub m =>
    change Frame.packet (.subscription (lib.decodeSub (lib.encodeSub m))) = _
    rw [h.sub]
    rfl
  | get m =>
    change Frame.packet (.get ((lib.decodeGet (lib.encodeGet m)).map _)) = _
    rw [h.get]
    rfl
  | clientAck m =>
    change Frame.packet (.clientAck ((lib.decodeClientAck (lib.encodeClientAck m)).map _)) = _
    rw [h.clientAck]
    rfl
  | clientRollback m =>
    change Frame.packet (.clientRollback
      ((lib.decodeClientRollback (lib.encodeClientRollback m)).map _)) = _
    rw [h.clientRollback]
    rfl
  | heartbeat body => rfl

theorem parses_uplink {lib : PeerCrates} {rs : List Request}
    (hmax : ∀ r ∈ rs, (r.payload lib).length ≤ maxPacketSize) :
    Parses CanalCodec.decode (uplink lib rs) (rs.map fun r => r.payload lib) (.ok []) := by
  have hsent : ∀ frame ∈ rs.map fun r => (Sender.client, r.payload lib),
      frame.2.length ≤ maxPacketSize := by
    intro frame hf
    obtain ⟨r, hr, rfl⟩ := List.mem_map.1 hf
    exact hmax r hr
  have h := parses_written hsent
  rw [List.flatMap_map, List.map_map] at h
  have hu : uplink lib rs = rs.flatMap fun r => CanalCodec.encode (r.payload lib) [] :=
    List.flatMap_congr fun r _ => (encode_eq_sendPacket _).symm
  rw [hu]
  exact h

/-- Of the bytes that a client writes, those that have arrived are whole requests and a rest. -/
theorem readChunks_uplink {lib : PeerCrates} {rs : List Request}
    (hmax : ∀ r ∈ rs, (r.payload lib).length ≤ maxPacketSize) (hp : stream <+: uplink lib rs) :
    (readChunks [stream]).items <+: (rs.map fun r => r.payload lib) ∧
      (readChunks [stream]).failure = none := by
  obtain ⟨m, hm⟩ := hp
  have hall := parses_uplink hmax
  rw [← hm] at hall
  have h := readChunks_parses [stream]
  rw [List.flatten_singleton] at h
  refine ⟨h.beginning CanalCodec.incremental hall, ?_⟩
  cases hf : (readChunks [stream]).failure with
  | none => rfl
  | some e =>
    rw [Reader.outcome_error hf] at h
    have hno := ((h.append_fail CanalCodec.incremental m).unique hall).2
    cases hno

/-- The requests of a client reach the handlers as they were written, each once and in order,
however their bytes are cut; and when all bytes are there the next request is the next to be
handled, until none is left. -/
theorem ByteServer.requests_in_order {lib : PeerCrates} (h : lib.Lawful) (server : Server)
    (as : List ByteAction) (c : Nat) (rs : List Request)
    (hmax : ∀ r ∈ rs, (r.payload lib).length ≤ maxPacketSize)
    (hp : (peerStream c as).buffer <+: uplink lib rs) :
    let start : ByteServer := { server }
    let after := Run.final (step lib) start as
    ∃ n last, n ≤ rs.length ∧
      handed c (start.actions lib as) = (rs.take n).map Request.frame ++ last ∧
      (last = [] ∨ (∃ frame, last = [frame] ∧ frame.isLoss = true) ∧
        ∃ r, (after.server.conns c).phase = .closed r) ∧
      ((peerStream c as).buffer = uplink lib rs → (after.server.conns c).phase = .frame →
        ∀ tx, after.action lib (.next c tx) = ((rs[n]?.map Request.frame).or
          (if (peerStream c as).ended then some .endOfStream else none)).map fun frame =>
            .receive c frame tx) := by
  intro start after
  obtain ⟨-, -, hfed⟩ := fed_run lib server as
  obtain ⟨n, last, hn, hframes, hlast, hnext⟩ := (hfed c).position
  obtain ⟨hitems, hfail⟩ := readChunks_uplink hmax hp
  have hlen : n ≤ rs.length := by
    have hle := hitems.length_le
    rw [List.length_map] at hle
    exact hn.trans hle
  refine ⟨n, last, hlen, ?_, hlast, fun hall hphase tx => ?_⟩
  · have htake : (readChunks [(peerStream c as).buffer]).items.take n =
        (rs.take n).map fun r => r.payload lib := by
      rw [List.prefix_iff_eq_take.1 hitems, List.take_take, Nat.min_eq_left hn, List.map_take]
    rw [hframes, htake, List.map_map]
    exact congrArg (· ++ last) (List.map_congr_left fun r _ => Frame.ofBytes_payload h r)
  · have hread := readChunks_parses [(peerStream c as).buffer]
    rw [List.flatten_singleton] at hread
    nth_rewrite 1 [hall] at hread
    obtain ⟨hi, ho⟩ := hread.unique (parses_uplink hmax)
    have hb := (Reader.outcome_eq_ok ho).2
    have hact : after.action lib (.next c tx) =
        ((peerStream c as).nth lib n).map fun frame => .receive c frame tx := by
      rw [← hnext]
      simp only [action, read]
      rw [hphase]
    rw [hact, Transport.nth]
    simp only [hi, hfail, hb, List.getElem?_map]
    cases hr : rs[n]? with
    | some r => simp [Frame.ofBytes_payload h r]
    | none => cases he : (peerStream c as).ended <;> simp

/-- Two requests in three pieces, each handled when its last byte is there. -/
theorem ByteServer.requests_in_order_heartbeats :
    let as : List ByteAction := [.arrive 0 [0, 0], .next 0 none, .arrive 0 [0, 2, 24, 11, 0],
      .next 0 none, .arrive 0 [0, 0, 2, 24, 11], .next 0 none]
    let start : ByteServer := { server := .new 8 none true }
    handed 0 (start.actions .protobuf as) =
        [Request.heartbeat [], Request.heartbeat []].map Request.frame ∧
      (Run.final (step .protobuf) start as).action .protobuf (.next 0 none) = none := by
  intro as start
  have hphase : ((Run.final (step .protobuf) start as).server.conns 0).phase = .frame := by rfl
  obtain ⟨n, last, hn, hframes, hlast, hnext⟩ := requests_in_order PeerCrates.protobuf_lawful
    (.new 8 none true) as 0 [.heartbeat [], .heartbeat []] (by decide) (by decide)
  have hlength : (handed 0 (start.actions .protobuf as)).length = 2 := by rfl
  rcases hlast with rfl | ⟨-, r, hr⟩
  · rw [List.append_nil] at hframes
    rw [hframes, List.length_map, List.length_take] at hlength
    have htwo : n = 2 := by
      rw [List.length_cons, List.length_singleton] at hn hlength
      omega
    subst htwo
    exact ⟨hframes, hnext (by decide) hphase none⟩
  · cases hphase.symm.trans hr

/-- The bytes of a body and of a password are bytes of the message they are read from. -/
structure PeerCrates.Verbatim (lib : PeerCrates) : Prop where
  body : ∀ {src p}, lib.decodePacket src = .ok p → p.body <:+: src
  password : ∀ {src m}, lib.decodeClientAuth src = .ok m → m.password <:+: src

theorem Schema.decoded_ok {S : Protobuf.Schema M} (h : Schema.decoded S src = .ok m) :
    S.decode src = some m := by
  unfold decoded at h
  cases hd : S.decode src with
  | none =>
    rw [hd] at h
    cases h
  | some m' =>
    rw [hd] at h
    rw [Except.ok.inj h]

theorem PeerCrates.protobuf_verbatim : PeerCrates.protobuf.Verbatim where
  body {src p} h := by
    apply Protobuf.Schema.decode_invariant (P := fun p => p.body <:+: src) (Schema.decoded_ok h)
    · exact List.nil_infix
    · intro m f m' hm hb hmerge
      simp only [Schema.wholePacket] at hmerge
      split at hmerge
      · cases hmerge
        exact hm
      · cases hmerge
        exact hm
      · cases hmerge
        exact hm
      · cases hmerge
        exact hm
      · rename_i hv
        cases hmerge
        exact hb _ hv
      · split at hmerge
        · cases hmerge
        · cases hmerge
          exact hm
  password {src m} h := by
    apply Protobuf.Schema.decode_invariant (P := fun m => m.password <:+: src)
      (Schema.decoded_ok h)
    · exact List.nil_infix
    · intro m f m' hm hb hmerge
      simp only [Schema.clientAuth] at hmerge
      split at hmerge
      · obtain ⟨s, -, rfl⟩ := Option.map_eq_some_iff.1 hmerge
        exact hm
      · rename_i hv
        cases hmerge
        exact hb _ hv
      · cases hmerge
        exact hm
      · cases hmerge
        exact hm
      · obtain ⟨s, -, rfl⟩ := Option.map_eq_some_iff.1 hmerge
        exact hm
      · obtain ⟨s, -, rfl⟩ := Option.map_eq_some_iff.1 hmerge
        exact hm
      · obtain ⟨s, -, rfl⟩ := Option.map_eq_some_iff.1 hmerge
        exact hm
      · cases hmerge
        exact hm
      · split at hmerge
        · cases hmerge
        · cases hmerge
          exact hm

theorem CanalCodec.parses_parts (h : Parses decode stream bodies o) (hb : body ∈ bodies) :
    body <:+: stream := by
  induction h with
  | wait | fail => cases hb
  | @item s rest x bodies o hd ht ih =>
    have hparts : x <:+: s ∧ rest <:+ s := by
      cases head s with
      | short h => cases (decode_short h).symm.trans hd
      | empty h =>
        cases (decode_empty h _).symm.trans hd
        exact ⟨List.nil_infix, List.suffix_append [_, _, _, _] rest⟩
      | large h => cases (decode_large h _).symm.trans hd
      | begun h0 hmax h => cases (decode_begun h0 hmax h).symm.trans hd
      | @whole a b c d r h0 hmax h =>
        cases (decode_whole h0 hmax h).symm.trans hd
        have hr : r <:+ a :: b :: c :: d :: r := List.suffix_append [a, b, c, d] r
        exact ⟨(List.take_prefix ..).isInfix.trans hr.isInfix, (List.drop_suffix ..).trans hr⟩
    rcases List.mem_cons.1 hb with rfl | hb
    · exact hparts.1
    · exact (ih hb).trans hparts.2.isInfix

theorem Frame.password_on_wire {lib : PeerCrates} (h : lib.Verbatim)
    (hf : Frame.ofBytes lib bytes = .packet (.clientAuthentication (.ok auth))) :
    auth.password <:+: bytes := by
  unfold ofBytes at hf
  split at hf
  · cases hf
  · split at hf
    · cases hf
    · rename_i p hp
      rw [Frame.packet.injEq] at hf
      unfold Packet.ofProto at hf
      split at hf
      · rw [Packet.clientAuthentication.injEq] at hf
        cases hm : lib.decodeClientAuth p.body with
        | error e =>
          rw [hm] at hf
          cases hf
        | ok m =>
          rw [hm] at hf
          cases hf
          exact (h.password hm).trans (h.body hp)
      · repeat' split at hf
        all_goals cases hf

/-- The connection whose task takes the step. -/
def ByteAction.actor : ByteAction → Option Nat
  | .arrive _ _ => none
  | .hangUp _ => none
  | .next c _ => some c
  | .idle c => some c
  | .abort c _ => some c
  | .work a => a.actor

theorem Transport.prefix_deliver (c : Nat) (t : Transport) (a : ByteAction) :
    t.buffer <+: (t.deliver c a).buffer := by
  unfold deliver
  split
  · split
    · unfold arrive
      split
      · exact List.prefix_refl _
      · exact List.prefix_append ..
    · exact List.prefix_refl _
  · split <;> exact List.prefix_refl _
  · exact List.prefix_refl _

theorem peerStream_prefix (c : Nat) (as bs : List ByteAction) :
    (peerStream c as).buffer <+: (peerStream c (as ++ bs)).buffer := by
  induction bs using List.reverseRecOn with
  | nil => rw [List.append_nil]
  | append_singleton bs b ih =>
    rw [← List.append_assoc, peerStream, peerStream, List.foldl_concat]
    exact ih.trans (Transport.prefix_deliver ..)

namespace ByteServer

variable {lib : PeerCrates} {token : String}

theorem password_on_wire (h : lib.Verbatim) (server : Server) (as : List ByteAction)
    (hf : .packet (.clientAuthentication (.ok auth)) ∈
      handed c (({ server } : ByteServer).actions lib as)) :
    auth.password <:+: (peerStream c as).buffer := by
  obtain ⟨-, -, hfed⟩ := fed_run lib server as
  obtain ⟨n, last, -, hframes, hlast, -⟩ := (hfed c).position
  rw [hframes, List.mem_append] at hf
  rcases hf with hf | hf
  · obtain ⟨bytes, hb, hf⟩ := List.mem_map.1 hf
    have hread := readChunks_parses [(peerStream c as).buffer]
    rw [List.flatten_singleton] at hread
    exact (Frame.password_on_wire h hf).trans
      (CanalCodec.parses_parts hread (List.mem_of_mem_take hb))
  · rcases hlast with rfl | ⟨⟨frame, rfl, hloss⟩, -⟩
    · cases hf
    · cases List.mem_singleton.1 hf
      cases hloss

theorem action_actor {s : ByteServer} (ha : s.action lib a = some b) : b.actor = a.actor := by
  have hread : ∀ {c frame tx}, s.read c frame tx = some b → b.actor = some c := by
    intro c frame tx hr
    unfold read at hr
    split at hr
    · obtain ⟨f, -, rfl⟩ := Option.map_eq_some_iff.1 hr
      rfl
    · cases hr
  cases a with
  | arrive | hangUp => cases ha
  | next | idle | abort => exact hread ha
  | work a => cases a <;> cases ha <;> rfl

theorem fresh_of_no_token (h : lib.Verbatim) (cap : Nat) (d : Bool) (as : List ByteAction)
    (hno : ¬ token.toUTF8.data.toList <:+: (peerStream c as).buffer) :
    let start : ByteServer := { server := .new cap (some token) d }
    ((Run.final (step lib) start as).server.conns c).state.authenticated = false ∧
      ∀ e ∈ trace c (Run.outputs (step lib) start as), ∃ a, e = .ack a := by
  intro start
  obtain ⟨hs, ho, -⟩ := fed_run lib (.new cap (some token) d) as
  rw [hs, ho]
  apply Server.fresh_of_not_presents
  rintro pre a post auth he ⟨-, ⟨hpw, -⟩, tx, rfl⟩
  apply hno
  rw [← hpw]
  refine password_on_wire h (.new cap (some token) d) as ?_
  rw [he, handed_append]
  apply List.mem_append_right
  rw [← List.singleton_append, handed_append, handed_own]
  exact List.mem_append_left _ (List.mem_singleton_self _)

end ByteServer

/-- Who has not sent the token on its connection gets acks only and changes nothing: for every
stream of bytes in which the bytes of the token do not occur, cut in any way and between any steps
of the others. -/
theorem ByteServer.token_on_wire {lib : PeerCrates} (h : lib.Verbatim) (cap : Nat) (token : String)
    (d : Bool) (as : List ByteAction) (c : Nat)
    (hno : ¬ token.toUTF8.data.toList <:+: (peerStream c as).buffer) :
    let start : ByteServer := { server := .new cap (some token) d }
    let after := Run.final (step lib) start
    ((after as).server.conns c).state.authenticated = false ∧
      (∀ e ∈ trace c (Run.outputs (step lib) start as), ∃ ack, e = .send (.ack ack)) ∧
      ∀ pre a post, as = pre ++ a :: post → a.actor = some c →
        ((after pre).step lib a).1.server.sessions = (after pre).server.sessions ∧
          ((after pre).step lib a).1.server.store = (after pre).server.store := by
  intro start after
  obtain ⟨hauth, hacks⟩ := fresh_of_no_token h cap d as hno
  refine ⟨hauth, hacks, ?_⟩
  rintro pre a post rfl hactor
  have hfresh : ((after (pre ++ [a])).server.conns c).state.authenticated = false := by
    apply (fresh_of_no_token h cap d (pre ++ [a]) _).1
    intro hin
    apply hno
    have hp := peerStream_prefix c (pre ++ [a]) post
    rw [List.append_assoc, List.singleton_append] at hp
    exact hin.trans hp.isInfix
  obtain ⟨hs, -, -⟩ := fed_run lib (.new cap (some token) d) pre
  have hx := Server.explained lib.toCrates cap (some token) d (start.actions lib pre) c
  rw [← hs] at hx
  have hstep := (step_server lib (after pre) a).1
  rw [show after (pre ++ [a]) = _ from Run.final_concat, hstep] at hfresh
  rw [hstep]
  cases ha : (after pre).action lib a with
  | none => exact ⟨rfl, rfl⟩
  | some action =>
    rw [ha] at hfresh
    rw [Option.toList_some, Run.final, Run.final] at hfresh ⊢
    have hturn := ((after pre).server.step_conn lib.toCrates action c).resolve_left
      fun hother => hother.1 ((action_actor ha).trans hactor)
    exact hturn.2.untouched hx hfresh

/-- A Get and nothing else. -/
theorem ByteServer.token_on_wire_get :
    let as : List ByteAction := [.arrive 0 [0, 0, 0, 2, 24], .arrive 0 [6], .next 0 none]
    let start : ByteServer := { server := .new 8 (some "secret") true }
    ∀ e ∈ trace 0 (Run.outputs (step .protobuf) start as), ∃ ack, e = .send (.ack ack) :=
  (token_on_wire PeerCrates.protobuf_verbatim 8 "secret" true
    [.arrive 0 [0, 0, 0, 2, 24], .arrive 0 [6], .next 0 none] 0 (by decide)).2.1

end Canal
