import Canal.Answers
import Canal.Trace
import Canal.Chunking
import Canal.Wire

namespace Canal
set_option autoImplicit true

open Protobuf

/-- The encoded lengths are those of the wire format. -/
structure WireCrates.Sized (lib : WireCrates) : Prop where
  rowChange : ∀ m, (lib.encodeRowChange m).length = size (Schema.rowChange.fields m)
  entry : ∀ m, (lib.encodeEntry m).length = size (Schema.entry.fields m)
  messages : ∀ m, (lib.encodeMessages m).length = size (Schema.messages.fields m)
  packet : ∀ m, (lib.encodePacket m).length = size (Schema.packet.fields m)

theorem WireCrates.protobuf_sized : WireCrates.protobuf.Sized where
  rowChange := Protobuf.Schema.length_encode
  entry := Protobuf.Schema.length_encode
  messages := Protobuf.Schema.length_encode
  packet := Protobuf.Schema.length_encode

/-- The payload of the frame in which a `Messages` packet travels. -/
def Proto.Messages.payload (lib : WireCrates) (m : Proto.Messages) : List UInt8 :=
  lib.encodePacket {
    type := packetTypeMessages
    body := lib.encodeMessages { m with messages := m.messages.map lib.encodeEntry } }

/-- The frame of a payload announces its length, and both readers take it. -/
structure Accepted (payload : List UInt8) : Prop where
  header : ∃ a b c d, CanalCodec.encode payload [] = a :: b :: c :: d :: payload ∧
    fromBeBytes a b c d = payload.length
  positive : 1 ≤ payload.length
  limit : payload.length ≤ maxPacketSize
  decode : CanalCodec.decode (CanalCodec.encode payload []) = (.ok (some payload), [])
  readBody : readBody (CanalCodec.encode payload []) = (.ok payload, [])

theorem accepted_iff (hne : payload ≠ []) : Accepted payload ↔ payload.length ≤ maxPacketSize := by
  constructor
  · exact Accepted.limit
  · intro h
    have hd := CanalCodec.decode_encode h []
    rw [List.append_nil] at hd
    have hmod : payload.length % 2 ^ 32 = payload.length := by
      apply Nat.mod_eq_of_lt
      unfold maxPacketSize at h
      omega
    exact {
      header := ⟨_, _, _, _, rfl, (fromBeBytes_beBytes _).trans hmod⟩
      positive := List.length_pos_of_ne_nil hne
      limit := h
      decode := hd
      readBody := readBody_item hd hne }

def int64Size (number : Nat) (x : Int64) : Nat :=
  if x = 0 then 0 else varintField number x.toUInt64.toNat

def int32Size (number : Nat) (x : Int32) : Nat :=
  if x = 0 then 0 else varintField number x.toInt64.toUInt64.toNat

def enumSize (number : Nat) (x : Int32) : Nat := varintField number x.toInt64.toUInt64.toNat

def flagSize (number : Nat) (b : Bool) : Nat := if b then varintField number 1 else 0

def textSize (number : Nat) (s : String) : Nat :=
  if s = "" then 0 else bytesField number s.utf8ByteSize

def ColumnValue.wireSize (col : ColumnValue) (updated : Bool) : Nat :=
  int32Size 2 col.columnType + textSize 3 col.name + flagSize 4 col.isKey + flagSize 5 updated +
    flagSize 6 col.value.isNone + textSize 8 (col.value.getD "") +
    textSize 10 (toString col.columnType)

def imageSize (number : Nat) (image : Option RowData) (updated : ColumnValue → Bool) : Nat :=
  ((image.elim [] RowData.columns).map fun col =>
    bytesField number (col.wireSize (updated col))).sum

def RowChange.wireSize (change : RowChange) : Nat :=
  imageSize 1 change.before (fun _ => false) + imageSize 2 change.after ColumnValue.updated

namespace CanalEvent

/-- The length of the encoded row change of an event. -/
def changeSize (e : CanalEvent) (type : Int32) : Nat :=
  match e.rowChange, e.ddlSql with
  | some change, _ => enumSize 2 (dmlTypeToProto change.dmlType) + bytesField 12 change.wireSize
  | none, some sql => enumSize 2 Proto.eventTypeQuery + flagSize 10 true + textSize 11 sql +
      textSize 14 e.schemaName
  | none, none => enumSize 2 type

def headerSize (e : CanalEvent) (type : Int32) : Nat :=
  textSize 2 e.journalName + int64Size 3 e.position.toInt64 + int64Size 4 e.serverId.toInt64 +
    int64Size 6 e.executeTime + enumSize 7 Proto.typeMysql + textSize 8 e.schemaName +
    textSize 9 e.tableName + int64Size 10 (Int64.ofNat (e.changeSize type)) + enumSize 11 type +
    textSize 13 (e.gtid.getD "")

/-- The length of the encoded entry of an event; an event without entry has none. -/
def entrySize (e : CanalEvent) : Nat :=
  match eventTypeToProto e.entryType with
  | .ok type => bytesField 1 (e.headerSize type) + bytesField 3 (e.changeSize type)
  | .error _ => 0

end CanalEvent

/-- The length of a `Messages` body with entries of the events. -/
def messagesSize (batchId : Int64) (events : List CanalEvent) : Nat :=
  int64Size 1 batchId + (events.map fun e => bytesField 2 e.entrySize).sum

/-- The length of the payload for them. -/
def payloadSize (batchId : Int64) (events : List CanalEvent) : Nat :=
  enumSize 3 Proto.packetTypeMessages +
    if messagesSize batchId events = 0 then 0 else bytesField 5 (messagesSize batchId events)

theorem enumSize_pos (number : Nat) (x : Int32) : 0 < enumSize number x :=
  Nat.add_pos_left (varintSize_pos _) _

theorem CanalEvent.changeSize_pos (e : CanalEvent) (type : Int32) : 0 < e.changeSize type := by
  have h : ∀ type n, 0 < enumSize 2 type + n :=
    fun type n => Nat.add_pos_left (enumSize_pos 2 type) n
  unfold changeSize
  split
  · exact h _ _
  · rw [Nat.add_assoc, Nat.add_assoc]
    exact h _ _
  · exact h _ 0

section Counting

theorem size_text (number : Nat) (s : String) :
    size (scalar (s = "") number (ofString s)) = textSize number s := by
  simp [ofString, textSize]

theorem size_int64 (number : Nat) (x : Int64) :
    size (scalar (x = 0) number (ofInt64 x)) = int64Size number x := by
  simp [ofInt64, int64Size]

theorem size_int32 (number : Nat) (x : Int32) :
    size (scalar (x = 0) number (ofInt32 x)) = int32Size number x := by
  simp [ofInt32, ofInt64, int32Size]

theorem size_bool (number : Nat) (b : Bool) :
    size (scalar (!b) number (ofBool b)) = flagSize number b := by
  cases b <;> rfl

theorem size_enum (number : Nat) (x : Int32) :
    size (optional ((some x).map ofInt32) number) = enumSize number x := by
  simp [ofInt32, ofInt64, enumSize]

theorem size_column (col : ColumnValue) (updated : Bool) :
    size (Schema.column.fields (columnValueToProto col updated)) = col.wireSize updated := by
  have hnull : size (optional ((columnValueToProto col updated).isNullPresent.map ofBool) 6) =
      flagSize 6 col.value.isNone := by
    cases hv : col.value <;> simp [columnValueToProto, hv, flagSize, ofBool]
  simp only [Schema.column, size_append, size_int32, size_text, size_bool, hnull]
  simp only [columnValueToProto, ColumnValue.wireSize, Nat.add_assoc]

theorem size_image (number : Nat) (image : Option RowData) (updated : ColumnValue → Bool) :
    size (repeated (((image.elim [] RowData.columns).map fun col =>
      columnValueToProto col (updated col)).map fun c => .bytes (Schema.column.encode c)) number) =
        imageSize number image updated := by
  simp only [size_repeated, List.map_map, imageSize]
  congr 1
  apply List.map_congr_left
  intro col hcol
  simp [Protobuf.Schema.length_encode, size_column]

theorem size_rowData (change : RowChange) :
    size (Schema.rowData.fields {
      beforeColumns := (change.before.elim [] RowData.columns).map (columnValueToProto · false)
      afterColumns := (change.after.elim [] RowData.columns).map fun col =>
        columnValueToProto col col.updated }) = change.wireSize := by
  have hb := size_image 1 change.before fun _ => false
  have ha := size_image 2 change.after ColumnValue.updated
  rw [Schema.rowData]
  simp only [size_append, hb, ha, RowChange.wireSize]

theorem size_rowChange (e : CanalEvent) (type : Int32) :
    size (Schema.rowChange.fields (rowChangeOf e type)) = e.changeSize type := by
  simp only [Schema.rowChange, size_append, size_text]
  cases hc : e.rowChange with
  | some change =>
    simp only [rowChangeOf, CanalEvent.changeSize, hc, size_enum]
    simp [textSize, Protobuf.Schema.length_encode, size_rowData]
  | none =>
    cases hd : e.ddlSql with
    | some sql =>
      simp only [rowChangeOf, CanalEvent.changeSize, hc, hd, size_enum]
      simp [flagSize, ofBool, Nat.add_assoc]
    | none =>
      simp only [rowChangeOf, CanalEvent.changeSize, hc, hd, size_enum]
      simp [textSize]

theorem size_header (e : CanalEvent) (type : Int32) :
    size (Schema.header.fields {
      logfileName := e.journalName
      logfileOffset := e.position.toInt64
      serverId := e.serverId.toInt64
      executeTime := e.executeTime
      sourceTypePresent := some Proto.typeMysql
      schemaName := e.schemaName
      tableName := e.tableName
      eventLength := Int64.ofNat (e.changeSize type)
      eventTypePresent := some type
      gtid := e.gtid.getD "" }) = e.headerSize type := by
  simp only [Schema.header, size_append, size_text, size_int64, size_enum, CanalEvent.headerSize,
    Nat.add_assoc]

variable {lib : WireCrates}

theorem length_encodeEntry (hlib : lib.Sized)
    (h : canalEventToEntry lib.toCrates e = .ok entry) :
    (lib.encodeEntry entry).length = e.entrySize := by
  cases ht : eventTypeToProto e.entryType with
  | error e => simp [canalEventToEntry, ht] at h
  | ok type =>
    have hlen : (lib.encodeRowChange (rowChangeOf e type)).length = e.changeSize type := by
      rw [hlib.rowChange, size_rowChange]
    have hpos := e.changeSize_pos type
    have hne : (lib.encodeRowChange (rowChangeOf e type)).isEmpty = false := by
      rw [List.isEmpty_eq_false_iff]
      intro hnil
      rw [hnil, List.length_nil] at hlen
      omega
    simp only [canalEventToEntry, ht, hne, hlen, Except.ok.injEq] at h
    subst entry
    rw [hlib.entry, Schema.entry, CanalEvent.entrySize, ht]
    simp [size_append, Protobuf.Schema.length_encode, size_header, hne, hlen]

theorem sum_lengths (hlib : lib.Sized) {events : List CanalEvent} {entries : List Proto.Entry}
    (h : events.mapM (canalEventToEntry lib.toCrates) = .ok entries) :
    ((entries.map lib.encodeEntry).map fun b => bytesField 2 b.length).sum =
      (events.map fun e => bytesField 2 e.entrySize).sum := by
  induction events generalizing entries with
  | nil =>
    cases h
    rfl
  | cons e events ih =>
    rw [List.mapM_cons] at h
    cases he : canalEventToEntry lib.toCrates e with
    | error x =>
      rw [he] at h
      cases h
    | ok entry =>
      cases hs : events.mapM (canalEventToEntry lib.toCrates) with
      | error x =>
        rw [he, hs] at h
        cases h
      | ok rest =>
        rw [he, hs] at h
        cases h
        simp only [List.map_cons, List.sum_cons, ih hs, length_encodeEntry hlib he]

theorem length_payload (hlib : lib.Sized)
    (h : events.mapM (canalEventToEntry lib.toCrates) = .ok entries) (batchId : Int64) :
    (Proto.Messages.payload lib { batchId, messages := entries }).length =
      payloadSize batchId events := by
  have hbody : (lib.encodeMessages { batchId, messages := entries.map lib.encodeEntry }).length =
      messagesSize batchId events := by
    rw [hlib.messages, Schema.messages, messagesSize, ← sum_lengths hlib h]
    simp only [size_append, size_int64, size_repeated, List.map_map]
    rfl
  have htype : ¬ Proto.packetTypeMessages = 0 := by decide
  rw [Proto.Messages.payload, hlib.packet, Schema.packet, payloadSize, ← hbody]
  simp [size_append, htype, enumSize, ofInt32, ofInt64]

theorem accepted_payload_iff (hlib : lib.Sized)
    (h : events.mapM (canalEventToEntry lib.toCrates) = .ok entries) (batchId : Int64) :
    Accepted (Proto.Messages.payload lib { batchId, messages := entries }) ↔
      payloadSize batchId events ≤ maxPacketSize := by
  have hlen := length_payload hlib h batchId
  rw [← hlen]
  apply accepted_iff
  intro hnil
  have hpos := enumSize_pos 3 Proto.packetTypeMessages
  rw [hnil, List.length_nil, payloadSize] at hlen
  omega

end Counting

namespace Server

theorem batch_of_call {s : Server} (hp : (s.conns c).phase = .get cid call)
    (h : ((s.step lib a).1.conns c).phase = .answer cid' events) :
    cid' = cid ∧ (a = .check c ∧ s.page call ≠ [] ∧
        events = .withEvents (s.page call) s.store.batchIdSeq ∨
      a = .timeout c ∧ events = .new 0) := by
  rcases s.step_conn lib a c with ⟨hact, -⟩ | ⟨-, ht⟩
  · cases hp.symm.trans ((step_other_answer hact lib s).1 h)
  generalize (s.step lib a).1.conns c = conn at ht h
  generalize (s.step lib a).1.store = store at ht
  generalize (s.step lib a).1.sessions = ss at ht
  generalize trace c (s.step lib a).2 = es at ht
  cases ht with
  | idle => cases hp.symm.trans h
  | stage => cases h
  | served hg hr =>
    cases hp.symm.trans hg
    cases h
    rw [s.store.lockedRead_eq] at hr
    split at hr
    · cases hr
    · rename_i hne
      cases hr
      exact ⟨rfl, .inl ⟨rfl, mt page_eq_nil.1 hne, rfl⟩⟩
  | timedOut hg =>
    cases hp.symm.trans hg
    cases h
    exact ⟨rfl, .inr ⟨rfl, rfl⟩⟩
  | answered hg => cases hp.symm.trans hg
  | quiet hf | refused hf | authenticated hf | subscribed hf | acked hf | rolledBack hf
  | awaiting hf | left hf => cases hp.symm.trans hf

theorem final_answer_of_others {s : Server} (hmid : ∀ a ∈ mid, a.actor ≠ some c) :
    ((Run.final (step lib) s mid).conns c).phase = .answer cid events ↔
      (s.conns c).phase = .answer cid events := by
  induction mid generalizing s with
  | nil => rfl
  | cons a mid ih =>
    rw [List.forall_mem_cons] at hmid
    rw [Run.final, ih hmid.2, step_other_answer hmid.1]

end Server

/-- The answer to a Get is accepted if and only if the entries of the page that its call has read,
cut down by the session filter at the time of the answer, fit into a frame; the answer to a Get
that timed out always is. -/
theorem messages_accepted_iff {lib : WireCrates} (hlib : lib.Sized) {s : Server} (a : Action)
    (mid : List Action) (hp : (s.conns c).phase = .get cid call)
    (hmid : ∀ b ∈ mid, b.actor ≠ some c) :
    let t := Run.final (Server.step lib.toCrates) s (a :: mid)
    ∀ tx m, (c, .send (.messages m)) ∈ (t.step lib.toCrates (.answer c tx)).2 →
      (Accepted (m.payload lib) ↔ (a = .check c → payloadSize s.store.batchIdSeq
        ((s.page call).filter fun e => sessionPasses lib.toCrates (t.sessions.get cid)
          e.fullName) ≤ maxPacketSize)) := by
  intro t tx m hs
  obtain ⟨tx', cid', events, ha, hphase, hb⟩ := Server.batch_of_sent hs
  cases ha
  obtain ⟨rfl, ⟨rfl, hne, rfl⟩ | ⟨rfl, rfl⟩⟩ := Server.batch_of_call hp
    ((Server.final_answer_of_others hmid).1 hphase)
  · obtain ⟨entries, he, rfl⟩ := batchAnswer_ok
      (by simpa [Events.isEmpty, Events.withEvents] using hne) hb
    rw [accepted_payload_iff hlib he]
    exact ⟨fun h _ => h, fun h => h rfl⟩
  · have hnil : ([] : List CanalEvent).mapM (canalEventToEntry lib.toCrates) = .ok [] := rfl
    have hsmall : payloadSize 0 [] ≤ maxPacketSize := by decide
    cases hb
    constructor
    · rintro - ⟨⟩
    · exact fun _ => (accepted_payload_iff hlib hnil 0).2 hsmall

/-- The answer of `readOne`. -/
theorem messages_accepted_iff_readOne :
    let s := Run.final (Server.step WireCrates.protobuf.toCrates) (.new 10 none false)
      (readOne.take 4)
    ∃ m, (0, .send (.messages m)) ∈
        ((s.step WireCrates.protobuf.toCrates (.check 0)).1.step WireCrates.protobuf.toCrates
          (.answer 0 none)).2 ∧
      Accepted (m.payload .protobuf) := by
  intro s
  have hs : (0, .send (.messages { batchId := 1, messages := [_] })) ∈
      ((s.step WireCrates.protobuf.toCrates (.check 0)).1.step WireCrates.protobuf.toCrates
        (.answer 0 none)).2 := List.mem_singleton.2 rfl
  have h := messages_accepted_iff (c := 0) WireCrates.protobuf_sized (s := s) (.check 0) [] rfl
    (List.forall_mem_nil _) none _ hs
  exact ⟨_, hs, h.2 fun _ => by decide⟩

/-- A row with one long text. -/
def longRow (text : String) : CanalEvent :=
  { storedEvent 100 with
    rowChange := some {
      tableName := "t"
      schemaName := "db"
      before := none
      after := some { columns := [
        { name := "body", value := some text, columnType := 252, isKey := false,
          updated := true }] }
      dmlType := .insert } }

def letters : Nat → String
  | 0 => ""
  | n + 1 => (letters n).push 'a'

theorem utf8ByteSize_letters (n : Nat) : (letters n).utf8ByteSize = n := by
  induction n with
  | zero => rfl
  | succ n ih =>
    rw [letters, String.utf8ByteSize_push, ih]
    rfl

theorem le_bytesField (number length : Nat) : length ≤ bytesField number length := by
  unfold bytesField
  omega

theorem le_textSize (number : Nat) (s : String) : s.utf8ByteSize ≤ textSize number s := by
  unfold textSize
  split
  · rename_i h
    rw [h]
    exact Nat.zero_le _
  · exact le_bytesField number _

theorem size_longRow (text : String) (batchId : Int64) :
    text.utf8ByteSize < payloadSize batchId [longRow text] := by
  have hcol : text.utf8ByteSize ≤ ColumnValue.wireSize
      { name := "body", value := some text, columnType := 252, isKey := false, updated := true }
      true :=
    (le_textSize 8 text).trans ((Nat.le_add_left ..).trans (Nat.le_add_right ..))
  have hchange : text.utf8ByteSize ≤ (longRow text).changeSize Proto.eventTypeInsert :=
    calc text.utf8ByteSize
      _ ≤ _ := hcol
      _ ≤ imageSize 2 (some _) ColumnValue.updated :=
        (le_bytesField 2 _).trans (Nat.le_add_right ..)
      _ ≤ _ := Nat.le_add_left ..
      _ ≤ _ := le_bytesField 12 _
      _ ≤ (longRow text).changeSize Proto.eventTypeInsert := Nat.le_add_left ..
  have hentry : text.utf8ByteSize ≤ (longRow text).entrySize :=
    hchange.trans ((le_bytesField 3 _).trans (Nat.le_add_left ..))
  have hbody : text.utf8ByteSize ≤ messagesSize batchId [longRow text] :=
    hentry.trans ((le_bytesField 2 _).trans ((Nat.le_add_right ..).trans (Nat.le_add_left ..)))
  have hpos := enumSize_pos 3 Proto.packetTypeMessages
  unfold payloadSize
  split
  · omega
  · have hfield := le_bytesField 5 (messagesSize batchId [longRow text])
    omega

/-- A server with a client whose call is about to read the row. -/
def rowStored (text : String) : Server :=
  Run.final (Server.step WireCrates.protobuf.toCrates) (.new 10 none false)
    [.receive 0 (.login "app" "" 0) none, .putBatch [longRow text], .receive 0 (.fetch 10) none,
      .arm 0]

theorem rowStored_page (text : String) : (rowStored text).page
    { start := defaultStart, batchSize := 10, stage := .armed false } = [longRow text] := by
  have hkey : defaultStart.key < (longRow text).key :=
    (by decide : defaultStart.key < (storedEvent 100).key)
  have hbuf : (rowStored text).store.buffer = [longRow text] := rfl
  have hts : defaultStart.timestamp = none := rfl
  have hread : defaultStart.readable (rowStored text).store.buffer = [longRow text] := by
    rw [hbuf, LogPosition.readable_positional hts (List.pairwise_singleton ..)]
    exact List.filter_eq_self.2 fun e he => by
      rw [List.mem_singleton.1 he]
      exact decide_eq_true hkey
  rw [Server.page, hread]
  rfl

theorem rowStored_sends (text : String) : ∃ entries,
    [longRow text].mapM (canalEventToEntry WireCrates.protobuf.toCrates) = .ok entries ∧
    (0, .send (.messages { batchId := 1, messages := entries })) ∈
      (((rowStored text).step WireCrates.protobuf.toCrates (.check 0)).1.step
        WireCrates.protobuf.toCrates (.answer 0 none)).2 := by
  have hp : ((rowStored text).conns 0).phase =
      .get "app" { start := defaultStart, batchSize := 10, stage := .armed false } := rfl
  have hsession : (rowStored text).sessions.get "app" =
      some (.new WireCrates.protobuf.toCrates "app" "example" .default) := rfl
  have hpass : sessionPasses WireCrates.protobuf.toCrates ((rowStored text).sessions.get "app")
      (longRow text).fullName = true := by
    rw [hsession]
    show sessionPasses WireCrates.protobuf.toCrates _ "db.t" = true
    decide
  have hseq : (rowStored text).store.batchIdSeq = 1 := rfl
  obtain ⟨entries, he⟩ : ∃ entries, [longRow text].mapM
      (canalEventToEntry WireCrates.protobuf.toCrates) = .ok entries := ⟨_, rfl⟩
  have hb : batchAnswer WireCrates.protobuf.toCrates ((rowStored text).sessions.get "app")
      (.withEvents [longRow text] 1) = .ok { batchId := 1, messages := entries } := by
    simp [batchAnswer, Events.isEmpty, Events.withEvents, hpass, he, Except.map]
  have hcheck := Server.step_armed WireCrates.protobuf.toCrates hp rfl
  rw [Server.check_eq, rowStored_page, if_neg (by simp), hseq] at hcheck
  refine ⟨entries, he, ?_⟩
  rw [hcheck]
  refine Server.sent_of_batch ?_ hb
  simp only [Server.hand, Server.setConn, Function.update_self]

/-- A single row of 8 MiB goes out in a frame that neither reader takes. -/
theorem long_row_refused :
    ∃ m, (0, .send (.messages m)) ∈
        (((rowStored (letters maxPacketSize)).step WireCrates.protobuf.toCrates (.check 0)).1.step
          WireCrates.protobuf.toCrates (.answer 0 none)).2 ∧
      ¬ Accepted (m.payload .protobuf) := by
  have hsize := size_longRow (letters maxPacketSize)
  rw [utf8ByteSize_letters] at hsize
  obtain ⟨entries, he, hs⟩ := rowStored_sends (letters maxPacketSize)
  refine ⟨_, hs, ?_⟩
  rw [accepted_payload_iff WireCrates.protobuf_sized he]
  exact Nat.not_le.2 (hsize _)

end Canal
