import Canal.Kafka
import Canal.Lib.Run
import Mathlib.Data.List.Perm.Subperm

namespace Canal
set_option autoImplicit true

structure KafkaConfig where
  servers : String
  topic : String
  sslCaLocation : Option String := none
  saslUsername : Option String := none
  saslPassword : Option String := none
  saslMechanism : Option String := none
deriving DecidableEq

namespace KafkaConfig

/-- What `connect` sets, in order. -/
def settings (config : KafkaConfig) : List (String × String) :=
  [("bootstrap.servers", config.servers), ("message.timeout.ms", "5000"), ("acks", "1")] ++
    (match config.sslCaLocation.isSome, config.saslUsername.isSome with
      | true, true => [("security.protocol", "SASL_SSL")]
      | true, false => [("security.protocol", "SSL")]
      | false, true => [("security.protocol", "SASL_PLAINTEXT")]
      | false, false => []) ++
    (config.sslCaLocation.map fun caPath => ("ssl.ca.location", caPath)).toList ++
    match config.saslUsername with
    | none => []
    | some user => ("sasl.username", user) ::
      ((config.saslPassword.map fun pass => ("sasl.password", pass)).toList ++
        [("sasl.mechanism", config.saslMechanism.getD "PLAIN")])

theorem settings_nodup (config : KafkaConfig) : (config.settings.map Prod.fst).Nodup := by
  obtain ⟨servers, topic, ca, user, pass, mechanism⟩ := config
  cases ca <;> cases user <;> cases pass <;> simp [settings]

theorem password_with_sasl (config : KafkaConfig) {password : String}
    (h : ("sasl.password", password) ∈ config.settings) :
    ∃ protocol ∈ ["SASL_SSL", "SASL_PLAINTEXT"],
      ("security.protocol", protocol) ∈ config.settings := by
  obtain ⟨servers, topic, ca, user, pass, mechanism⟩ := config
  cases user with
  | none => cases ca <;> simp [settings] at h
  | some user => cases ca <;> simp [settings]

end KafkaConfig

/-- A message of a call waits for a permit, is with the producer, or has been answered. -/
inductive SendState
  | waiting
  | inFlight
  | answered (delivered : Bool)
deriving DecidableEq

structure KafkaSend where
  key : String
  payload : String
  state : SendState := .waiting
deriving DecidableEq

/-- A call of `dispatch`: in `join_all`, about to return what it knew at once, or over. -/
inductive KafkaCall
  | sending (producer : Nat) (total : Nat) (sends : List KafkaSend)
  | settled (result : Except CanalError Unit)
  | ended

/-- `FutureRecord`, and the producer that it is handed to. -/
structure KafkaRecord where
  producer : Nat
  topic : String
  key : String
  payload : String
deriving DecidableEq

/-- The permits of the semaphore of a call. -/
def maxInFlight : Nat := 50

/-- A `KafkaConnector` and the calls that run on it. Producers are told apart by their number. -/
structure KafkaConnector where
  name : String
  config : KafkaConfig
  producer : Option Nat := none
  created : Nat := 0
  /-- The producers whose `connect` waits for the metadata. -/
  connecting : List Nat := []
  calls : List KafkaCall := []

/-- Why `connect` fails after the producer was created. -/
inductive MetadataError
  | join (message : String)
  | fetch (message : String)

def MetadataError.toCanalError : MetadataError → CanalError
  | .join message => .internal ("Kafka metadata join error: " ++ message)
  | .fetch message => .internal ("Kafka metadata: " ++ message)

/-- A step of one call: a message gets a permit, a message is answered, all are joined, or the call
is dropped. -/
inductive CallAction
  | acquire (i : Nat)
  | answer (i : Nat) (delivered : Bool)
  | join
  | abort

inductive KafkaAction
  | connect (created : Except String Unit)
  | metadata (producer : Nat) (fetched : Except MetadataError Unit)
  | close
  | dispatch (events : List CanalEvent)
  | call (k : Nat) (a : CallAction)

inductive KafkaNote
  | created (producer : Nat) (settings : List (String × String))
  | connected (producer : Nat)
  | refused (e : CanalError)
  | closed
  | began (call : Nat) (events : List CanalEvent) (producer : Option Nat)
  | record (call : Nat) (record : KafkaRecord)
  | answered (call : Nat) (delivered : Bool)
  | returned (call : Nat) (result : Except CanalError Unit)

namespace SendState

def started : SendState → Bool
  | waiting => false
  | _ => true

def isInFlight : SendState → Bool
  | inFlight => true
  | _ => false

def answer : SendState → Option Bool
  | answered delivered => some delivered
  | _ => none

end SendState

def KafkaSend.message (send : KafkaSend) : String × String := (send.key, send.payload)

def KafkaRecord.message (r : KafkaRecord) : String × String := (r.key, r.payload)

namespace KafkaConnector

def new (name : String) (config : KafkaConfig) : KafkaConnector := { name, config }

/-- The result of a call whose messages have all been answered. -/
def outcome (name : String) (failed total : Nat) : Except CanalError Unit :=
  if 0 < failed then
    .error (.internal ("Kafka '" ++ name ++ "': " ++ toString failed ++ "/" ++ toString total ++
      " messages failed"))
  else .ok ()

/-- The next step of call `k`. -/
def advance (name topic : String) (k : Nat) (call : KafkaCall) (a : CallAction) :
    KafkaCall × List KafkaNote :=
  match a, call with
  | .acquire i, .sending producer total sends =>
    match sends[i]? with
    | some send =>
      if send.state = .waiting ∧ (sends.countP fun s => s.state.isInFlight) < maxInFlight then
        (.sending producer total (sends.set i { send with state := .inFlight }),
          [.record k { producer, topic, key := send.key, payload := send.payload }])
      else (call, [])
    | none => (call, [])
  | .answer i delivered, .sending producer total sends =>
    match sends[i]? with
    | some send =>
      if send.state = .inFlight then
        (.sending producer total (sends.set i { send with state := .answered delivered }),
          [.answered k delivered])
      else (call, [])
    | none => (call, [])
  | .join, .sending _ total sends =>
    if sends.all fun s => s.state.answer.isSome then
      let results := sends.filterMap fun s => s.state.answer
      (.ended, [.returned k (outcome name (results.count false) total)])
    else (call, [])
  | .join, .settled result => (.ended, [.returned k result])
  | .abort, _ => (.ended, [])
  | _, _ => (call, [])

/-- A call of `dispatch` up to the first message that waits. -/
def dispatch (s : KafkaConnector) (events : List CanalEvent) : KafkaCall :=
  if events.length = 0 then .settled (.ok ())
  else
    match s.producer with
    | none => .settled (.error (.internal "KafkaConnector: not connected"))
    | some producer => .sending producer events.length
        ((serializeEvents events).map fun (key, payload) => { key, payload })

def step (s : KafkaConnector) : KafkaAction → KafkaConnector × List KafkaNote
  | .connect (.error e) => (s, [.refused (.internal ("Kafka producer: " ++ e))])
  | .connect (.ok ()) =>
    ({ s with created := s.created + 1, connecting := s.connecting ++ [s.created] },
      [.created s.created s.config.settings])
  | .metadata producer fetched =>
    if producer ∈ s.connecting then
      let s := { s with connecting := s.connecting.erase producer }
      match fetched with
      | .ok () => ({ s with producer := some producer }, [.connected producer])
      | .error e => (s, [.refused e.toCanalError])
    else (s, [])
  | .close => ({ s with producer := none }, [.closed])
  | .dispatch events =>
    ({ s with calls := s.calls ++ [s.dispatch events] },
      [.began s.calls.length events s.producer])
  | .call k a =>
    match s.calls[k]? with
    | some call =>
      let r := advance s.name s.config.topic k call a
      ({ s with calls := s.calls.set k r.1 }, r.2)
    | none => (s, [])

end KafkaConnector

theorem getElem?_concat_cases {l : List α} (h : (l ++ [a])[k]? = some b) :
    l[k]? = some b ∨ k = l.length ∧ b = a := by
  by_cases hlt : k < l.length
  · rw [List.getElem?_append_left hlt] at h
    exact .inl h
  · have hle := (List.getElem?_eq_some_iff.1 h).1
    rw [List.length_append, List.length_singleton] at hle
    obtain rfl : k = l.length := by omega
    rw [List.getElem?_concat_length] at h
    exact .inr ⟨rfl, (Option.some.inj h).symm⟩

def kafkaRecords (k : Nat) (os : List KafkaNote) : List KafkaRecord :=
  os.filterMap fun
    | .record k' r => if k' = k then some r else none
    | _ => none

def kafkaAnswers (k : Nat) (os : List KafkaNote) : List Bool :=
  os.filterMap fun
    | .answered k' delivered => if k' = k then some delivered else none
    | _ => none

def kafkaResults (k : Nat) (os : List KafkaNote) : List (Except CanalError Unit) :=
  os.filterMap fun
    | .returned k' result => if k' = k then some result else none
    | _ => none

@[simp] theorem kafkaRecords_append :
    kafkaRecords k (os ++ os') = kafkaRecords k os ++ kafkaRecords k os' := List.filterMap_append ..

@[simp] theorem kafkaAnswers_append :
    kafkaAnswers k (os ++ os') = kafkaAnswers k os ++ kafkaAnswers k os' := List.filterMap_append ..

@[simp] theorem kafkaResults_append :
    kafkaResults k (os ++ os') = kafkaResults k os ++ kafkaResults k os' := List.filterMap_append ..

namespace KafkaConnector

end KafkaConnector

end Canal
