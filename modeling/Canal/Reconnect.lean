import Canal.Connector
import Canal.Lib.Run

namespace Canal
set_option autoImplicit true

namespace DefaultBinlogConnector

variable {host username password : String} {port : UInt16} {serverId : UInt64}
  {c : DefaultBinlogConnector}

/-- A connect that would build options finds no cancel token: no other has since `new` or the last
disconnect. -/
def renewed (c : DefaultBinlogConnector) : ConnectorCall → Bool
  | .connect .. => !c.ready || !c.cancelToken
  | _ => true

/-- The password is wiped as long as there is a cancel token. -/
structure Holds (password : String) (c : DefaultBinlogConnector) : Prop where
  original : c.originalPassword = some password
  current : c.password = if c.cancelToken then "" else password

theorem new_holds (h : new host port username password serverId = .ok c) : Holds password c := by
  rw [new] at h
  split at h
  · cases h
  · cases h
    exact ⟨rfl, rfl⟩

theorem Holds.disconnect (h : Holds password c) : Holds password c.disconnect.1 := by
  constructor
  · exact h.original
  · show (if c.password.isEmpty then c.originalPassword.getD c.password else c.password) = password
    rw [h.original, h.current, Option.getD_some]
    cases c.cancelToken with
    | true => rfl
    | false => simp

theorem Holds.connect (h : Holds password c) (pos : LogPosition) (replicate : Replicate)
    (tx : EventChannel) : Holds password (c.connect pos replicate tx).1 := by
  obtain ⟨c', notes, he, hc⟩ := c.connect_cases pos replicate tx
  rw [he]
  cases hc with
  | refused => exact h
  | started | timedOut | failedOpen | failedClosed | died => exact ⟨h.original, rfl⟩

theorem Holds.takeReceiver (h : Holds password c) : Holds password c.takeReceiver.1 := by
  obtain ⟨message, he⟩ | he := c.takeReceiver_cases
  · rw [he]
    exact h
  · rw [he]
    exact ⟨h.original, h.current⟩

theorem Holds.step (h : Holds password c) (call : ConnectorCall) :
    Holds password (c.step call).1 := by
  cases call with
  | takeReceiver => exact h.takeReceiver
  | withChannel | withSslMode mode | withConnectTimeout secs => exact ⟨h.original, h.current⟩
  | connect pos replicate tx => exact h.connect pos replicate tx
  | disconnect => exact h.disconnect

theorem built_iff : .built options ∈ (c.step call).2 ↔
    ∃ pos replicate tx, call = .connect pos replicate tx ∧ c.ready = true ∧
      options = c.buildOptions pos := by
  cases call with
  | connect pos replicate tx =>
    obtain ⟨c', notes, he, hc⟩ := c.connect_cases pos replicate tx
    simp only [step, he]
    cases hc with
    | refused replicate hr e => simp [hr]
    | started hr | timedOut hr | failedOpen hr | failedClosed hr | died hr => simp [hr]
  | takeReceiver =>
    obtain ⟨message, he⟩ | he := c.takeReceiver_cases
    · simp [step, he]
    · simp [step, he]
  | withChannel | withSslMode | withConnectTimeout | disconnect =>
    simp [step, withChannel, disconnect]

theorem Holds.carries_iff (h : Holds password c) (hp : password ≠ "") (call : ConnectorCall) :
    (∀ note ∈ (c.step call).2, ∀ options, note = .built options → options.password = password) ↔
      c.renewed call = true := by
  cases call with
  | connect pos replicate tx =>
    have hpass : (c.buildOptions pos).password = password ↔ c.cancelToken = false := by
      show c.password = password ↔ _
      rw [h.current]
      cases c.cancelToken <;> simp [hp.symm]
    constructor
    · intro hall
      cases hr : c.ready with
      | false => simp [renewed, hr]
      | true =>
        have hb := hall _ (built_iff.2 ⟨pos, replicate, tx, rfl, hr, rfl⟩) _ rfl
        simp [renewed, hpass.1 hb]
    · rintro hren note hnote options rfl
      obtain ⟨pos', replicate', tx', he, hr, rfl⟩ := built_iff.1 hnote
      cases he
      simp only [renewed, hr, Bool.not_true, Bool.false_or, Bool.not_eq_true'] at hren
      exact hpass.2 hren
  | takeReceiver | withChannel | withSslMode | withConnectTimeout | disconnect =>
    constructor
    · intro _
      rfl
    · rintro - note hnote options rfl
      obtain ⟨pos, replicate, tx, he, -, -⟩ := built_iff.1 hnote
      cases he

/-- The options of every connect carry the password given to `new` if and only if that password is
empty or every connect that builds options is the first since `new` or the last disconnect. -/
theorem built_password_iff (hnew : new host port username password serverId = .ok c)
    (calls : List ConnectorCall) :
    (∀ note ∈ Run.outputs step c calls, ∀ options, note = .built options →
        options.password = password) ↔
      password = "" ∨ Run.Along step (fun _ c call => c.renewed call = true) c calls := by
  have hold := new_holds hnew
  by_cases hp : password = ""
  · subst hp
    refine iff_of_true ?_ (.inl rfl)
    rw [Run.forall_outputs]
    rintro pre call post - note hnote options rfl
    obtain ⟨pos, replicate, tx, -, -, rfl⟩ := built_iff.1 hnote
    have hpre : Holds "" (Run.final step c pre) :=
      Run.final_invariant (fun _ call h => h.step call) hold pre
    show (Run.final step c pre).password = ""
    rw [hpre.current, ite_self]
  · rw [Run.forall_outputs, or_iff_right hp]
    exact Run.Along.congr (I := fun _ => Holds password) hold (fun _ _ call h _ => h.step call)
      fun _ _ call h => h.carries_iff hp call

/-- A connect after one that timed out sends an empty password. -/
theorem retry_sends_empty_password :
    let pos : LogPosition := { journalName := "mysql-bin.000001", position := 4, serverId := none }
    ∃ c, new "localhost" 3306 "canal" "secret" 1 = .ok c ∧
      ∃ options, options.password = "" ∧
        ConnectorNote.built options ∈
          Run.outputs step c [.withChannel, .connect pos .pending {}, .connect pos .ok {}] := by
  intro pos
  let options : ReplicaOptions :=
    { hostname := "localhost"
      port := 3306
      username := "canal"
      password := ""
      serverId := 1
      blocking := true
      sslMode := .disabled
      binlog := ("mysql-bin.000001", 4) }
  exact ⟨_, rfl, options, rfl, by decide⟩

theorem built_password_iff_reconnect :
    let pos : LogPosition := { journalName := "mysql-bin.000001", position := 4, serverId := none }
    ∃ c, new "localhost" 3306 "canal" "secret" 1 = .ok c ∧
      ∀ note ∈ Run.outputs step c
          [.takeReceiver, .connect pos .ok {}, .disconnect, .takeReceiver,
            .connect pos .pending {}],
        ∀ options, note = ConnectorNote.built options → options.password = "secret" := by
  intro pos
  have hnew : new "localhost" 3306 "canal" "secret" 1 = .ok _ := rfl
  exact ⟨_, hnew, (built_password_iff hnew _).2 (.inr (Run.Along.of_check (by decide)))⟩

def replicatingNext (begun : Bool) : ConnectorNote → Bool
  | .replicating => true
  | .disconnected => false
  | _ => begun

/-- Replication has begun since `new` or the last disconnect. -/
def replicatingAfter (shown : List ConnectorNote) : Bool := shown.foldl replicatingNext false

/-- A connect returns `Ok` only if replication has begun, and otherwise returns an error and leaves
a connector that may connect. -/
def Truthful (before : List ConnectorNote) (c : DefaultBinlogConnector) : ConnectorCall → Prop
  | .connect pos replicate tx =>
    let (c', shown) := c.connect pos replicate tx
    let begun := replicatingAfter (before ++ shown)
    (.returned (.ok ()) ∈ shown → begun = true) ∧
      (begun = false →
        (∃ e, .returned (.error e) ∈ shown) ∧ c'.running = false ∧ c'.connected = false)
  | _ => True

/-- A replication task that is started neither fails nor dies before it has reported. -/
def unfailing (c : DefaultBinlogConnector) : ConnectorCall → Bool
  | .connect _ (.error _) _ | .connect _ .panics _ => !c.ready
  | _ => true

/-- What the flags say about the replication task. -/
structure Flagged (before : List ConnectorNote) (c : DefaultBinlogConnector) : Prop where
  begun : replicatingAfter before = c.running
  connected : c.connected = true → c.running = true

theorem replicatingAfter_append (before shown : List ConnectorNote) :
    replicatingAfter (before ++ shown) = shown.foldl replicatingNext (replicatingAfter before) :=
  List.foldl_append ..

theorem new_flagged (h : new host port username password serverId = .ok c) : Flagged [] c := by
  rw [new] at h
  split at h
  · cases h
  · cases h
    exact ⟨rfl, id⟩

theorem running_of_ready (hr : c.ready = true) : c.running = false := by
  rw [ready, Bool.and_eq_true, Bool.not_eq_true'] at hr
  exact hr.1

theorem Flagged.connected_of_stopped (h : Flagged before c) (hrun : c.running = false) :
    c.connected = false := by
  rw [← Bool.not_eq_true]
  intro hc
  rw [h.connected hc] at hrun
  cases hrun

theorem Flagged.connected_of_ready (h : Flagged before c) (hr : c.ready = true) :
    c.connected = false := h.connected_of_stopped (running_of_ready hr)

theorem Flagged.connect (h : Flagged before c)
    (hu : c.unfailing (.connect pos replicate tx) = true) :
    Flagged (before ++ (c.connect pos replicate tx).2) (c.connect pos replicate tx).1 := by
  obtain ⟨c', shown, he, hc⟩ := c.connect_cases pos replicate tx
  rw [he]
  have hfail : c.ready = true → (!c.ready) = true → False := by
    intro hr hn
    rw [hr] at hn
    cases hn
  cases hc with
  | refused => exact ⟨(replicatingAfter_append before _).trans h.begun, h.connected⟩
  | started =>
    constructor
    · rw [replicatingAfter_append]
      rfl
    · intro _
      rfl
  | timedOut hr =>
    constructor
    · rw [replicatingAfter_append]
      exact h.begun.trans (running_of_ready hr)
    · intro hcon
      exact absurd hcon (by simp [h.connected_of_ready hr])
  | failedOpen hr | failedClosed hr | died hr => exact (hfail hr hu).elim

theorem Flagged.takeReceiver (h : Flagged before c) :
    Flagged (before ++ c.takeReceiver.2) c.takeReceiver.1 := by
  have hsame := replicatingAfter_append before
  obtain ⟨message, he⟩ | he := c.takeReceiver_cases
  · rw [he]
    exact ⟨(hsame _).trans h.begun, h.connected⟩
  · rw [he]
    exact ⟨(hsame _).trans h.begun, h.connected⟩

theorem Flagged.step (h : Flagged before c) (call : ConnectorCall)
    (hu : c.unfailing call = true) : Flagged (before ++ (c.step call).2) (c.step call).1 := by
  cases call with
  | takeReceiver => exact h.takeReceiver
  | withChannel | withSslMode | withConnectTimeout =>
    exact ⟨(replicatingAfter_append before _).trans h.begun, h.connected⟩
  | connect pos replicate tx => exact h.connect hu
  | disconnect =>
    constructor
    · rw [replicatingAfter_append]
      rfl
    · intro hcon
      cases hcon

theorem Flagged.truthful_connect_iff (h : Flagged before c) (pos : LogPosition)
    (replicate : Replicate) (tx : EventChannel) :
    Truthful before c (.connect pos replicate tx) ↔
      c.unfailing (.connect pos replicate tx) = true := by
  obtain ⟨c', shown, he, hc⟩ := c.connect_cases pos replicate tx
  simp only [Truthful, he, replicatingAfter_append, h.begun]
  cases hc with
  | refused _ hr e =>
    apply iff_of_true
    · constructor
      · simp
      · intro hrun
        exact ⟨⟨e, List.mem_singleton_self _⟩, hrun, h.connected_of_stopped hrun⟩
    · cases replicate <;> simp [unfailing, hr]
  | started => simp [replicatingNext, unfailing]
  | timedOut hr => simp [replicatingNext, unfailing, running_of_ready hr, h.connected_of_ready hr]
  | failedOpen hr | failedClosed hr | died hr =>
    simp [replicatingNext, unfailing, hr, running_of_ready hr]

theorem Flagged.truthful_iff (h : Flagged before c) (call : ConnectorCall) :
    Truthful before c call ↔ c.unfailing call = true := by
  cases call with
  | connect pos replicate tx => exact h.truthful_connect_iff pos replicate tx
  | takeReceiver | withChannel | withSslMode | withConnectTimeout | disconnect =>
    exact iff_of_true trivial rfl

/-- Connects are truthful along a run if and only if no replication task of the run fails or dies
before it has reported. -/
theorem connect_truthful_iff (hnew : new host port username password serverId = .ok c)
    (calls : List ConnectorCall) :
    Run.Along step Truthful c calls ↔
      Run.Along step (fun _ c call => c.unfailing call = true) c calls :=
  Run.Along.congr (I := Flagged) (new_flagged hnew) (fun _ _ call h hu => h.step call hu)
    fun _ _ call h => h.truthful_iff call

theorem connect_truthful_iff_timeout :
    let pos : LogPosition := { journalName := "mysql-bin.000001", position := 4, serverId := none }
    ∃ c, new "localhost" 3306 "canal" "secret" 1 = .ok c ∧
      Run.Along step Truthful c
        [.connect pos .ok {}, .withChannel, .connect pos .pending {}, .connect pos .ok {},
          .connect pos (.error "closed") {}] := by
  intro pos
  have hnew : new "localhost" 3306 "canal" "secret" 1 = .ok _ := rfl
  exact ⟨_, hnew, (connect_truthful_iff hnew _).2 (Run.Along.of_check (by decide))⟩

/-- A failed start with the channel open, one with the channel closed, and a task that dies are all
reported as a start; after the first the next connect is refused. -/
theorem failed_start_reported_ok :
    let pos : LogPosition := { journalName := "mysql-bin.000001", position := 4, serverId := none }
    ∃ c, new "localhost" 3306 "canal" "secret" 1 = .ok c ∧
      ¬ Run.Along step Truthful c [.withChannel, .connect pos (.error "denied") {}] ∧
      ¬ Run.Along step Truthful c
        [.withChannel, .connect pos (.error "denied") { remaining := some 0 }] ∧
      ¬ Run.Along step Truthful c [.withChannel, .connect pos .panics {}] ∧
      ConnectorNote.returned (.error (.internal "already connected — disconnect first")) ∈
        Run.outputs step c
          [.withChannel, .connect pos (.error "denied") {}, .connect pos .ok {}] := by
  intro pos
  refine ⟨_, rfl, ?_, ?_, ?_, by decide⟩ <;>
  · intro h
    have hend := h [.withChannel] _ [] rfl
    exact absurd (hend.1 (by decide)) (by decide)

end DefaultBinlogConnector

end Canal
