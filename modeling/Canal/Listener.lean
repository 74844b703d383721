import Mathlib.Data.Finset.Card
import Canal.Uplink

namespace Canal
set_option autoImplicit true

/-- `MAX_CONNECTIONS`. -/
def maxConnections : Nat := 1024

/-- Where `serve` stands: in its `select!`, in the loop over `try_join_next` after a connection, in
the wait for the tasks after the loop, or at its end. -/
inductive ServePhase
  | accepting
  | reaping
  | draining
  | returned (result : Except CanalError Unit)

/-- The connections are numbered as they are accepted. A task holds its permit until it ends, and
stays in the set until it is joined. -/
structure Listener where
  host : ByteServer
  phase : ServePhase := .accepting
  permits : Nat := maxConnections
  tasks : List Nat := []
  accepted : Nat := 0
  cancelled : Bool := false

/-- A step of `serve`, of whoever cancels the token, or of the tasks and their peers. -/
inductive ServeAction
  | incoming
  | acceptError (e : CanalError)
  | cancel
  | shutdown
  | join (c : Nat)
  | resume
  | drained
  | timeout
  | host (a : ByteAction)

inductive ServeNote
  | accepted (c : Nat)
  | rejected
  | joined (c : Nat)
  | returned (result : Except CanalError Unit)
  | effect (c : Nat) (e : Effect)

def Phase.isOpen : Phase → Bool
  | .closed _ => false
  | _ => true

namespace Listener

/-- The task of connection `c` has not ended. -/
def isOpen (s : Listener) (c : Nat) : Bool := (s.host.server.conns c).phase.isOpen

/-- The connections whose tasks run. -/
def live (s : Listener) : Finset Nat := (Finset.range s.accepted).filter fun c => s.isOpen c = true

/-- A step of the tasks; the permit of one that ends goes back. -/
def run (lib : PeerCrates) (s : Listener) (a : ByteAction) : Listener × List ServeNote :=
  let r := s.host.step lib a
  let s' := { s with host := r.1 }
  let permits := match a.actor with
    | some c => if s.isOpen c && !s'.isOpen c then s.permits + 1 else s.permits
    | none => s.permits
  ({ s' with permits }, r.2.map fun o => .effect o.1 o.2)

def step (lib : PeerCrates) (s : Listener) (a : ServeAction) : Listener × List ServeNote :=
  match a, s.phase with
  | .incoming, .accepting =>
    if s.permits = 0 then (s, [.rejected])
    else ({ s with phase := .reaping, permits := s.permits - 1, tasks := s.tasks ++ [s.accepted],
                   accepted := s.accepted + 1 }, [.accepted s.accepted])
  | .acceptError e, .accepting => ({ s with phase := .returned (.error e) }, [.returned (.error e)])
  | .shutdown, .accepting => if s.cancelled then ({ s with phase := .draining }, []) else (s, [])
  | .join c, .reaping =>
    if c ∈ s.tasks ∧ s.isOpen c = false then ({ s with tasks := s.tasks.erase c }, [.joined c])
    else (s, [])
  | .join c, .draining =>
    if c ∈ s.tasks ∧ s.isOpen c = false then ({ s with tasks := s.tasks.erase c }, [.joined c])
    else (s, [])
  | .resume, .reaping =>
    if s.tasks.all s.isOpen then ({ s with phase := .accepting }, []) else (s, [])
  | .drained, .draining =>
    if s.tasks.isEmpty then ({ s with phase := .returned (.ok ()) }, [.returned (.ok ())])
    else (s, [])
  | .timeout, .draining => ({ s with phase := .returned (.ok ()) }, [.returned (.ok ())])
  | .cancel, _ => ({ s with cancelled := true }, [])
  | .host a, _ =>
    match a.actor with
    | some c => if c < s.accepted then s.run lib a else (s, [])
    | none => s.run lib a
  | _, _ => (s, [])

/-- What a step of the listener can do. -/
inductive Stepped (lib : PeerCrates) (s : Listener) :
    ServeAction → Listener → List ServeNote → Prop
  | idle : Stepped lib s a s []
  | rejected (hp : s.phase = .accepting) (h : s.permits = 0) :
      Stepped lib s .incoming s [.rejected]
  | accepted (hp : s.phase = .accepting) (h : s.permits ≠ 0) :
      Stepped lib s .incoming
        { s with phase := .reaping, permits := s.permits - 1, tasks := s.tasks ++ [s.accepted],
                 accepted := s.accepted + 1 } [.accepted s.accepted]
  | failed (hp : s.phase = .accepting) (e : CanalError) :
      Stepped lib s (.acceptError e) { s with phase := .returned (.error e) }
        [.returned (.error e)]
  | cancelled : Stepped lib s .cancel { s with cancelled := true } []
  | stopped (hp : s.phase = .accepting) (h : s.cancelled = true) :
      Stepped lib s .shutdown { s with phase := .draining } []
  | joined (hp : s.phase = .reaping ∨ s.phase = .draining) (hc : c ∈ s.tasks)
      (hclosed : s.isOpen c = false) :
      Stepped lib s (.join c) { s with tasks := s.tasks.erase c } [.joined c]
  | resumed (hp : s.phase = .reaping) (hall : ∀ c ∈ s.tasks, s.isOpen c = true) :
      Stepped lib s .resume { s with phase := .accepting } []
  | drained (hp : s.phase = .draining) (h : s.tasks = []) :
      Stepped lib s .drained { s with phase := .returned (.ok ()) } [.returned (.ok ())]
  | timedOut (hp : s.phase = .draining) :
      Stepped lib s .timeout { s with phase := .returned (.ok ()) } [.returned (.ok ())]
  | ran (h : ∀ c, a.actor = some c → c < s.accepted) :
      Stepped lib s (.host a) (s.run lib a).1 (s.run lib a).2

theorem stepped (lib : PeerCrates) (s : Listener) (a : ServeAction) :
    Stepped lib s a (s.step lib a).1 (s.step lib a).2 := by
  unfold step
  split
  · rename_i hp
    split
    · rename_i h
      exact .rejected hp h
    · rename_i h
      exact .accepted hp h
  · rename_i e hp
    exact .failed hp e
  · rename_i hp
    split
    · rename_i h
      exact .stopped hp h
    · exact .idle
  · rename_i c hp
    split
    · rename_i h
      exact .joined (.inl hp) h.1 h.2
    · exact .idle
  · rename_i c hp
    split
    · rename_i h
      exact .joined (.inr hp) h.1 h.2
    · exact .idle
  · rename_i hp
    split
    · rename_i h
      exact .resumed hp (List.all_eq_true.1 h)
    · exact .idle
  · rename_i hp
    split
    · rename_i h
      exact .drained hp (List.isEmpty_iff.1 h)
    · exact .idle
  · rename_i hp
    exact .timedOut hp
  · exact .cancelled
  · rename_i a _
    split
    · rename_i c hc
      split
      · rename_i h
        exact .ran fun c' hc' => Option.some.inj (hc.symm.trans hc') ▸ h
      · exact .idle
    · rename_i hc
      exact .ran fun c' hc' => nomatch hc.symm.trans hc'
  · exact .idle

end Listener

theorem Connection.notify_isOpen (conn : Connection) :
    conn.notify.phase.isOpen = conn.phase.isOpen := by
  rcases conn.notify_phase with h | ⟨cid, call, h, h'⟩
  · rw [h]
  · rw [h, h']
    rfl

theorem ByteServer.step_conn (lib : PeerCrates) (s : ByteServer) (ha : a.actor ≠ some c) :
    (s.step lib a).1.server.conns c = s.server.conns c ∨
      (s.step lib a).1.server.conns c = (s.server.conns c).notify := by
  rw [(step_server lib s a).1]
  cases hb : s.action lib a with
  | none => exact .inl rfl
  | some b =>
    rcases s.server.step_conn lib.toCrates b c with ⟨-, -, hc⟩ | ⟨hactor, -⟩
    · exact hc
    · exact absurd ((action_actor hb).symm.trans hactor) ha

/-- The loop is over. -/
def ServePhase.isOver : ServePhase → Bool
  | .draining => true
  | .returned _ => true
  | _ => false

def ServePhase.result : ServePhase → Option (Except CanalError Unit)
  | .returned r => some r
  | _ => none

def ServeNote.result : ServeNote → Option (Except CanalError Unit)
  | .returned r => some r
  | _ => none

/-- One task more may be in the set before the loop over `try_join_next` is through. -/
def ServePhase.slack : ServePhase → Nat
  | .reaping => 1
  | _ => 0

namespace Listener

variable {lib : PeerCrates} {s : Listener}

theorem run_isOpen_other (ha : a.actor ≠ some c) : (s.run lib a).1.isOpen c = s.isOpen c := by
  have hc := s.host.step_conn lib ha
  simp only [run, isOpen]
  rcases hc with hc | hc
  · rw [hc]
  · rw [hc, Connection.notify_isOpen]

theorem run_isOpen_closed (h : s.isOpen c = false) : (s.run lib a).1.isOpen c = false := by
  simp only [isOpen] at h
  cases hp : (s.host.server.conns c).phase with
  | frame | get | answer =>
    rw [hp] at h
    cases h
  | closed r =>
    simp only [run, isOpen, (s.host.step_server lib a).1]
    cases s.host.action lib a with
    | none => exact hp ▸ rfl
    | some b =>
      have hb : (Run.final (Server.step lib.toCrates) s.host.server
          (some b).toList) = (s.host.server.step lib.toCrates b).1 := rfl
      rw [hb, (Server.step_of_closed hp lib.toCrates b).1]
      rfl

/-- The live tasks after a step of one: the same, or all but one that has given its permit back. -/
theorem run_live (s : Listener) (lib : PeerCrates)
    (ha : ∀ c, a.actor = some c → c < s.accepted) :
    ((s.run lib a).1.live = s.live ∧ (s.run lib a).1.permits = s.permits) ∨
    ∃ c ∈ s.live, (s.run lib a).1.live = s.live.erase c ∧
      (s.run lib a).1.permits = s.permits + 1 := by
  have hsame : (∀ c, (s.run lib a).1.isOpen c = s.isOpen c) → (s.run lib a).1.live = s.live := by
    intro h
    exact Finset.filter_congr fun c _ => by rw [h c]
  cases hactor : a.actor with
  | none =>
    left
    refine ⟨hsame fun c => run_isOpen_other (hactor ▸ nofun), ?_⟩
    simp only [run, hactor]
  | some c =>
    have hother : ∀ c', c' ≠ c → (s.run lib a).1.isOpen c' = s.isOpen c' := by
      intro c' hc
      apply run_isOpen_other
      rw [hactor]
      exact fun he => hc (Option.some.inj he).symm
    have hpermits : (s.run lib a).1.permits =
        if s.isOpen c && !(s.run lib a).1.isOpen c then s.permits + 1 else s.permits := by
      simp only [run, hactor]
      rfl
    cases hopen : s.isOpen c with
    | false =>
      have hclosed := @run_isOpen_closed lib s c a hopen
      left
      refine ⟨hsame fun c' => ?_, by rw [hpermits, hopen]; rfl⟩
      by_cases hc : c' = c
      · rw [hc, hopen, hclosed]
      · exact hother c' hc
    | true =>
      cases hopen' : (s.run lib a).1.isOpen c with
      | true =>
        left
        refine ⟨hsame fun c' => ?_, by rw [hpermits, hopen, hopen']; rfl⟩
        by_cases hc : c' = c
        · rw [hc, hopen, hopen']
        · exact hother c' hc
      | false =>
        right
        refine ⟨c, ?_, ?_, by rw [hpermits, hopen, hopen']; rfl⟩
        · exact Finset.mem_filter.2 ⟨Finset.mem_range.2 (ha c hactor), hopen⟩
        · ext c'
          rw [Finset.mem_erase, live, live, Finset.mem_filter, Finset.mem_filter]
          by_cases hc : c' = c
          · rw [hc, hopen']
            simp
          · rw [hother c' hc]
            simp [hc, run]

end Listener

end Canal
