import Mathlib.Data.List.Nodup
import Canal.ConstantTime

namespace Canal
set_option autoImplicit true

/-- `InstanceManager`: every instance has a number, under which its `running` flag is found; the
table of destinations is in the order in which it is iterated over. -/
structure InstanceManager where
  running : List Bool := []
  instances : List (String × Nat) := []
  distinct : (instances.map Prod.fst).Nodup
  known : ∀ e ∈ instances, e.2 < running.length

namespace InstanceManager

def new : InstanceManager where
  distinct := by simp
  known _ he := absurd he List.not_mem_nil

def get (m : InstanceManager) (destination : String) : Option Nat :=
  m.instances.lookup destination

def list (m : InstanceManager) : List String := m.instances.map Prod.fst

def isRunning (m : InstanceManager) (i : Nat) : Bool := m.running[i]?.getD false

/-- `start` or `stop` of an instance. -/
def setRunning (m : InstanceManager) (i : Nat) (running : Bool) : InstanceManager :=
  { m with
    running := m.running.set i running
    known := fun e he => Nat.lt_of_lt_of_eq (m.known e he) List.length_set.symm }

/-- The table after the entry of `destination` was made to name instance `i`; a new entry comes to
stand at `place`. -/
def insert (table : List (String × Nat)) (destination : String) (i place : Nat) :
    List (String × Nat) :=
  if destination ∈ table.map Prod.fst then
    table.map fun e => if e.1 = destination then (destination, i) else e
  else table.take place ++ (destination, i) :: table.drop place

theorem insert_distinct {table : List (String × Nat)} (h : (table.map Prod.fst).Nodup)
    (destination : String) (i place : Nat) :
    ((insert table destination i place).map Prod.fst).Nodup := by
  unfold insert
  split
  · rw [List.map_map]
    have hkeys : table.map (Prod.fst ∘ fun e : String × Nat =>
        if e.1 = destination then (destination, i) else e) = table.map Prod.fst := by
      apply List.map_congr_left
      intro e _
      by_cases he : e.1 = destination
      · simp [he]
      · simp [he]
    rw [hkeys]
    exact h
  · rename_i hnew
    rw [List.map_append, List.map_cons, List.nodup_middle, ← List.map_append,
      List.take_append_drop, List.nodup_cons]
    exact ⟨hnew, h⟩

theorem mem_insert {table : List (String × Nat)} (h : e ∈ insert table destination i place) :
    e ∈ table ∨ e = (destination, i) := by
  unfold insert at h
  split at h
  · obtain ⟨e', he', rfl⟩ := List.mem_map.1 h
    by_cases hd : e'.1 = destination
    · rw [if_pos hd]
      exact .inr rfl
    · rw [if_neg hd]
      exact .inl he'
  · rcases List.mem_append.1 h with h | h
    · exact .inl (List.mem_of_mem_take h)
    · rcases List.mem_cons.1 h with rfl | h
      · exact .inr rfl
      · exact .inl (List.mem_of_mem_drop h)

/-- An instance that was registered before under the destination is no longer found there. -/
def register (m : InstanceManager) (destination : String) (running : Bool) (place : Nat) :
    InstanceManager where
  running := m.running ++ [running]
  instances := insert m.instances destination m.running.length place
  distinct := insert_distinct m.distinct destination m.running.length place
  known := by
    intro e he
    rw [List.length_append, List.length_singleton]
    rcases mem_insert he with he | rfl
    · exact Nat.lt_succ_of_lt (m.known e he)
    · exact Nat.lt_succ_self _

def startAll (m : InstanceManager) : InstanceManager :=
  m.instances.foldl (fun m e => m.setRunning e.2 true) m

theorem isRunning_setRunning (m : InstanceManager) (i j : Nat) (running : Bool)
    (hi : i < m.running.length) :
    (m.setRunning i running).isRunning j = if i = j then running else m.isRunning j := by
  unfold isRunning setRunning
  rw [List.getElem?_set]
  split
  · rfl
  · rfl

end InstanceManager

structure InstanceSummary where
  name : String
  destination : String
  running : Bool
deriving DecidableEq

/-- The requests that the instances matter to; `authorization` is the value of that header where it
is text. -/
inductive AdminRequest
  | index
  | list (authorization : Option String)
  | start (authorization : Option String) (name : String)
  | stop (authorization : Option String) (name : String)

/-- `page` is what the landing page says of the instances. -/
inductive AdminResponse
  | status (code : StatusCode)
  | page (running total : Nat)
  | instances (summaries : List InstanceSummary)
  | message (status message : String)

/-- A handler between two looks at what the handlers share. -/
inductive AdminHandler
  | requested (r : AdminRequest)
  | counting (todo : List Nat) (running : Nat)
  | listing (todo : List String) (instances : List InstanceSummary)
  | commanding (running : Bool) (i : Nat) (name : String)
  | ended

inductive AdminNote
  | requested (k : Nat) (r : AdminRequest)
  | answered (k : Nat) (response : AdminResponse)
  | set (i : Nat) (running : Bool)

namespace AdminHandler

/-- `index_handler`, before `running_count` has looked at the first instance. -/
def indexHandler (m : InstanceManager) : AdminHandler := .counting (m.instances.map Prod.snd) 0

/-- `list_instances` up to its loop. -/
def listInstances (token : Option String) (m : InstanceManager) (authorization : Option String) :
    AdminHandler ⊕ AdminResponse :=
  match checkAuth authorization token with
  | .error code => .inr (.status code)
  | .ok () => .inl (.listing m.list [])

/-- What `start_instance` and `stop_instance` share: all up to the call. -/
def commandInstance (running : Bool) (token : Option String) (m : InstanceManager)
    (authorization : Option String) (name : String) : AdminHandler ⊕ AdminResponse :=
  match checkAuth authorization token with
  | .error code => .inr (.status code)
  | .ok () =>
    match m.get name with
    | some i => .inl (.commanding running i name)
    | none => .inr (.message "not_found" ("Instance '" ++ name ++ "' not found"))

def startInstance := commandInstance true

def stopInstance := commandInstance false

/-- The answer once the instance was started or stopped, neither of which fails. -/
def commanded (running : Bool) (name : String) : AdminResponse :=
  .message "ok" ("Instance '" ++ name ++ if running then "' started" else "' stopped")

def summary (destination : String) (running : Bool) : InstanceSummary :=
  { name := destination, destination, running }

/-- The next step of a handler: what it leaves of the instances, and how it goes on or what it
answers. -/
def advance (token : Option String) (m : InstanceManager) :
    AdminHandler → InstanceManager × (AdminHandler ⊕ AdminResponse)
  | .requested .index => (m, .inl (indexHandler m))
  | .requested (.list authorization) => (m, listInstances token m authorization)
  | .requested (.start authorization name) => (m, startInstance token m authorization name)
  | .requested (.stop authorization name) => (m, stopInstance token m authorization name)
  | .counting (i :: todo) running =>
    (m, .inl (.counting todo (if m.isRunning i then running + 1 else running)))
  | .counting [] running => (m, .inr (.page running m.list.length))
  | .listing (d :: todo) instances =>
    (m, .inl (.listing todo (instances ++ [summary d (((m.get d).map m.isRunning).getD false)])))
  | .listing [] instances => (m, .inr (.instances instances))
  | .commanding running i name => (m.setRunning i running, .inr (commanded running name))
  | .ended => (m, .inl .ended)

/-- The instance that the next step starts or stops. -/
def effect : AdminHandler → Option (Nat × Bool)
  | .commanding running i _ => some (i, running)
  | _ => none

end AdminHandler

/-- `AdminServer` over instances that were registered before it started, and the requests it
handles. -/
structure AdminServer where
  adminToken : Option String
  manager : InstanceManager
  handlers : List AdminHandler := []

/-- A request arrives, a handler takes its next step or is dropped with its connection, or somebody
else who holds an instance starts or stops it. -/
inductive AdminAction
  | request (r : AdminRequest)
  | advance (k : Nat)
  | drop (k : Nat)
  | set (i : Nat) (running : Bool)

namespace AdminServer

def new (adminToken : Option String) (manager : InstanceManager) : AdminServer :=
  { adminToken, manager }

def step (s : AdminServer) : AdminAction → AdminServer × List AdminNote
  | .request r =>
    ({ s with handlers := s.handlers ++ [.requested r] }, [.requested s.handlers.length r])
  | .advance k =>
    match s.handlers[k]? with
    | none => (s, [])
    | some h =>
      let r := h.advance s.adminToken s.manager
      ({ s with manager := r.1, handlers := s.handlers.set k (r.2.elim id fun _ => .ended) },
        (h.effect.map fun e => .set e.1 e.2).toList ++
          r.2.elim (fun _ => []) fun response => [.answered k response])
  | .drop k => ({ s with handlers := s.handlers.set k .ended }, [])
  | .set i running =>
    if i < s.manager.running.length then
      ({ s with manager := s.manager.setRunning i running }, [.set i running])
    else (s, [])

end AdminServer

theorem advance_manager (token : Option String) (m : InstanceManager) (h : AdminHandler) :
    (h.advance token m).1 = h.effect.elim m fun e => m.setRunning e.1 e.2 := by
  cases h with
  | requested r => cases r <;> rfl
  | counting todo | listing todo => cases todo <;> rfl
  | commanding | ended => rfl

theorem advance_instances (token : Option String) (m : InstanceManager) (h : AdminHandler) :
    (h.advance token m).1.instances = m.instances := by
  rw [advance_manager]
  cases h.effect <;> rfl

theorem lookup_of_mem {table : List (String × Nat)} (hd : (table.map Prod.fst).Nodup)
    (he : (d, i) ∈ table) : table.lookup d = some i := by
  induction table with
  | nil => cases he
  | cons e table ih =>
    rw [List.map_cons, List.nodup_cons] at hd
    rcases List.mem_cons.1 he with rfl | he
    · exact List.lookup_cons_self
    · have hne : d ≠ e.1 := fun h => hd.1 (h ▸ List.mem_map_of_mem he)
      rw [List.lookup_cons, beq_eq_false_iff_ne.2 hne]
      exact ih hd.2 he

theorem mem_of_lookup {table : List (String × Nat)} (h : table.lookup d = some i) :
    (d, i) ∈ table := by
  obtain ⟨before, after, rfl, -⟩ := List.lookup_eq_some_iff.1 h
  exact List.mem_append_right _ (List.mem_cons_self ..)

theorem not_mem_of_lookup {table : List (String × Nat)} (h : table.lookup d = none) :
    d ∉ table.map Prod.fst := by
  intro hd
  obtain ⟨e, he, rfl⟩ := List.mem_map.1 hd
  have hne := List.lookup_eq_none_iff.1 h e he
  simp at hne

end Canal
