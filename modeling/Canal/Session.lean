import Canal.Messages

namespace Canal
set_option autoImplicit true

structure ClientSession where
  clientId : String
  destination : String
  filter : FilterPattern
  lastAckPosition : Option LogPosition
  compiledPattern : Option String
  compiledBlackList : Option String
deriving DecidableEq

/-- `Regex::new(pattern).ok()`; a compiled regex is known by its pattern. -/
def compile (lib : Crates) (pattern : String) : Option String :=
  match lib.regexNew pattern with
  | .ok () => some pattern
  | .error _ => none

def ClientSession.new (lib : Crates) (clientId destination : String) (filter : FilterPattern) :
    ClientSession :=
  { clientId, destination, filter
    lastAckPosition := none
    compiledPattern := compile lib filter.pattern
    compiledBlackList := if filter.blackList.isEmpty then none else compile lib filter.blackList }

/-- Whether the session lets an event through, `none` standing for a missing session. -/
def sessionPasses (lib : Crates) (session : Option ClientSession) (table : String) : Bool :=
  let patternRe := session.bind ClientSession.compiledPattern
  let blackRe := session.bind ClientSession.compiledBlackList
  let matched := patternRe.all fun re => lib.isMatch re table
  let blocked := blackRe.any fun re => lib.isMatch re table
  matched && !blocked

structure SessionManager where
  sessions : String → Option ClientSession

namespace SessionManager

def new : SessionManager := { sessions := fun _ => none }

def get (m : SessionManager) (clientId : String) : Option ClientSession := m.sessions clientId

def register (lib : Crates) (m : SessionManager) (clientId destination : String)
    (filter : FilterPattern) : SessionManager :=
  { sessions := Function.update m.sessions clientId
      (some (.new lib clientId destination filter)) }

def unregister (m : SessionManager) (clientId : String) : SessionManager :=
  { sessions := Function.update m.sessions clientId none }

def updateAck (m : SessionManager) (clientId : String) (pos : LogPosition) : SessionManager :=
  match m.get clientId with
  | some s => { sessions :=
      Function.update m.sessions clientId (some { s with lastAckPosition := some pos }) }
  | none => m

@[simp] theorem get_register_self (lib : Crates) (m : SessionManager) (c d : String)
    (f : FilterPattern) : (m.register lib c d f).get c = some (.new lib c d f) :=
  Function.update_self ..

theorem get_register_of_ne (h : c' ≠ c) (lib : Crates) (m : SessionManager) (d : String)
    (f : FilterPattern) : (m.register lib c d f).get c' = m.get c' :=
  Function.update_of_ne h ..

@[simp] theorem get_unregister_self (m : SessionManager) (c : String) :
    (m.unregister c).get c = none := Function.update_self ..

theorem get_unregister_of_ne (h : c' ≠ c) (m : SessionManager) :
    (m.unregister c).get c' = m.get c' := Function.update_of_ne h ..

theorem get_updateAck_self (m : SessionManager) (c : String) (pos : LogPosition) :
    (m.updateAck c pos).get c =
      (m.get c).map fun s => { s with lastAckPosition := some pos } := by
  unfold updateAck
  cases h : m.get c with
  | none => exact h
  | some s => exact Function.update_self ..

theorem get_updateAck_of_ne (h : c' ≠ c) (m : SessionManager) (pos : LogPosition) :
    (m.updateAck c pos).get c' = m.get c' := by
  unfold updateAck
  cases m.get c with
  | none => rfl
  | some s => exact Function.update_of_ne h ..

end SessionManager

/-- `FilterPattern::validate`, with its size limit of one megabyte. -/
def FilterPattern.validate (lib : Crates) (fp : FilterPattern) : Except String Unit :=
  match lib.regexBuild fp.pattern (2 ^ 20) with
  | .error e => .error ("invalid pattern: " ++ e)
  | .ok () =>
    if !fp.blackList.isEmpty then
      match lib.regexBuild fp.blackList (2 ^ 20) with
      | .error e => .error ("invalid blacklist: " ++ e)
      | .ok () => .ok ()
    else .ok ()

def maxFilterPatternLen : Nat := 256

/-- The length and syntax checks that `handle_auth` and `handle_sub` make before they store a
filter; the error is the text of the refusing answer. -/
def checkFilter (lib : Crates) (pattern blackList : String) : Except String FilterPattern :=
  if maxFilterPatternLen < pattern.utf8ByteSize then
    .error ("filter pattern too long: " ++ toString pattern.utf8ByteSize ++ " > " ++
      toString maxFilterPatternLen)
  else
    let fp : FilterPattern := { pattern, blackList }
    match fp.validate lib with
    | .error e => .error ("invalid filter pattern: " ++ e)
    | .ok () => .ok fp

end Canal
