import SafetyCenter.Error

namespace SafetyCenter

structure Settings where
  /-- for one source, to take a broadcast -/
  sourceTimeout : Nat := 5000
  /-- for one observer, to take a view -/
  observerTimeout : Nat := 1000
  /-- for the dispatch sink, to take a target -/
  actionTimeout : Nat := 5000
  /-- the catalogue file -/
  cataloguePath : Option String := none
  deriving Repr, DecidableEq, Inhabited

namespace Settings

/-- The names of settings, in the order in which they are checked. -/
inductive Name where
  | sourceTimeout
  | observerTimeout
  | actionTimeout
  | cataloguePath
  deriving Repr, DecidableEq

def Name.path : Name → String × String
  | .sourceTimeout => ("broadcast", "source_timeout_in_ms")
  | .observerTimeout => ("delivery", "observer_timeout_in_ms")
  | .actionTimeout => ("delivery", "action_timeout_in_ms")
  | .cataloguePath => ("sources", "path")

def Name.text (n : Name) : String :=
  n.path.1 ++ "." ++ n.path.2

/-- The first timeout that is zero. -/
def zeroTimeout? (s : Settings) : Option Name :=
  if s.sourceTimeout = 0 then some .sourceTimeout
  else if s.observerTimeout = 0 then some .observerTimeout
  else if s.actionTimeout = 0 then some .actionTimeout
  else none

/-- Settings whose timeouts are all greater than zero. -/
def checked (s : Settings) : Except Error Settings :=
  match s.zeroTimeout? with
  | some n => .error (.invalidSettings (n.text ++ " must be greater than 0"))
  | none => .ok s

end Settings

end SafetyCenter
