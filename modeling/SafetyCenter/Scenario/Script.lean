import SafetyCenter.Center.Call
import SafetyCenter.Center.Operation

namespace SafetyCenter.Scenario

inductive Manner where
  | succeed
  | fail
  /-- never answers -/
  | hang
  /-- succeeds after a while -/
  | delay (ms : Nat)
  deriving Repr, DecidableEq, Inhabited

/-- How a collaborator answers: its first `times` calls take the steps, then every call ends in the
given manner. -/
structure Behaviour (σ : Type) where
  manner : Manner := .succeed
  steps : List σ := []
  times : Nat := 1
  deriving Inhabited

inductive Step where
  | operation (op : Operation)
  /-- a watcher follows the toggle: its first value, then of each batch of values the last one -/
  | watch (initial : Bool) (batches : List (List Bool))
  /-- changes which groups there are -/
  | setGroups (groups : ProfileGroup.Directory)
  /-- changes how the named collaborators answer -/
  | setBehaviours (behaviours : List (String × Behaviour Step))
  | settings
  | describe
  | metrics
  | metricsText

/-- The names under which a call's behaviour is looked up, the most special one first. -/
def behaviourKeys : Call → List String
  | .refresh source user _ _ =>
    ["refresh:" ++ source.name ++ "/" ++ user.text, "refresh:" ++ source.name]
  | .announce source enabled =>
    ["enabled:" ++ source.name ++ "/" ++ (if enabled then "true" else "false"),
      "enabled:" ++ source.name]
  | .dispatch target _ _ => ["dispatch:" ++ target]
  | .deliver observer _ _ => ["observer:" ++ observer.name]

end SafetyCenter.Scenario
