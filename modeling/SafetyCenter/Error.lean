import SafetyCenter.Id

namespace SafetyCenter

/-- A span of whole milliseconds in words: `0ns`, `20ms`, `1.5s`. From one second on the fraction
loses its trailing zeros. -/
def millisecondsText (ms : Nat) : String :=
  if ms = 0 then "0ns"
  else if ms < 1000 then s!"{ms}ms"
  else
    let seconds := ms / 1000
    let rest := ms % 1000
    if rest = 0 then s!"{seconds}s"
    else if rest % 100 = 0 then s!"{seconds}.{rest / 100}s"
    else if rest % 10 = 0 then s!"{seconds}.{rest / 100}{rest / 10 % 10}s"
    else s!"{seconds}.{rest / 100}{rest / 10 % 10}{rest % 10}s"

inductive IdKind where
  | issue
  | action
  deriving Repr, DecidableEq

def IdKind.text : IdKind → String
  | .issue => "issue id"
  | .action => "action id"

inductive IssueOperation where
  | dismiss
  | execute
  deriving Repr, DecidableEq

def IssueOperation.text : IssueOperation → String
  | .dismiss => "dismiss_issue"
  | .execute => "execute_action"

inductive Error where
  | unknownSource (source : SourceId)
  | staticSource (source : SourceId)
  | sourceOutOfScope (source : SourceId) (user : UserId)
  | unknownUser (user : UserId)
  | malformedId (kind : IdKind) (reason : String)
  | idMismatch (issue action : String)
  | invalidReport (source : SourceId) (reason : String)
  | crossProfileGroup (operation : IssueOperation) (target caller : UserId)
  | timeout (target : String) (ms : Nat)
  | failed (target reason : String)
  | disconnected (target : String)
  | noSources
  | emptySourceId
  | duplicateSourceId (source : SourceId)
  | missingPath
  | unreadableSources
  | unreadableSettings
  | invalidSettings (reason : String)
  | unavailable (reason : String)
  deriving Repr, DecidableEq

namespace Error

def message : Error → String
  | .unknownSource source => "Unknown safety source: " ++ source.name
  | .staticSource source => "Safety source " ++ source.name ++ " is static and cannot report data"
  | .sourceOutOfScope source user =>
    "Safety source " ++ source.name ++ " is not configured for user " ++ user.text
  | .unknownUser user => "Unknown user: " ++ user.text
  | .malformedId kind reason => "Malformed " ++ kind.text ++ ": " ++ reason
  | .idMismatch issue action =>
    "Issue id " ++ issue ++ " and action id " ++ action ++ " do not match"
  | .invalidReport source reason => "Invalid report from " ++ source.name ++ ": " ++ reason
  | .crossProfileGroup operation target caller =>
    operation.text ++ " requires target user " ++ target.text ++
      " to be within the profile group of user " ++ caller.text
  | .timeout target ms => "Dispatch to " ++ target ++ " timed out after " ++ millisecondsText ms
  | .failed target reason => "Dispatch to " ++ target ++ " failed: " ++ reason
  | .disconnected target => "Dispatch target " ++ target ++ " is disconnected"
  | .noSources => "Source configuration declares no sources"
  | .emptySourceId => "Source configuration contains an empty source id"
  | .duplicateSourceId source =>
    "Duplicate source id " ++ source.name ++ " in source configuration"
  | .missingPath => "No source configuration path configured"
  | .unreadableSources => "Source configuration could not be read"
  | .unreadableSettings => "Settings could not be read"
  | .invalidSettings reason => "Invalid settings: " ++ reason
  | .unavailable reason => "Safety broker is unavailable: " ++ reason

/-- The caller named something that does not exist or sent something malformed. -/
def isCallerFault : Error → Bool
  | .unknownSource _ | .staticSource _ | .sourceOutOfScope _ _ | .unknownUser _
  | .malformedId _ _ | .idMismatch _ _ | .invalidReport _ _ => true
  | _ => false

/-- The caller reached for another profile group. -/
def isAccessDenied : Error → Bool
  | .crossProfileGroup _ _ _ => true
  | _ => false

end Error

end SafetyCenter
