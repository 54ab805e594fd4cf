import SafetyCenter.Id
import SafetyCenter.Severity

namespace SafetyCenter

/-- Something a user can do about an issue. The target is opaque and goes to the dispatch sink. -/
structure Action where
  key : String
  label : String
  /-- doing it is expected to close the issue -/
  resolves : Bool
  target : String
  deriving Repr, DecidableEq, Inhabited

structure Status where
  title : String
  summary : String
  severity : Severity
  deriving Repr, DecidableEq, Inhabited

structure Issue where
  key : String
  issueType : String := ""
  title : String := ""
  summary : String := ""
  severity : Severity
  actions : List Action := []
  /-- sent to the dispatch sink when the user dismisses the issue -/
  onDismiss : Option String := none
  deriving Repr, DecidableEq, Inhabited

def Issue.action? (i : Issue) (key : String) : Option Action :=
  i.actions.find? (·.key = key)

def Issue.withAction (i : Issue) (a : Action) : Issue :=
  { i with actions := i.actions ++ [a] }

/-- All that a source says about one user. -/
structure Report where
  /-- a token that the source chooses; issues of two sessions are never the same -/
  session : String
  status : Option Status := none
  issues : List Issue := []
  deriving Repr, DecidableEq, Inhabited

namespace Report

def issue? (r : Report) (key : String) : Option Issue :=
  r.issues.find? (·.key = key)

def withIssue (r : Report) (i : Issue) : Report :=
  { r with issues := r.issues ++ [i] }

/-- Neither a status nor an issue: the source has nothing to say. -/
def isEmpty (r : Report) : Bool :=
  r.status.isNone && r.issues.isEmpty

def issueId (r : Report) (place : Slot) (i : Issue) : IssueId :=
  ⟨place.source, place.user, i.key, i.issueType, r.session⟩

/-- The issue that an id means, if this is the report of the id's session and has it. -/
def lookup? (r : Report) (id : IssueId) : Option Issue :=
  if r.session = id.session then
    (r.issue? id.issueKey).filter (·.issueType = id.issueType)
  else
    none

end Report

inductive Report.Defect where
  | emptyIssueKey
  | duplicateIssueKey (issue : String)
  | emptyActionKey (issue : String)
  | duplicateActionKey (action issue : String)
  deriving Repr, DecidableEq

namespace Report

def Defect.message : Defect → String
  | .emptyIssueKey => "issue key must not be empty"
  | .duplicateIssueKey issue => "duplicate issue key " ++ issue
  | .emptyActionKey issue => "issue " ++ issue ++ " has an action with an empty key"
  | .duplicateActionKey action issue =>
    "duplicate action key " ++ action ++ " in issue " ++ issue

/-- The first defect among the actions of one issue, after actions with the keys `seen`. -/
def actionDefect? (issue : String) (seen : List String) : List Action → Option Defect
  | [] => none
  | a :: as =>
    if a.key = "" then some (.emptyActionKey issue)
    else if a.key ∈ seen then some (.duplicateActionKey a.key issue)
    else actionDefect? issue (a.key :: seen) as

/-- The first defect among issues, after issues with the keys `seen`. -/
def issueDefect? (seen : List String) : List Issue → Option Defect
  | [] => none
  | i :: is =>
    if i.key = "" then some .emptyIssueKey
    else if i.key ∈ seen then some (.duplicateIssueKey i.key)
    else
      match actionDefect? i.key [] i.actions with
      | some defect => some defect
      | none => issueDefect? (i.key :: seen) is

/-- The first defect met when reading the issues in order, each issue's key before its actions. -/
def defect? (r : Report) : Option Defect :=
  issueDefect? [] r.issues

end Report

/-- What made a source speak. -/
inductive EventKind where
  | sourceStateChanged
  | refreshRequested
  | resolvingActionSucceeded
  | resolvingActionFailed
  | deviceLocaleChanged
  | deviceRebooted
  deriving Repr, DecidableEq, Inhabited

/-- The occasion of a report or of a failure. -/
structure Event where
  kind : EventKind
  /-- the id of the refresh that this answers -/
  refreshId : Option String := none
  deriving Repr, DecidableEq, Inhabited

/-- What the user is told when a source fails on such an occasion, if anything. -/
def EventKind.failureMessage? : EventKind → Option String
  | .refreshRequested => some "Couldn't refresh safety status"
  | .resolvingActionFailed => some "Couldn't complete the action"
  | _ => none

/-- Why sources are asked to report again. -/
inductive RefreshReason where
  | pageOpen
  | rescanButtonClick
  | deviceReboot
  | deviceLocaleChange
  | safetyCenterEnabled
  | other
  deriving Repr, DecidableEq, Inhabited

end SafetyCenter
