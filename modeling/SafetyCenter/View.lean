import SafetyCenter.Id
import SafetyCenter.Severity

namespace SafetyCenter

/-- What one source says about one user. -/
structure View.Entry where
  source : SourceId
  user : UserId
  title : String
  summary : String
  severity : Severity
  /-- the source failed since its last report -/
  inError : Bool
  deriving Repr, DecidableEq, Inhabited

structure View.Action where
  id : ActionId
  label : String
  resolves : Bool
  inFlight : Bool
  deriving Repr, DecidableEq, Inhabited

structure View.Issue where
  id : IssueId
  title : String
  summary : String
  severity : Severity
  actions : List View.Action
  deriving Repr, DecidableEq, Inhabited

structure View where
  severity : Overall := .unknown
  entries : List View.Entry := []
  issues : List View.Issue := []
  deriving Repr, DecidableEq, Inhabited

namespace View

def isEmpty (v : View) : Bool :=
  v.entries.isEmpty && v.issues.isEmpty

def issue? (v : View) (id : IssueId) : Option View.Issue :=
  v.issues.find? (·.id = id)

/-- Keeps the first of several issues with one id. -/
def keepFirst : List View.Issue → List View.Issue
  | [] => []
  | i :: is => i :: (keepFirst is).filter (·.id ≠ i.id)

/-- The gravest issues first; issues of one severity keep their order. -/
def rankIssues (is : List View.Issue) : List View.Issue :=
  Severity.descending.flatMap fun s => is.filter (·.severity = s)

@[simp] theorem mem_rankIssues {i : View.Issue} {is : List View.Issue} :
    i ∈ rankIssues is ↔ i ∈ is := by
  simp [rankIssues, Severity.mem_descending]

end View

end SafetyCenter
