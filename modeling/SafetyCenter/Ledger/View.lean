import SafetyCenter.Ledger
import SafetyCenter.View

namespace SafetyCenter.Ledger

/-- The status of a report that counts: an issue-only source has none. -/
def countedStatus? (s : Source) (r : Report) : Option Status :=
  if s.kind = .issueOnly then none else r.status

/-- The entry of a source for a user. There is one if the source has a status or is failing. -/
def entryOf? (l : Ledger) (s : Source) (u : UserId) : Option View.Entry :=
  let place : Slot := ⟨s.id, u⟩
  let inError : Bool := place ∈ l.failing
  match (l.report? place).bind (countedStatus? s) with
  | some status => some ⟨s.id, u, status.title, status.summary, status.severity, inError⟩
  | none => if inError then some ⟨s.id, u, s.title, "", .unspecified, true⟩ else none

def showAction (l : Ledger) (id : IssueId) (a : Action) : View.Action :=
  let id : ActionId := ⟨id, a.key⟩
  { id, label := a.label, resolves := a.resolves, inFlight := id ∈ l.inFlight }

def showIssue (l : Ledger) (id : IssueId) (i : Issue) : View.Issue :=
  { id, title := i.title, summary := i.summary, severity := i.severity
    actions := i.actions.map (l.showAction id) }

/-- The issues of a source for a user that were not dismissed, as they are shown. -/
def shownIssues (l : Ledger) (s : Source) (u : UserId) : List View.Issue :=
  let place : Slot := ⟨s.id, u⟩
  match l.report? place with
  | none => []
  | some r =>
    (r.issues.filter fun i => r.issueId place i ∉ l.dismissed).map fun i =>
      l.showIssue (r.issueId place i) i

def statusSeverity? (l : Ledger) (s : Source) (u : UserId) : Option Severity :=
  ((l.report? ⟨s.id, u⟩).bind (countedStatus? s)).map (·.severity)

def view (l : Ledger) (c : Catalogue) (g : ProfileGroup) : View :=
  let pairs := c.reportingPairs g
  let issues := View.keepFirst (pairs.flatMap fun (s, u) => l.shownIssues s u)
  let statuses := pairs.filterMap fun (s, u) => l.statusSeverity? s u
  let reported := pairs.any fun (s, u) => (l.report? ⟨s.id, u⟩).isSome
  { severity :=
      if reported then
        Overall.gravest .ok ((statuses ++ issues.map (·.severity)).map Overall.ofSeverity)
      else
        .unknown
    entries := pairs.filterMap fun (s, u) => l.entryOf? s u
    issues := View.rankIssues issues }

end SafetyCenter.Ledger
