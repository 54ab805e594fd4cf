import SafetyCenter.Assoc
import SafetyCenter.Catalogue
import SafetyCenter.Metrics
import SafetyCenter.Report

/-!
The ledger: the report of each source and user, which of them failed since, which issues were
dismissed and which resolving actions are in flight. Every operation returns a `Ledger.Change`: the
ledger after it, its answer, and what there is to count.
-/

namespace SafetyCenter

structure Ledger where
  reports : Assoc Slot Report := ∅
  /-- sources that failed since their last report -/
  failing : Distinct Slot := ∅
  dismissed : Distinct IssueId := ∅
  inFlight : Distinct ActionId := ∅
  deriving DecidableEq, Inhabited

namespace Ledger

/-- The outcome of an operation on a ledger. -/
structure Change (α : Type) where
  ledger : Ledger
  answer : α
  activity : List Activity := []

def empty : Ledger := {}

instance : EmptyCollection Ledger := ⟨empty⟩

def report? (l : Ledger) (place : Slot) : Option Report :=
  l.reports.get? place

/-- The issue that an id means, dismissed or not. -/
def reportedIssue? (l : Ledger) (id : IssueId) : Option Issue :=
  (l.report? id.slot).bind (·.lookup? id)

/-- The action that an id means, whatever the state of its issue. -/
def reportedAction? (l : Ledger) (id : ActionId) : Option Action :=
  (l.reportedIssue? id.issue).bind (·.action? id.actionKey)

/-- The issue that an id means, unless it was dismissed. -/
def issue? (l : Ledger) (id : IssueId) : Option Issue :=
  if id ∈ l.dismissed then none else l.reportedIssue? id

/-- The action that an id means, unless its issue was dismissed or it resolves and is in flight. -/
def action? (l : Ledger) (id : ActionId) : Option Action :=
  ((l.issue? id.issue).bind (·.action? id.actionKey)).filter fun a =>
    !(a.resolves && id ∈ l.inFlight)

/-- Why a source may not speak for a user, if it may not. -/
def refusal? (c : Catalogue) (g : ProfileGroup) (place : Slot) : Option Error :=
  match c.source? place.source with
  | none => some (.unknownSource place.source)
  | some s =>
    if s.isStatic then some (.staticSource place.source)
    else if s.covers g place.user then none
    else some (.sourceOutOfScope place.source place.user)

def storedReport (l : Ledger) (c : Catalogue) (place : Slot) : Except Error (Option Report) :=
  match c.source? place.source with
  | none => .error (.unknownSource place.source)
  | some _ => .ok (l.report? place)

/-- Whether a dismissal still means an issue, seen from a place whose report was replaced. -/
def keepsDismissal (l : Ledger) (place : Slot) (id : IssueId) : Bool :=
  id.slot ≠ place || (l.reportedIssue? id).isSome

/-- Whether a mark still means an action, seen from a place whose report was replaced. -/
def keepsMark (l : Ledger) (place : Slot) (id : ActionId) : Bool :=
  id.slot ≠ place || (l.reportedAction? id).isSome

/-- Drops the dismissals and marks of a place that no longer mean anything in its report. -/
def prune (l : Ledger) (place : Slot) : Change Unit :=
  let kept := l.inFlight.filter (l.keepsMark place)
  { ledger :=
      { l with dismissed := l.dismissed.filter (l.keepsDismissal place), inFlight := kept }
    answer := ()
    activity := [.actionsEnded (l.inFlight.size - kept.size)] }

/-- Puts a report in the place of the stored one; no report takes the stored one away. -/
def store (l : Ledger) (place : Slot) : Option Report → Ledger
  | none => { l with reports := l.reports.erase place }
  | some r => { l with reports := l.reports.put place r }

theorem report?_store (l : Ledger) (place k : Slot) (r : Option Report) :
    (l.store place r).report? k = if place = k then r else l.report? k := by
  cases r <;> simp [store, report?]

theorem issue?_eq_some_iff {l : Ledger} {id : IssueId} {i : Issue} :
    l.issue? id = some i ↔ id ∉ l.dismissed ∧ l.reportedIssue? id = some i := by
  by_cases h : id ∈ l.dismissed <;> simp [issue?, h]

theorem mem_dismissed_prune {l : Ledger} {place : Slot} {id : IssueId} :
    id ∈ (l.prune place).ledger.dismissed ↔
      id ∈ l.dismissed ∧ (id.slot = place → (l.reportedIssue? id).isSome) := by
  by_cases h : id.slot = place <;> simp [prune, keepsDismissal, h]

theorem mem_inFlight_prune {l : Ledger} {place : Slot} {id : ActionId} :
    id ∈ (l.prune place).ledger.inFlight ↔
      id ∈ l.inFlight ∧ (id.slot = place → (l.reportedAction? id).isSome) := by
  by_cases h : id.slot = place <;> simp [prune, keepsMark, h]

/-- Takes a report. A report that says nothing counts as none. The place no longer fails, and if the
stored report changed, markers without meaning are dropped. The answer is whether anything changed. -/
def submit (l : Ledger) (c : Catalogue) (g : ProfileGroup) (place : Slot)
    (report : Option Report) : Change (Except Error Bool) :=
  match refusal? c g place with
  | some e => { ledger := l, answer := .error e }
  | none =>
    let report := report.filter (!·.isEmpty)
    match report.bind Report.defect? with
    | some defect =>
      { ledger := l, answer := .error (.invalidReport place.source defect.message) }
    | none =>
      let accepted := Activity.reportAccepted place.source
      let failed := place ∈ l.failing
      let calm := { l with failing := l.failing.erase place }
      if l.report? place = report then
        { ledger := calm, answer := .ok failed, activity := [accepted] }
      else
        let pruned := (calm.store place report).prune place
        { ledger := pruned.ledger, answer := .ok true, activity := accepted :: pruned.activity }

structure FailureNote where
  /-- the place was not failing before -/
  changed : Bool
  /-- what the user is told -/
  message : Option String
  deriving Repr, DecidableEq

/-- Notes that a source failed for a user, until its next report. -/
def reportFailure (l : Ledger) (c : Catalogue) (g : ProfileGroup) (place : Slot) (event : Event) :
    Change (Except Error FailureNote) :=
  match refusal? c g place with
  | some e => { ledger := l, answer := .error e }
  | none =>
    { ledger := { l with failing := l.failing.insert place }
      answer := .ok ⟨place ∉ l.failing, event.kind.failureMessage?⟩ }

/-- Dismisses an issue that is there. The answer is whether it was. -/
def dismiss (l : Ledger) (id : IssueId) : Change Bool :=
  match l.issue? id with
  | none => { ledger := l, answer := false }
  | some _ =>
    { ledger := { l with dismissed := l.dismissed.insert id }
      answer := true
      activity := [.issueDismissed] }

/-- Marks a resolving action that is there as in flight. The answer is whether it was marked. -/
def launch (l : Ledger) (id : ActionId) : Change Bool :=
  match l.action? id with
  | none => { ledger := l, answer := false }
  | some a =>
    if a.resolves then
      { ledger := { l with inFlight := l.inFlight.insert id }
        answer := true
        activity := [.actionStarted] }
    else
      { ledger := l, answer := false }

def clear (l : Ledger) : Change Unit :=
  { ledger := ∅, answer := (), activity := [.actionsEnded l.inFlight.size] }

end Ledger

end SafetyCenter
