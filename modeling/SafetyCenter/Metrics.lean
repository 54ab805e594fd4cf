import SafetyCenter.Assoc
import SafetyCenter.Id

namespace SafetyCenter

/-- What an outward call was for, where failures are counted by it. -/
inductive CallKind where
  | refresh
  | enabledChanged
  | action
  | dismiss
  deriving Repr, DecidableEq

def CallKind.label : CallKind → String
  | .refresh => "refresh"
  | .enabledChanged => "enabled_changed"
  | .action => "action"
  | .dismiss => "dismiss"

inductive Activity where
  | reportAccepted (source : SourceId)
  | issueDismissed
  | actionStarted
  /-- actions that are no longer in flight -/
  | actionsEnded (count : Nat)
  | callFailed (kind : CallKind)
  | deliveryFailed
  deriving Repr, DecidableEq

structure Metrics where
  reportsReceived : Assoc SourceId Nat := ∅
  callFailures : Assoc CallKind Nat := ∅
  deliveryFailures : Nat := 0
  issuesDismissed : Nat := 0
  actionsInFlight : Int := 0
  deriving DecidableEq, Inhabited

namespace Metrics

def bump {κ : Type} [DecidableEq κ] (counters : Assoc κ Nat) (label : κ) : Assoc κ Nat :=
  counters.put label ((counters.get? label).getD 0 + 1)

@[simp] theorem get?_bump {κ : Type} [DecidableEq κ] (counters : Assoc κ Nat) (label k : κ) :
    (bump counters label).get? k =
      if label = k then some ((counters.get? label).getD 0 + 1) else counters.get? k :=
  Assoc.get?_put ..

def record (m : Metrics) : Activity → Metrics
  | .reportAccepted source => { m with reportsReceived := bump m.reportsReceived source }
  | .issueDismissed => { m with issuesDismissed := m.issuesDismissed + 1 }
  | .actionStarted => { m with actionsInFlight := m.actionsInFlight + 1 }
  | .actionsEnded count => { m with actionsInFlight := m.actionsInFlight - count }
  | .callFailed kind => { m with callFailures := bump m.callFailures kind }
  | .deliveryFailed => { m with deliveryFailures := m.deliveryFailures + 1 }

def recordAll (m : Metrics) (activities : List Activity) : Metrics :=
  activities.foldl record m

@[simp] theorem recordAll_nil (m : Metrics) : m.recordAll [] = m := rfl

theorem recordAll_append (m : Metrics) (as bs : List Activity) :
    m.recordAll (as ++ bs) = (m.recordAll as).recordAll bs :=
  List.foldl_append

end Metrics

end SafetyCenter
