import Mathlib.Algebra.BigOperators.Group.List.Basic
import Mathlib.Algebra.Ring.Int.Defs
import SafetyCenter.Metrics

set_option autoImplicit false

namespace SafetyCenter

/-- What an activity adds to the number of actions in flight. -/
def Activity.launches : Activity → Int
  | .actionStarted => 1
  | .actionsEnded count => -count
  | _ => 0

namespace Metrics

/-- Where a counter stands after it went up a number of times. If it never did, it has no value of
its own. -/
def raised (counter : Option Nat) (times : Nat) : Option Nat :=
  if times = 0 then counter else some (counter.getD 0 + times)

theorem raised_some (n times : Nat) : raised (some n) times = some (n + times) := by
  cases times with
  | zero => rfl
  | succ times => rfl

theorem raised_add_one (counter : Option Nat) (times : Nat) :
    raised counter (times + 1) = raised (some (counter.getD 0 + 1)) times := by
  rw [raised_some, raised, if_neg (Nat.succ_ne_zero times), Nat.add_assoc, Nat.add_comm 1]

theorem getD_raised (counter : Option Nat) (times : Nat) :
    (raised counter times).getD 0 = counter.getD 0 + times := by
  cases times with
  | zero => rfl
  | succ times => rfl

theorem recordAll_cons (m : Metrics) (a : Activity) (as : List Activity) :
    m.recordAll (a :: as) = (m.record a).recordAll as := rfl

/-- Counters with labels, each of which goes up with one kind of activity. -/
theorem get?_recordAll {κ : Type} [DecidableEq κ] (counters : Metrics → Assoc κ Nat)
    {activity : κ → Activity}
    (counts : ∀ m a k, (counters (m.record a)).get? k =
      if a = activity k then some (((counters m).get? k).getD 0 + 1) else (counters m).get? k)
    (m : Metrics) (as : List Activity) (k : κ) :
    (counters (m.recordAll as)).get? k =
      raised ((counters m).get? k) (as.count (activity k)) := by
  induction as generalizing m with
  | nil => rfl
  | cons a as ih =>
    rw [recordAll_cons, ih, counts, List.count_cons]
    by_cases own : a = activity k
    · simp only [own, if_true, beq_self_eq_true, raised_add_one]
    · simp only [own, if_false, beq_iff_eq, Nat.add_zero]

theorem reportsReceived_recordAll (m : Metrics) (as : List Activity) (source : SourceId) :
    (m.recordAll as).reportsReceived.get? source =
      raised (m.reportsReceived.get? source) (as.count (.reportAccepted source)) := by
  refine get?_recordAll Metrics.reportsReceived (fun m a k => ?_) m as source
  cases a with
  | reportAccepted source' => by_cases same : source' = k <;> simp [record, same]
  | _ => simp [record]

theorem callFailures_recordAll (m : Metrics) (as : List Activity) (kind : CallKind) :
    (m.recordAll as).callFailures.get? kind =
      raised (m.callFailures.get? kind) (as.count (.callFailed kind)) := by
  refine get?_recordAll Metrics.callFailures (fun m a k => ?_) m as kind
  cases a with
  | callFailed kind' => by_cases same : kind' = k <;> simp [record, same]
  | _ => simp [record]

/-- Counters without labels. -/
theorem add_count_recordAll (counter : Metrics → Nat) {activity : Activity}
    (counts : ∀ m a, counter (m.record a) = counter m + if a = activity then 1 else 0)
    (m : Metrics) (as : List Activity) :
    counter (m.recordAll as) = counter m + as.count activity := by
  induction as generalizing m with
  | nil => rfl
  | cons a as ih =>
    rw [recordAll_cons, ih, counts, List.count_cons]
    simp only [beq_iff_eq]
    omega

theorem issuesDismissed_recordAll (m : Metrics) (as : List Activity) :
    (m.recordAll as).issuesDismissed = m.issuesDismissed + as.count .issueDismissed := by
  refine add_count_recordAll Metrics.issuesDismissed (fun m a => ?_) m as
  cases a <;> simp [record]

theorem deliveryFailures_recordAll (m : Metrics) (as : List Activity) :
    (m.recordAll as).deliveryFailures = m.deliveryFailures + as.count .deliveryFailed := by
  refine add_count_recordAll Metrics.deliveryFailures (fun m a => ?_) m as
  cases a <;> simp [record]

theorem actionsInFlight_recordAll (m : Metrics) (as : List Activity) :
    (m.recordAll as).actionsInFlight = m.actionsInFlight + (as.map (·.launches)).sum := by
  induction as generalizing m with
  | nil => rw [List.map_nil, List.sum_nil, Int.add_zero, recordAll_nil]
  | cons a as ih =>
    have own : (m.record a).actionsInFlight = m.actionsInFlight + a.launches := by
      cases a <;> simp [record, Activity.launches, Int.sub_eq_add_neg]
    rw [recordAll_cons, ih, own, List.map_cons, List.sum_cons, Int.add_assoc]

/-- All counters stand at the same. The order in which labels came is left out. -/
structure SameCounts (m n : Metrics) : Prop where
  reportsReceived : ∀ source, m.reportsReceived.get? source = n.reportsReceived.get? source
  callFailures : ∀ kind, m.callFailures.get? kind = n.callFailures.get? kind
  deliveryFailures : m.deliveryFailures = n.deliveryFailures
  issuesDismissed : m.issuesDismissed = n.issuesDismissed
  actionsInFlight : m.actionsInFlight = n.actionsInFlight

/-- The same activities in another order come to the same counts. -/
theorem sameCounts_of_perm (m : Metrics) {as bs : List Activity} (same : as.Perm bs) :
    (m.recordAll as).SameCounts (m.recordAll bs) where
  reportsReceived := fun source => by
    rw [reportsReceived_recordAll, reportsReceived_recordAll, same.count_eq]
  callFailures := fun kind => by
    rw [callFailures_recordAll, callFailures_recordAll, same.count_eq]
  deliveryFailures := by
    rw [deliveryFailures_recordAll, deliveryFailures_recordAll, same.count_eq]
  issuesDismissed := by
    rw [issuesDismissed_recordAll, issuesDismissed_recordAll, same.count_eq]
  actionsInFlight := by
    rw [actionsInFlight_recordAll, actionsInFlight_recordAll, (same.map _).sum_eq]

end Metrics

end SafetyCenter
