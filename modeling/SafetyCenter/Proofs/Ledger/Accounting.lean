import SafetyCenter.Proofs.Ledger.Soundness
import SafetyCenter.Proofs.Metrics.Counting

set_option autoImplicit false

namespace SafetyCenter

/-- Whether an activity moves the number of actions in flight. All others are counted for good. -/
def Activity.isGauged : Activity → Bool
  | .actionStarted => true
  | .actionsEnded _ => true
  | _ => false

namespace Ledger

/-- What a deed is counted as for good. -/
def Deed.counted : Deed → List Activity
  | .reported place _ => [.reportAccepted place.source]
  | .dismissed _ => [.issueDismissed]
  | _ => []

def Deed.isReportBy (source : SourceId) : Deed → Bool
  | .reported place _ => place.source = source
  | _ => false

def Deed.isDismissal : Deed → Bool
  | .dismissed _ => true
  | _ => false

/-- A change moves the number of actions in flight by as much as the marks become more or fewer. -/
def Change.Balanced {α : Type} (l : Ledger) (change : Change α) : Prop :=
  (change.ledger.inFlight.size : Int) =
    l.inFlight.size + (change.activity.map (·.launches)).sum

variable {l : Ledger}

theorem Change.balanced_of_same {α : Type} {change : Change α}
    (marks : change.ledger.inFlight = l.inFlight)
    (still : (change.activity.map (·.launches)).sum = 0) : change.Balanced l := by
  rw [Balanced, marks, still, Int.add_zero]

/-- A replaced report ends as many actions as marks are dropped. -/
theorem balanced_replace (l : Ledger) (place : Slot) (report : Option Report) :
    (l.replace place report).Balanced l := by
  let before := (l.calm place).store place (kept report)
  have marks : before.inFlight = l.inFlight := store_inFlight ..
  have fewer : (before.inFlight.filter (before.keepsMark place)).size ≤ before.inFlight.size :=
    List.length_filter_le ..
  have counted : ((l.replace place report).activity.map (·.launches)).sum =
      -((before.inFlight.size - (before.inFlight.filter (before.keepsMark place)).size : Nat) :
        Int) := by
    simp [replace, prune, Activity.launches, before]
  rw [Change.Balanced, counted, ← marks]
  show ((before.inFlight.filter (before.keepsMark place)).size : Int) = _
  omega

theorem balanced_submit (l : Ledger) (c : Catalogue) (g : ProfileGroup) (place : Slot)
    (report : Option Report) : (l.submit c g place report).Balanced l := by
  cases verdict : rejection? c g place report with
  | some e =>
    rw [submit_of_rejection l verdict]
    exact Change.balanced_of_same rfl rfl
  | none =>
    by_cases unchanged : l.report? place = kept report
    · rw [submit_of_same verdict unchanged]
      exact Change.balanced_of_same rfl rfl
    · have replaced := balanced_replace l place report
      rw [submit_of_other verdict unchanged]
      show ((l.replace place report).ledger.inFlight.size : Int) =
        l.inFlight.size + (0 + ((l.replace place report).activity.map (·.launches)).sum)
      rw [Int.zero_add]
      exact replaced

theorem balanced_reportFailure (l : Ledger) (c : Catalogue) (g : ProfileGroup) (place : Slot)
    (event : Event) : (l.reportFailure c g place event).Balanced l := by
  apply Change.balanced_of_same
  · rcases reportFailure_cases l c g place event with ⟨_, -, same⟩ | ⟨_, -, same⟩ <;> rw [same]
  · rw [activity_reportFailure]
    rfl

theorem balanced_dismiss (l : Ledger) (id : IssueId) : (l.dismiss id).Balanced l := by
  cases there : l.issue? id with
  | none =>
    rw [dismiss_of_missing there]
    exact Change.balanced_of_same rfl rfl
  | some i =>
    rw [dismiss_of_found there]
    exact Change.balanced_of_same rfl rfl

/-- The mark of a launch is a new one, since a resolving action in flight is not found. -/
theorem balanced_launch (l : Ledger) (id : ActionId) : (l.launch id).Balanced l := by
  by_cases there : ∃ a, l.action? id = some a ∧ a.resolves = true
  · obtain ⟨a, found, resolves⟩ := there
    have grown := Distinct.size_insert_of_not_mem (not_inFlight_of_action? found resolves)
    rw [launch_of_found found resolves, Change.Balanced, grown]
    rfl
  · rw [launch_of_missing (missing_of_not there)]
    exact Change.balanced_of_same rfl rfl

theorem balanced_clear (l : Ledger) : l.clear.Balanced l := by
  have counted : (l.clear.activity.map (·.launches)).sum = -(l.inFlight.size : Int) := by
    simp [clear, Activity.launches]
  rw [Change.Balanced, counted, Int.add_right_neg]
  rfl

namespace Operation

theorem balanced_perform (l : Ledger) (op : Operation) : (op.perform l).Balanced l := by
  cases op with
  | submit c g place report => exact balanced_submit l c g place report
  | reportFailure c g place event => exact balanced_reportFailure l c g place event
  | dismiss id => exact balanced_dismiss l id
  | launch id => exact balanced_launch l id
  | clear => exact balanced_clear l

/-- What an operation did is counted for good, and nothing else is. -/
theorem filter_activity (l : Ledger) (op : Operation) :
    (op.perform l).activity.filter (!·.isGauged) =
      (op.deed? (op.perform l).answer).toList.flatMap Deed.counted := by
  cases op with
  | submit c g place report =>
    simp only [perform]
    cases verdict : rejection? c g place report with
    | some e =>
      rw [submit_of_rejection l verdict]
      rfl
    | none =>
      by_cases unchanged : l.report? place = kept report
      · rw [submit_of_same verdict unchanged]
        rfl
      · rw [submit_of_other verdict unchanged]
        rfl
  | reportFailure c g place event =>
    simp only [perform, activity_reportFailure]
    rcases reportFailure_cases l c g place event with ⟨_, answer, -⟩ | ⟨_, answer, -⟩
    · rw [answer]
      rfl
    · rw [answer]
      rfl
  | dismiss id =>
    simp only [perform, activity_dismiss]
    cases (l.dismiss id).answer with
    | false => rfl
    | true => rfl
  | launch id =>
    simp only [perform, activity_launch]
    cases (l.launch id).answer with
    | false => rfl
    | true => rfl
  | clear => rfl

end Operation

/-- A run moves the number of actions in flight by as much as the marks become more or fewer. -/
theorem size_inFlight_run (l : Ledger) (ops : List Operation) :
    ((l.run ops).inFlight.size : Int) =
      l.inFlight.size + ((l.activities ops).map (·.launches)).sum := by
  induction ops generalizing l with
  | nil => exact (Int.add_zero _).symm
  | cons op ops ih =>
    have first : ((op.perform l).ledger.inFlight.size : Int) = _ := op.balanced_perform l
    rw [run_cons, ih, first, activities_cons, List.map_append, List.sum_append, Int.add_assoc]

/-- What a run did is counted for good, and nothing else is. -/
theorem filter_activities (l : Ledger) (ops : List Operation) :
    (l.activities ops).filter (!·.isGauged) = (l.log ops).flatMap Deed.counted := by
  induction ops generalizing l with
  | nil => rfl
  | cons op ops ih =>
    rw [activities_cons, List.filter_append, op.filter_activity, ih, log, List.flatMap_append]

/-- Deeds are counted under an activity as often as they have what it stands for. -/
theorem count_counted {a : Activity} {p : Deed → Bool}
    (own : ∀ d : Deed, d.counted.count a = if p d then 1 else 0) (deeds : List Deed) :
    (deeds.flatMap Deed.counted).count a = deeds.countP p := by
  induction deeds with
  | nil => rfl
  | cons d deeds ih =>
    rw [List.flatMap_cons, List.count_append, ih, own, List.countP_cons, Nat.add_comm]

theorem count_reportAccepted (source : SourceId) (deeds : List Deed) :
    (deeds.flatMap Deed.counted).count (.reportAccepted source) =
      deeds.countP (Deed.isReportBy source) := by
  refine count_counted (fun d => ?_) deeds
  cases d with
  | reported place report => simp [Deed.counted, Deed.isReportBy, List.count_cons]
  | _ => rfl

theorem count_issueDismissed (deeds : List Deed) :
    (deeds.flatMap Deed.counted).count .issueDismissed = deeds.countP Deed.isDismissal := by
  refine count_counted (fun d => ?_) deeds
  cases d <;> rfl

/-- A call that failed is not something that a ledger does. -/
theorem count_counted_eq_zero {a : Activity} (own : ∀ d : Deed, a ∉ d.counted)
    (deeds : List Deed) : (deeds.flatMap Deed.counted).count a = 0 := by
  rw [List.count_eq_zero, List.mem_flatMap]
  intro given
  obtain ⟨d, -, member⟩ := given
  exact own d member

end Ledger

end SafetyCenter
