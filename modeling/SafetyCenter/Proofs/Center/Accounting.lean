import SafetyCenter.Proofs.Center.Inactivity
import SafetyCenter.Proofs.Ledger.Accounting

set_option autoImplicit false

namespace SafetyCenter

theorem perm_append_between {α : Type} (xs ys zs : List α) :
    ((xs ++ ys) ++ zs).Perm (xs ++ (zs ++ ys)) := by
  rw [List.append_assoc]
  exact List.perm_append_comm.append_left xs

def Call.kind? : Call → Option CallKind
  | .refresh .. => some .refresh
  | .announce .. => some .enabledChanged
  | .dispatch _ _ kind => some kind
  | .deliver .. => none

theorem Call.failure_eq_callFailed_iff (c : Call) (kind : CallKind) :
    c.failure = .callFailed kind ↔ c.kind? = some kind := by
  cases c <;> simp [failure, kind?]

theorem Call.failure_eq_deliveryFailed_iff (c : Call) :
    c.failure = .deliveryFailed ↔ c.isDelivery = true := by
  cases c <;> simp [failure, isDelivery]

/-- What the operation gives the counters in its critical section. -/
def Visit.activities (v : Visit) : List Activity :=
  v.center.ledger.activities v.asked?.toList

namespace Timeline

def answers (k : Timeline) : List (Call × Bool) :=
  k.log.map fun x => (x.1.call, x.2)

/-- All calls are on the log. -/
theorem Reachable.answers_perm {k : Timeline} (reachable : k.Reachable) :
    (k.answers.map (·.1)).Perm (k.entries.flatMap (·.calls)) := by
  induction reachable with
  | built enabled => exact List.Perm.nil
  | @step k k' before next ih =>
    rcases next.cases with ⟨groups, op, rfl⟩ |
      ⟨front, e, e', back, made, entries, entries', -, calls, log, -⟩
    · simpa [answers, Timeline.entries, Journal.enter, Entry.begun] using ih
    · rw [entries, List.flatMap_append, List.flatMap_cons, ← List.append_assoc] at ih
      rw [entries', List.flatMap_append, List.flatMap_cons, calls, List.append_assoc,
        ← List.append_assoc _ e.calls]
      have added : k'.answers.map (·.1) = k.answers.map (·.1) ++ made.map (·.1) := by
        simp [answers, log, Function.comp_def]
      rw [added]
      exact (ih.append_right _).trans (perm_append_between _ _ _)

end Timeline

namespace Journal

/-- A journal that came about with certain answers to the calls of its operations, in the order in
which the calls were made. An answer is that the call succeeded, or that it failed or took too
long. -/
def Answered (j : Journal) (answers : List (Call × Bool)) : Prop :=
  ∃ k : Timeline, k.Reachable ∧ k.journal = j ∧ k.answers = answers

variable {j : Journal} {answers : List (Call × Bool)}

theorem Answered.reachable (answered : j.Answered answers) : j.Reachable := by
  obtain ⟨k, reachable, same, -⟩ := answered
  exact ⟨k, reachable, same⟩

theorem Answered.perm (answered : j.Answered answers) :
    (answers.map (·.1)).Perm (j.entries.flatMap (·.calls)) := by
  obtain ⟨k, reachable, rfl, rfl⟩ := answered
  exact reachable.answers_perm

def failures (answers : List (Call × Bool)) : List Activity :=
  (answers.filter (!·.2)).map (·.1.failure)

/-- The counters come from the critical sections and the failed calls, in whatever order, and the
gauge stands at the number of marks. -/
structure Recorded (j : Journal) (answers : List (Call × Bool)) : Prop where
  history : ∃ activities, j.center.metrics = ({} : Metrics).recordAll activities ∧
    activities.Perm (j.visits.flatMap (·.activities) ++ failures answers)
  inFlight : j.center.metrics.actionsInFlight = j.center.ledger.inFlight.size

theorem Recorded.enter (recorded : j.Recorded answers) (groups : Resolver) (op : Operation) :
    (j.enter groups op).Recorded answers := by
  let v : Visit := ⟨groups, op, j.center⟩
  have follows : (op.perform groups j.center).Follows j.center v.asked? :=
    op.perform_follows j.center
  have metrics : (j.enter groups op).center.metrics = j.center.metrics.recordAll v.activities :=
    follows.metrics
  constructor
  · obtain ⟨activities, now, order⟩ := recorded.history
    refine ⟨activities ++ v.activities, ?_, ?_⟩
    · rw [metrics, now, Metrics.recordAll_append]
    · rw [visits_enter, List.flatMap_append, List.flatMap_singleton, List.append_assoc]
      exact (order.append_right v.activities).trans (perm_append_between _ _ _)
  · have marks : (j.enter groups op).center.ledger = j.center.ledger.run v.asked?.toList :=
      follows.ledger
    rw [metrics, Metrics.actionsInFlight_recordAll, recorded.inFlight, marks,
      Ledger.size_inFlight_run]
    rfl

theorem failures_concat (answers : List (Call × Bool)) (c : Call) (ok : Bool) :
    failures (answers ++ [(c, ok)]) = failures answers ++ if ok then [] else [c.failure] := by
  cases ok <;> simp [failures]

theorem Recorded.call (recorded : j.Recorded answers) (c : Call) (ok : Bool)
    {entries : List Entry} (visits : entries.map (·.visit) = j.visits) :
    Recorded { center := j.center.answered c ok, entries } (answers ++ [(c, ok)]) := by
  obtain ⟨activities, now, order⟩ := recorded.history
  have still : c.failure.launches = 0 := by
    cases c <;> rfl
  constructor
  · refine ⟨activities ++ if ok then [] else [c.failure], ?_, ?_⟩
    · rw [Metrics.recordAll_append, ← now]
      cases ok <;> rfl
    · rw [failures_concat, ← List.append_assoc]
      exact (visits ▸ order).append_right _
  · rw [Center.answered_ledger, ← recorded.inFlight]
    cases ok with
    | true => rfl
    | false =>
      have counted := Metrics.actionsInFlight_recordAll j.center.metrics [c.failure]
      rw [List.map_singleton, List.sum_singleton, still, Int.add_zero] at counted
      exact counted

theorem Recorded.calls (recorded : j.Recorded answers) (made : List (Call × Bool))
    {entries : List Entry} (visits : entries.map (·.visit) = j.visits) :
    Recorded { center := made.foldl (fun s x => s.answered x.1 x.2) j.center, entries }
      (answers ++ made) := by
  induction made generalizing j answers with
  | nil =>
    obtain ⟨activities, now, order⟩ := recorded.history
    refine ⟨⟨activities, now, ?_⟩, recorded.inFlight⟩
    rw [List.append_nil, Journal.visits, visits]
    exact order
  | cons x made ih =>
    have rest := ih (recorded.call x.1 x.2 visits) rfl
    rwa [List.append_assoc] at rest

/-- By induction over the steps. A step is a critical section, or it makes some calls. -/
theorem Answered.recorded (answered : j.Answered answers) : j.Recorded answers := by
  obtain ⟨k, reachable, rfl, rfl⟩ := answered
  induction reachable with
  | built enabled => exact ⟨⟨[], rfl, List.Perm.nil⟩, rfl⟩
  | @step k k' before next ih =>
    rcases next.cases with ⟨groups, op, rfl⟩ |
      ⟨front, e, e', back, made, entries, entries', moves, -, log, center⟩
    · exact ih.enter groups op
    · have visits : k'.journal.visits = k.journal.visits :=
        visits_replace entries entries' moves.visit
      have answers : k'.answers = k.answers ++ made := by
        simp [Timeline.answers, log, Function.comp_def]
      have counted := ih.calls made visits
      rwa [← center, ← answers] at counted

/-- What the critical sections did is counted for good, and nothing else is. -/
theorem count_activities {a : Activity} (good : a.isGauged = false) (visits : List Visit) :
    (visits.flatMap (·.activities)).count a =
      ((deeds visits).flatMap Ledger.Deed.counted).count a := by
  have counted : (visits.flatMap (·.activities)).filter (!·.isGauged) =
      (deeds visits).flatMap Ledger.Deed.counted := by
    rw [List.filter_flatMap, deeds, List.flatMap_assoc]
    exact congrArg (visits.flatMap ·) (funext fun v => v.center.ledger.filter_activities _)
  rw [← counted, List.count_filter (by rw [good, Bool.not_false])]

theorem count_failures (a : Activity) (answers : List (Call × Bool)) :
    (failures answers).count a = answers.countP fun x => x.1.failure = a && !x.2 := by
  rw [failures, List.count_eq_countP, List.countP_map, List.countP_filter]
  rfl

/-- A counter of something that calls do not do stands at how often critical sections did it. -/
theorem Recorded.count_deeds {a : Activity} (good : a.isGauged = false)
    (other : ∀ c : Call, c.failure ≠ a) {activities : List Activity}
    (order : activities.Perm (j.visits.flatMap (·.activities) ++ failures answers)) :
    activities.count a = ((deeds j.visits).flatMap Ledger.Deed.counted).count a := by
  have none : answers.countP (fun x => x.1.failure = a && !x.2) = 0 := by
    simp [other]
  rw [order.count_eq, List.count_append, count_activities good, count_failures, none, Nat.add_zero]

/-- A counter of something that ledgers do not do stands at how often calls did it. -/
theorem Recorded.count_answers {a : Activity} (good : a.isGauged = false)
    (other : ∀ d : Ledger.Deed, a ∉ d.counted) {activities : List Activity}
    (order : activities.Perm (j.visits.flatMap (·.activities) ++ failures answers)) :
    activities.count a = answers.countP fun x => x.1.failure = a && !x.2 := by
  rw [order.count_eq, List.count_append, count_activities good,
    Ledger.count_counted_eq_zero other, Nat.zero_add, count_failures]

/-- The counters stand at what the operations did and at the calls that went wrong, the gauge at
what is in flight. -/
structure Counted (j : Journal) (answers : List (Call × Bool)) : Prop where
  reportsReceived : ∀ source, (j.center.metrics.reportsReceived.get? source).getD 0 =
    (deeds j.visits).countP (Ledger.Deed.isReportBy source)
  issuesDismissed : j.center.metrics.issuesDismissed =
    (deeds j.visits).countP Ledger.Deed.isDismissal
  actionsInFlight : j.center.metrics.actionsInFlight = j.center.ledger.inFlight.size
  callFailures : ∀ kind, (j.center.metrics.callFailures.get? kind).getD 0 =
    answers.countP fun x => x.1.kind? = some kind && !x.2
  deliveryFailures : j.center.metrics.deliveryFailures =
    answers.countP fun x => x.1.isDelivery && !x.2

theorem Recorded.counted (recorded : j.Recorded answers) : j.Counted answers := by
  obtain ⟨activities, now, order⟩ := recorded.history
  refine ⟨fun source => ?_, ?_, recorded.inFlight, fun kind => ?_, ?_⟩
  · rw [now, Metrics.reportsReceived_recordAll, Metrics.getD_raised,
      count_deeds rfl (by intro c; cases c <;> simp [Call.failure]) order,
      Ledger.count_reportAccepted]
    exact Nat.zero_add _
  · rw [now, Metrics.issuesDismissed_recordAll,
      count_deeds rfl (by intro c; cases c <;> simp [Call.failure]) order,
      Ledger.count_issueDismissed]
    exact Nat.zero_add _
  · rw [now, Metrics.callFailures_recordAll, Metrics.getD_raised,
      count_answers rfl (by intro d; cases d <;> simp [Ledger.Deed.counted]) order]
    simp only [Call.failure_eq_callFailed_iff]
    exact Nat.zero_add _
  · rw [now, Metrics.deliveryFailures_recordAll,
      count_answers rfl (by intro d; cases d <;> simp [Ledger.Deed.counted]) order]
    simp only [Call.failure_eq_deliveryFailed_iff, Bool.decide_eq_true]
    exact Nat.zero_add _

/-- What clears the ledger leaves nothing in flight. -/
theorem actionsInFlight_of_clear (recorded : j.Recorded answers) {groups : Resolver}
    {op : Operation} (clears : op.onLedger? groups j.center = some .clear) :
    (j.enter groups op).center.metrics.actionsInFlight = 0 := by
  have follows : (op.perform groups j.center).Follows j.center (some .clear) :=
    clears ▸ op.perform_follows j.center
  rw [(recorded.enter groups op).inFlight, center_enter, follows.ledger]
  rfl

/-- However operations interleave and their calls are answered, the counters stand at the accepted
reports, at the dismissals that took place and at the calls that failed, and as many actions are
in flight as there are marks. There is none after the ledger was cleared, and none while the center
is off. -/
theorem counters_account (answered : j.Answered answers) :
    (answers.map (·.1)).Perm (j.entries.flatMap (·.calls)) ∧
    j.Counted answers ∧
    0 ≤ j.center.metrics.actionsInFlight ∧
    (j.center.isActive = false → j.center.metrics.actionsInFlight = 0) ∧
    ∀ groups op, op.onLedger? groups j.center = some .clear →
      (j.enter groups op).center.metrics.actionsInFlight = 0 := by
  have recorded := answered.recorded
  refine ⟨answered.perm, recorded.counted, ?_, fun inactive => ?_, fun groups op clears => ?_⟩
  · rw [recorded.inFlight]
    exact Int.natCast_nonneg _
  · rw [recorded.inFlight, (answered.reachable.tidy.1 inactive).ledger]
    rfl
  · exact actionsInFlight_of_clear recorded clears

/-- A source reports, and the observer that is shown the report does not take it. -/
theorem counters_account_of_failed_delivery :
    ∃ j answers, Answered j answers ∧
      j.visits.map (·.op) =
        [.start (.ok ⟨[{ id := ⟨"lock"⟩ }]⟩), .subscribe ⟨"page"⟩ ⟨1⟩,
          .submitReport ⟨"lock"⟩ (some { session := "first" }) ⟨.deviceRebooted, none⟩ ⟨1⟩] ∧
      j.center.metrics.reportsReceived.get? ⟨"lock"⟩ = some 1 ∧
      j.center.metrics.deliveryFailures = 1 ∧ j.Counted answers := by
  let groups : Resolver := fun u => some (.single u)
  have built : Timeline.Reachable { journal := { center := {} } } := .built true
  have entered := ((built.step (.enter _ groups (.start (.ok ⟨[{ id := ⟨"lock"⟩ }]⟩)))).step
    (.enter _ groups (.subscribe ⟨"page"⟩ ⟨1⟩))).step
    (.enter _ groups
      (.submitReport ⟨"lock"⟩ (some { session := "first" }) ⟨.deviceRebooted, none⟩ ⟨1⟩))
  have shown := entered.step
    (.call _ [_] [_] _ _ _ false rfl (.deliver _ _ _ [] [] ⟨"page"⟩ [] false))
  have answered : Answered _ _ := ⟨_, shown, rfl, rfl⟩
  exact ⟨_, _, answered, rfl, rfl, rfl, (counters_account answered).2.1⟩

end Journal

end SafetyCenter
