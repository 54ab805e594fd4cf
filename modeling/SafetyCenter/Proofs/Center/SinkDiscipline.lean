import SafetyCenter.Proofs.Center.Journal
import SafetyCenter.Proofs.Center.Progress
import SafetyCenter.Proofs.Id.Code

set_option autoImplicit false

namespace SafetyCenter

open Ledger (Deed Since CarriesAction CarriesIssue)

namespace Ledger

theorem not_keepsAction_iff {d : Deed} {id : ActionId} :
    ¬ d.KeepsAction id ↔
      d = .cleared ∨ ∃ report, d = .reported id.slot report ∧ ¬ CarriesAction report id := by
  simp [Deed.KeepsAction, or_iff_not_imp_left]

theorem not_keepsIssue_iff {d : Deed} {id : IssueId} :
    ¬ d.KeepsIssue id ↔
      d = .cleared ∨ ∃ report, d = .reported id.slot report ∧ ¬ CarriesIssue report id := by
  simp [Deed.KeepsIssue, or_iff_not_imp_left]

end Ledger

namespace Visit

/-- An execution, by a caller who is admitted for the issue's user, that finds its action live. -/
def Finds (v : Visit) (id : ActionId) (a : Action) : Prop :=
  v.asked? = some (.launch id) ∧ v.center.ledger.action? id = some a

/-- A dismissal, by a caller who is admitted for the issue's user, that takes effect. -/
def Dismisses (v : Visit) (id : IssueId) (i : Issue) : Prop :=
  v.asked? = some (.dismiss id) ∧ v.center.ledger.issue? id = some i

/-- Forgets everything, or accepts a report for the action's place that has no such action. -/
def DropsAction (v : Visit) (id : ActionId) : Prop :=
  .cleared ∈ v.deeds ∨ ∃ report, .reported id.slot report ∈ v.deeds ∧ ¬ CarriesAction report id

/-- Forgets everything, or accepts a report for the issue's place that has no such issue. -/
def DropsIssue (v : Visit) (id : IssueId) : Prop :=
  .cleared ∈ v.deeds ∨ ∃ report, .reported id.slot report ∈ v.deeds ∧ ¬ CarriesIssue report id

variable {v : Visit} {d : Deed}

theorem dropsAction_of_deed {id : ActionId} (done : d ∈ v.deeds) (drops : ¬ d.KeepsAction id) :
    v.DropsAction id := by
  rcases Ledger.not_keepsAction_iff.mp drops with rfl | ⟨report, rfl, gone⟩
  · exact Or.inl done
  · exact Or.inr ⟨report, done, gone⟩

theorem dropsIssue_of_deed {id : IssueId} (done : d ∈ v.deeds) (drops : ¬ d.KeepsIssue id) :
    v.DropsIssue id := by
  rcases Ledger.not_keepsIssue_iff.mp drops with rfl | ⟨report, rfl, gone⟩
  · exact Or.inl done
  · exact Or.inr ⟨report, done, gone⟩

theorem deeds_of_finds {id : ActionId} {a : Action} (finds : v.Finds id a)
    (resolves : a.resolves = true) : v.deeds = [.launched id] := by
  rw [deeds, finds.1]
  simp [Ledger.log, Ledger.Operation.perform, Ledger.launch_of_found finds.2 resolves,
    Ledger.Operation.deed?]

theorem deeds_of_dismisses {id : IssueId} {i : Issue} (dismisses : v.Dismisses id i) :
    v.deeds = [.dismissed id] := by
  rw [deeds, dismisses.1]
  simp [Ledger.log, Ledger.Operation.perform, Ledger.dismiss_of_found dismisses.2,
    Ledger.Operation.deed?]

theorem due_of_finds {id : ActionId} {a : Action} (finds : v.Finds id a) :
    v.due = [.dispatch a.target id.issue.user .action] := by
  rw [due, finds.1]
  simp [Ledger.due, finds.2]

theorem due_of_dismisses {id : IssueId} {i : Issue} (dismisses : v.Dismisses id i) :
    v.due = i.onDismiss.toList.map fun target => .dispatch target id.user .dismiss := by
  rw [due, dismisses.1]
  simp [Ledger.due, dismisses.2]

theorem due_otherwise (finds : ∀ id a, ¬ v.Finds id a) (dismisses : ∀ id i, ¬ v.Dismisses id i) :
    v.due = [] := by
  rw [due]
  cases asked : v.asked? with
  | none => rfl
  | some op =>
    cases op with
    | launch id =>
      cases found : v.center.ledger.action? id with
      | none => simp [Ledger.due, found]
      | some a => exact absurd ⟨asked, found⟩ (finds id a)
    | dismiss id =>
      cases found : v.center.ledger.issue? id with
      | none => simp [Ledger.due, found]
      | some i => exact absurd ⟨asked, found⟩ (dismisses id i)
    | _ => rfl

end Visit

/-- The operation hands these calls to the sink, in order and not one of them twice; when it has
returned, it has handed over all of them. -/
structure Entry.Sends (e : Entry) (calls : List Call) : Prop where
  part : e.sent <+: calls
  whole : e.HasReturned → e.sent = calls

theorem Entry.Accounted.sends {e : Entry} (accounted : e.Accounted) : e.Sends e.visit.due := by
  obtain ⟨dropped, same, kept⟩ := accounted
  refine ⟨⟨e.task.dispatches ++ dropped, by rw [← same, List.append_assoc]⟩, fun returned => ?_⟩
  rw [← same, kept returned.2, Task.dispatches, returned.1]
  simp

def Entry.Prompt (e : Entry) : Prop :=
  e.visit.op.isAboutIssue = true → e.task.Prompt

theorem Entry.Prompt.moves {e e' : Entry} (prompt : e.Prompt) (moves : e.Moves e') :
    e'.Prompt := by
  intro about
  rw [moves.visit] at about
  cases moves with
  | call c t makes => exact (prompt about).makes makes
  | pass t passes => exact (prompt about).passes passes
  | acquire => exact prompt about
  | cancel => simp [Task.Prompt, Entry.cancel]

structure Journal.SinkDiscipline (j : Journal) : Prop where
  /-- an execution that finds its action sends the action's target for the issue's user, once -/
  executed : ∀ e ∈ j.entries, ∀ id a, e.visit.Finds id a →
    e.Sends [.dispatch a.target id.issue.user .action]
  /-- a dismissal that takes effect sends the target of the issue, if it has one, once -/
  dismissed : ∀ e ∈ j.entries, ∀ id i, e.visit.Dismisses id i →
    e.Sends (i.onDismiss.toList.map fun target => .dispatch target id.user .dismiss)
  /-- nothing else is sent -/
  otherwise : ∀ e ∈ j.entries, (∀ id a, ¬ e.visit.Finds id a) →
    (∀ id i, ¬ e.visit.Dismisses id i) → e.sent = []
  /-- executions and dismissals come to their end by themselves, whatever is answered -/
  returns : ∀ e ∈ j.entries, e.visit.op.isAboutIssue = true → e.task.Ends
  /-- a resolving action is found again only after it was dropped -/
  relaunched : ∀ (first between later : List Visit) (v w : Visit) (id : ActionId) (a b : Action),
    j.visits = first ++ v :: (between ++ w :: later) →
    v.Finds id a → a.resolves = true → w.Finds id b → b.resolves = true →
    ∃ u ∈ between, u.DropsAction id
  /-- an issue is dismissed again only after it was dropped -/
  redismissed : ∀ (first between later : List Visit) (v w : Visit) (id : IssueId) (i k : Issue),
    j.visits = first ++ v :: (between ++ w :: later) →
    v.Dismisses id i → w.Dismisses id k → ∃ u ∈ between, u.DropsIssue id

namespace Journal

variable {j : Journal} {first between later : List Visit} {v w : Visit}

/-- What a critical section did and is no longer in force was undone by one of those since. -/
theorem exists_undone {d : Deed} {kept : Deed → Prop} (did : v.deeds = [d])
    (ended : ¬ Since (· = d) kept (deeds (first ++ v :: between))) :
    ∃ u ∈ between, ∃ undone ∈ u.deeds, ¬ kept undone := by
  rw [deeds, List.flatMap_append, List.flatMap_cons, did, List.singleton_append] at ended
  by_contra all
  push Not at all
  refine ended ⟨_, d, _, rfl, rfl, fun after member => ?_⟩
  obtain ⟨u, inside, done⟩ := List.mem_flatMap.mp member
  exact all u inside after done

theorem Chronicled.relaunched (chronicled : j.Chronicled) {id : ActionId} {a b : Action}
    (visits : j.visits = first ++ v :: (between ++ w :: later)) (finds : v.Finds id a)
    (resolves : a.resolves = true) (again : w.Finds id b) (resolvesAgain : b.resolves = true) :
    ∃ u ∈ between, u.DropsAction id := by
  have met := chronicled.past (first ++ v :: between) w later (by simp [visits])
  have free := Ledger.not_inFlight_of_action? again.2 resolvesAgain
  rw [met.inFlight] at free
  obtain ⟨u, inside, d, done, drops⟩ := exists_undone (Visit.deeds_of_finds finds resolves) free
  exact ⟨u, inside, Visit.dropsAction_of_deed done drops⟩

theorem Chronicled.redismissed (chronicled : j.Chronicled) {id : IssueId} {i k : Issue}
    (visits : j.visits = first ++ v :: (between ++ w :: later)) (dismisses : v.Dismisses id i)
    (again : w.Dismisses id k) : ∃ u ∈ between, u.DropsIssue id := by
  have met := chronicled.past (first ++ v :: between) w later (by simp [visits])
  have shown := (Ledger.issue?_eq_some_iff.mp again.2).1
  rw [met.dismissed] at shown
  obtain ⟨u, inside, d, done, drops⟩ := exists_undone (Visit.deeds_of_dismisses dismisses) shown
  exact ⟨u, inside, Visit.dropsIssue_of_deed done drops⟩

/-- However operations interleave, whatever is answered to their calls, and whichever of them are
cancelled, the discipline of the dispatch sink is kept. -/
theorem sink_discipline (reachable : j.Reachable) : j.SinkDiscipline := by
  have accounted := reachable.entries Entry.accounted_begun fun _ _ before => before.moves
  have prompt := reachable.entries (P := Entry.Prompt)
    (fun v => Operation.prompt_of_isAboutIssue v.center) fun _ _ before => before.moves
  have chronicled := reachable.chronicled
  refine ⟨?_, ?_, ?_, ?_, ?_, ?_⟩
  · intro e member id a finds
    rw [← Visit.due_of_finds finds]
    exact (accounted e member).sends
  · intro e member id i dismisses
    rw [← Visit.due_of_dismisses dismisses]
    exact (accounted e member).sends
  · intro e member finds dismisses
    have nothing := (accounted e member).sends.part
    rw [Visit.due_otherwise finds dismisses] at nothing
    exact List.prefix_nil.mp nothing
  · intro e member about
    exact Task.ends_of_prompt _ _ _ (prompt e member about)
  · intro first between later v w id a b visits finds resolves again resolvesAgain
    exact chronicled.relaunched visits finds resolves again resolvesAgain
  · intro first between later v w id i k visits dismisses again
    exact chronicled.redismissed visits dismisses again

/-- A resolving action is executed twice. The sink fails on the first execution, and is not asked
again. -/
theorem sink_discipline_of_two_executions :
    let groups : Resolver := fun u => some (.single u)
    let fix : Action := { key := "fix", label := "Fix", resolves := true, target := "lock/fix" }
    let weak : Issue := { key := "weak", severity := .recommendation, actions := [fix] }
    let report : Report := { session := "first", issues := [weak] }
    let id : ActionId := ⟨⟨⟨"lock"⟩, ⟨1⟩, "weak", "", "first"⟩, "fix"⟩
    let execution : Operation := .executeAction id.issue.encode id.encode ⟨1⟩
    let started := enter { center := {} } groups (.start (.ok ⟨[{ id := ⟨"lock"⟩ }]⟩))
    let reported := started.enter groups
      (.submitReport ⟨"lock"⟩ (some report) ⟨.deviceRebooted, none⟩ ⟨1⟩)
    ∃ j : Journal, j.Reachable ∧
      j.visits.map (·.op) = reported.visits.map (·.op) ++ [execution, execution] ∧
      j.entries.map (·.sent) = [[], [], [.dispatch "lock/fix" ⟨1⟩ .action], []] ∧
      j.SinkDiscipline := by
  intro groups fix weak report id execution started reported
  have issue : IssueId.decode id.issue.encode = .ok id.issue := by
    rw [IssueId.decode_eq_ok_iff]
    exact ⟨⟨by decide, by decide, by decide, by decide⟩, by decide, by decide, rfl⟩
  have action : ActionId.decode id.encode = .ok id := by
    rw [ActionId.decode_eq_ok_iff]
    exact ⟨⟨⟨by decide, by decide, by decide, by decide⟩, by decide⟩, by decide, by decide,
      by decide, rfl⟩
  let launched := reported.center.withLedger (reported.center.ledger.launch id)
  have performed : execution.perform groups reported.center =
      { center := launched
        answer := .ok .done
        stages := [.deliver (launched.viewOf (.single ⟨1⟩)) none [],
          .dispatch "lock/fix" ⟨1⟩ .action] } := by
    simp only [execution, Operation.perform, Center.executeAction, issue, action]
    rfl
  let once := reported.enter groups execution
  let twice := once.enter groups execution
  let e : Entry := .begun ⟨groups, execution, reported.center⟩
  let e' : Entry := .begun ⟨groups, execution, once.center⟩
  have built : Reachable { center := {} } := .built true
  have entered : twice.Reachable :=
    (((built.step (.enter _ groups (.start _))).step
      (.enter _ groups (.submitReport _ _ _ _))).step (.enter _ groups _)).step (.enter _ groups _)
  have passes : e.task.Passes
      ⟨some (.single ⟨1⟩), [.dispatch "lock/fix" ⟨1⟩ .action], false⟩ := by
    show Task.Passes ⟨_, (execution.perform groups reported.center).stages, false⟩ _
    rw [performed]
    exact .delivered _ _ _ _ _
  have passed := entered.step
    (.pass twice reported.entries [e'] e _ (List.append_assoc reported.entries [e] [e']) passes)
  have failed := passed.step (.call _ reported.entries [e'] _ _ _ false rfl
    (.dispatch _ "lock/fix" ⟨1⟩ .action [] false))
  exact ⟨_, failed, rfl, rfl, sink_discipline failed⟩

end Journal

end SafetyCenter
