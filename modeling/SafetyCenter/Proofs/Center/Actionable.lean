import SafetyCenter.Proofs.Center.Progress
import SafetyCenter.Proofs.Center.Setting
import SafetyCenter.Proofs.Id.Code
import SafetyCenter.Proofs.Ledger.Dismissal

set_option autoImplicit false

namespace SafetyCenter

namespace Ledger

variable {l : Ledger} {c : Catalogue} {g : ProfileGroup}

/-- The text of a reported issue's id is read back if the source has a name. -/
theorem Sound.decode_issue (sound : l.Sound) {id : IssueId} {i : Issue}
    (found : l.reportedIssue? id = some i) (source : id.source.name ≠ "") (fits : id.Fits) :
    IssueId.decode id.encode = .ok id := by
  obtain ⟨r, valid, member, key⟩ := sound.exists_report found
  refine (IssueId.decode_eq_ok_iff _ id).mpr ⟨fits, source, ?_, rfl⟩
  rw [← key]
  exact valid.issues.nonempty i member

/-- The texts of a reported action's ids are read back if the source has a name. -/
theorem Sound.decode_action (sound : l.Sound) {id : ActionId} {a : Action}
    (found : l.reportedAction? id = some a) (source : id.issue.source.name ≠ "")
    (fits : id.Fits) :
    IssueId.decode id.issue.encode = .ok id.issue ∧ ActionId.decode id.encode = .ok id := by
  obtain ⟨i, there, inside⟩ := Option.bind_eq_some_iff.mp found
  have issue := sound.decode_issue there source fits.issue
  have issueKey := ((IssueId.decode_eq_ok_iff _ id.issue).mp issue).2.2.1
  obtain ⟨r, valid, reported, -⟩ := sound.exists_report there
  obtain ⟨member, key⟩ := (valid.action?_eq_some_iff reported).mp inside
  refine ⟨issue, (ActionId.decode_eq_ok_iff _ id).mpr ⟨fits, source, issueKey, ?_, rfl⟩⟩
  rw [← key]
  exact (valid.actions i reported).nonempty a member

/-- A shown issue comes from a declared source and belongs to a member of the group. -/
theorem Sound.declared_of_shown (sound : l.Sound) {shown : View.Issue}
    (member : shown ∈ (l.view c g).issues) :
    (∃ s ∈ c.sources, s.id = shown.id.source) ∧ shown.id.user ∈ g := by
  obtain ⟨-, s, declared, -, same, covers⟩ := sound.exists_shown_iff.mp ⟨shown, member, rfl⟩
  exact ⟨⟨s, declared, same⟩, Source.mem_of_covers covers⟩

/-- A shown action is the one that its id names, and it is found unless it resolves and is in
flight. -/
theorem Sound.found_of_shown (sound : l.Sound) {shown : View.Issue}
    (member : shown ∈ (l.view c g).issues) {va : View.Action} (listed : va ∈ shown.actions) :
    va.id.issue = shown.id ∧ ∃ a, l.reportedAction? va.id = some a ∧ va.label = a.label ∧
      va.resolves = a.resolves ∧
      l.action? va.id = if va.resolves = true ∧ va.inFlight = true then none else some a := by
  obtain ⟨i, there, displays⟩ := sound.issue?_of_shown member
  rw [displays.actions] at listed
  obtain ⟨a, inside, rfl⟩ := List.mem_map.mp listed
  have found := (issue?_eq_some_iff.mp there).2
  obtain ⟨r, valid, reported, -⟩ := sound.exists_report found
  have named : i.action? a.key = some a :=
    (valid.action?_eq_some_iff reported).mpr ⟨inside, rfl⟩
  refine ⟨rfl, a, ?_, rfl, rfl, ?_⟩
  · simp only [reportedAction?, found, Option.bind_some, named]
  · simp only [action?, there, Option.bind_some, named, Option.filter_some,
      decide_eq_true_eq]
    by_cases marked : (⟨shown.id, a.key⟩ : ActionId) ∈ l.inFlight
    · cases a.resolves <;> simp [marked]
    · simp [marked]

end Ledger

namespace Center

variable {groups : Resolver} {s : Center} {g : ProfileGroup} {user target : UserId}

theorem forOwner_member (acts : groups user = some g) (member : target ∈ g) (op : IssueOperation)
    (act : ProfileGroup → Outcome) : s.forOwner groups user target op act = act g := by
  simp only [forOwner, forGroup, acts, member, if_pos]

/-- A view with an issue is that of an active center for the caller's group. -/
theorem viewOf_of_shown {view : View} (shows : (s.showView groups user).answer = .ok (.view view))
    {shown : View.Issue} (member : shown ∈ view.issues) :
    s.isActive = true ∧ ∃ g, groups user = some g ∧ shown ∈ (s.viewOf g).issues := by
  unfold showView forGroup at shows
  split at shows
  · cases shows
  · rename_i g acts
    dsimp only at shows
    unfold ifActive at shows
    split at shows
    · rename_i active
      cases shows
      exact ⟨active, g, acts, member⟩
    · cases shows
      simp at member

end Center

namespace Operation

variable {groups : Resolver} {s : Center} {g : ProfileGroup} {user : UserId}

theorem answer_dismissal {id : IssueId} (decoded : IssueId.decode id.encode = .ok id)
    (acts : groups user = some g) (member : id.user ∈ g) :
    ((Operation.dismissIssue id.encode user).perform groups s).answer = .ok .done := by
  simp only [perform, Center.dismissIssue, decoded, Center.forOwner_member acts member]
  unfold Center.ifActive
  split
  · split
    · rfl
    · rfl
  · rfl

/-- What an execution comes to once the ids are read, the caller is let in and the action is found.
-/
theorem perform_execution {id : ActionId} {a : Action}
    (issue : IssueId.decode id.issue.encode = .ok id.issue)
    (action : ActionId.decode id.encode = .ok id) (active : s.isActive = true)
    (acts : groups user = some g) (member : id.issue.user ∈ g)
    (found : s.ledger.action? id = some a) :
    (Operation.executeAction id.issue.encode id.encode user).perform groups s =
      { center := s.withLedger (s.ledger.launch id), answer := .ok .done
        stages :=
          let dispatch := Stage.dispatch a.target id.issue.user .action
          if (s.ledger.launch id).answer then
            [(s.withLedger (s.ledger.launch id)).deliveryFor g none, dispatch]
          else [dispatch] } := by
  simp only [perform, Center.executeAction, issue, action, ne_eq, not_true_eq_false, ↓reduceIte,
    Center.forOwner_member acts member, Center.ifActive, active, found]

/-- The execution of a resolving action marks it, shows the view and hands over the target. -/
theorem perform_resolving {id : ActionId} {a : Action} (fits : id.Fits)
    (named : id.issue.source.name ≠ "" ∧ id.issue.issueKey ≠ "" ∧ id.actionKey ≠ "")
    (active : s.isActive = true) (acts : groups user = some g) (member : id.issue.user ∈ g)
    (found : s.ledger.action? id = some a) (resolves : a.resolves = true) :
    (Operation.executeAction id.issue.encode id.encode user).perform groups s =
      { center := s.withLedger (s.ledger.launch id), answer := .ok .done
        stages := [(s.withLedger (s.ledger.launch id)).deliveryFor g none,
          .dispatch a.target id.issue.user .action] } := by
  obtain ⟨issue, action⟩ := ActionId.decode_of_named fits named
  have launched : (s.ledger.launch id).answer = true := by
    rw [Ledger.launch_of_found found resolves]
  rw [perform_execution issue action active acts member found]
  simp only [launched, if_true]

/-- What users ask for about an issue returns, whatever is answered to its calls. -/
theorem ends_of_isAboutIssue (s : Center) (op : Operation) (about : op.isAboutIssue = true)
    (group : Option ProfileGroup) : Task.Ends ⟨group, (op.perform groups s).stages, false⟩ :=
  Task.ends_of_prompt group _ false (prompt_of_isAboutIssue s about)

/-- A dismissal through the text of the id asks for the dismissal of that issue. -/
theorem follows_dismissal {id : IssueId} (decoded : IssueId.decode id.encode = .ok id)
    (active : s.isActive = true) (acts : groups user = some g) (member : id.user ∈ g) :
    ((Operation.dismissIssue id.encode user).perform groups s).Follows s (some (.dismiss id)) := by
  have asked : (Operation.dismissIssue id.encode user).onLedger? groups s = some (.dismiss id) := by
    rw [onLedger?_eq_dismiss_iff]
    refine ⟨_, user, rfl, ?_, Center.admits_iff.mpr ⟨active, g, acts, member⟩⟩
    rw [dismissal?, decoded]
    rfl
  rw [← asked]
  exact perform_follows s _

/-- An execution through the texts of the ids asks for the launch of that action. -/
theorem follows_execution {id : ActionId} (issue : IssueId.decode id.issue.encode = .ok id.issue)
    (action : ActionId.decode id.encode = .ok id) (active : s.isActive = true)
    (acts : groups user = some g) (member : id.issue.user ∈ g) :
    ((Operation.executeAction id.issue.encode id.encode user).perform groups s).Follows s
      (some (.launch id)) := by
  have asked : (Operation.executeAction id.issue.encode id.encode user).onLedger? groups s =
      some (.launch id) := by
    rw [onLedger?_eq_launch_iff]
    refine ⟨_, _, user, rfl, ?_, Center.admits_iff.mpr ⟨active, g, acts, member⟩⟩
    simp [execution?, issue, action, Except.toOption, Option.filter]
  rw [← asked]
  exact perform_follows s _

end Operation

/-- The operation returns without an error, whatever is answered to its calls, and these calls are
the ones it makes to the dispatch sink. -/
structure Outcome.Completes (o : Outcome) (calls : List Call) : Prop where
  answer : o.answer = .ok .done
  ends : ∀ group, Task.Ends ⟨group, o.stages, false⟩
  hands : o.stages.flatMap (·.dispatches) = calls

/-- The issue was there, and is dismissed. Nothing else in the ledger changes, the issue is in no
view any more, and its target, if it has one, goes to the dispatch sink. -/
structure Outcome.Dismisses (s : Center) (id : IssueId) (o : Outcome) : Prop where
  completes : ∃ i, s.ledger.issue? id = some i ∧
    o.Completes (i.onDismiss.toList.map fun target => .dispatch target id.user .dismiss)
  ledger : o.center.ledger = { s.ledger with dismissed := s.ledger.dismissed.insert id }
  hidden : ∀ c g, ∀ shown ∈ (o.center.ledger.view c g).issues, shown.id ≠ id

/-- The target of the shown action goes to the dispatch sink, and the action is in flight if it
resolves. -/
structure Outcome.Executes (s : Center) (va : View.Action) (o : Outcome) : Prop where
  completes : ∃ a, s.ledger.reportedAction? va.id = some a ∧ va.label = a.label ∧
    va.resolves = a.resolves ∧ o.Completes [.dispatch a.target va.id.issue.user .action]
  marked : va.resolves = true → va.id ∈ o.center.ledger.inFlight

namespace Center

variable {groups : Resolver} {s : Center} {g : ProfileGroup} {user : UserId}

/-- A dismissal of a shown issue through the text of its id takes place. -/
theorem dismisses_of_shown (sound : s.ledger.Sound) (active : s.isActive = true)
    (acts : groups user = some g) {shown : View.Issue} (member : shown ∈ (s.viewOf g).issues)
    (source : shown.id.source.name ≠ "") (fits : shown.id.Fits) :
    ((Operation.dismissIssue shown.id.encode user).perform groups s).Dismisses s shown.id := by
  obtain ⟨i, there, -⟩ := sound.issue?_of_shown member
  have decoded := sound.decode_issue (Ledger.issue?_eq_some_iff.mp there).2 source fits
  have inside := (sound.declared_of_shown member).2
  have follows := Operation.follows_dismissal decoded active acts inside
  have ledger : ((Operation.dismissIssue shown.id.encode user).perform groups s).center.ledger =
      { s.ledger with dismissed := s.ledger.dismissed.insert shown.id } := by
    rw [follows.ledger]
    show (s.ledger.dismiss shown.id).ledger = _
    rw [Ledger.dismiss_of_found there]
  refine ⟨⟨i, there, Operation.answer_dismissal decoded acts inside,
    Operation.ends_of_isAboutIssue s _ rfl, ?_⟩, ledger, ?_⟩
  · rw [follows.dispatches]
    simp [Ledger.due, there]
  · rw [ledger]
    have missing : Ledger.issue?
        { s.ledger with dismissed := s.ledger.dismissed.insert shown.id } shown.id = none :=
      if_pos (Distinct.mem_insert.mpr (Or.inr rfl))
    exact (sound.dismiss there).not_shown missing

/-- An execution of a shown action through the texts of its ids hands over the action's target
unless the action is shown as resolving and in flight, or the source has no name. -/
theorem dispatches_of_shown (sound : s.ledger.Sound) (active : s.isActive = true)
    (acts : groups user = some g) {shown : View.Issue} (member : shown ∈ (s.viewOf g).issues)
    {va : View.Action} (listed : va ∈ shown.actions) (fits : va.id.Fits) :
    ∃ a, s.ledger.reportedAction? va.id = some a ∧
      ((Operation.executeAction shown.id.encode va.id.encode user).perform groups s).stages.flatMap
          (·.dispatches) =
        if shown.id.source.name ≠ "" ∧ ¬ (va.resolves = true ∧ va.inFlight = true) then
          [.dispatch a.target shown.id.user .action]
        else [] := by
  obtain ⟨issue, a, reported, -, -, found⟩ := sound.found_of_shown member listed
  have inside := (sound.declared_of_shown member).2
  refine ⟨a, reported, ?_⟩
  rw [← issue] at inside ⊢
  by_cases source : va.id.issue.source.name = ""
  · -- nothing but the reading of the ids asks for the name
    have refused : IssueId.decode va.id.issue.encode = .error .emptyIssuePart := by
      rw [IssueId.decode_encode_of_fits fits.issue]
      simp [IssueId.isNamed, source]
    simp only [Operation.perform, executeAction, refused, source]
    rfl
  · obtain ⟨decodedIssue, decodedAction⟩ := sound.decode_action reported source fits
    rw [(Operation.follows_execution decodedIssue decodedAction active acts inside).dispatches]
    by_cases busy : va.resolves = true ∧ va.inFlight = true
    · simp [Ledger.due, found, busy]
    · simp [Ledger.due, found, busy, source]

/-- An execution of a shown action that does not resolve or is not in flight takes place. -/
theorem executes_of_shown (sound : s.ledger.Sound) (active : s.isActive = true)
    (acts : groups user = some g) {shown : View.Issue} (member : shown ∈ (s.viewOf g).issues)
    {va : View.Action} (listed : va ∈ shown.actions) (source : shown.id.source.name ≠ "")
    (fits : va.id.Fits) (ready : ¬ (va.resolves = true ∧ va.inFlight = true)) :
    ((Operation.executeAction shown.id.encode va.id.encode user).perform groups s).Executes
      s va := by
  obtain ⟨a, reported, hands⟩ := dispatches_of_shown sound active acts member listed fits
  obtain ⟨issue, a', reported', label, resolves, found⟩ := sound.found_of_shown member listed
  rw [reported] at reported'
  cases reported'
  rw [if_neg ready] at found
  rw [if_pos ⟨source, ready⟩] at hands
  have inside := (sound.declared_of_shown member).2
  rw [← issue] at inside hands source ⊢
  obtain ⟨decodedIssue, decodedAction⟩ := sound.decode_action reported source fits
  have performed :=
    Operation.perform_execution decodedIssue decodedAction active acts inside found
  refine ⟨⟨a, reported, label, resolves, ?_, ?_, hands⟩, fun launched => ?_⟩
  · rw [performed]
  · exact Operation.ends_of_isAboutIssue s _ rfl
  · rw [performed, withLedger, Ledger.launch_of_found found (resolves ▸ launched)]
    exact Distinct.mem_insert.mpr (Or.inr rfl)

end Center

namespace Journal

variable {j : Journal} {groups : Resolver} {user : UserId} {view : View}

/-- However operations interleaved before, an execution of a shown action through the texts of its
ids returns and hands the action's target to the dispatch sink, unless the action is shown as
resolving and in flight. Only ids of a source without a name are refused. All texts that a machine
holds fit into an id. -/
theorem executes_unless_resolving_in_flight (reachable : j.Reachable)
    (shows : (j.center.showView groups user).answer = .ok (.view view)) {shown : View.Issue}
    (member : shown ∈ view.issues) {va : View.Action} (listed : va ∈ shown.actions)
    (fits : va.id.Fits) :
    let o := (Operation.executeAction shown.id.encode va.id.encode user).perform groups j.center
    (∀ group, Task.Ends ⟨group, o.stages, false⟩) ∧
      ∃ a, j.center.ledger.reportedAction? va.id = some a ∧
        o.stages.flatMap (·.dispatches) =
          if shown.id.source.name ≠ "" ∧ ¬ (va.resolves = true ∧ va.inFlight = true) then
            [.dispatch a.target shown.id.user .action]
          else [] := by
  intro o
  have sound := reachable.chronicled.sound
  obtain ⟨active, g, acts, inside⟩ := Center.viewOf_of_shown shows member
  exact ⟨Operation.ends_of_isAboutIssue j.center _ rfl,
    Center.dispatches_of_shown sound active acts inside listed fits⟩

/-- A resolving action was reported, and is executed. -/
theorem executes_unless_resolving_in_flight_of_report :
    let groups : Resolver := fun u => some (.single u)
    let fix : Action := { key := "fix", label := "Fix", resolves := true, target := "lock/fix" }
    let weak : Issue := { key := "weak", severity := .recommendation, actions := [fix] }
    let report : Report := { session := "first", issues := [weak] }
    let id : ActionId := ⟨⟨⟨"lock"⟩, ⟨1⟩, "weak", "", "first"⟩, "fix"⟩
    let started := enter { center := {} } groups (.start (.ok ⟨[{ id := ⟨"lock"⟩ }]⟩))
    let reported := started.enter groups
      (.submitReport ⟨"lock"⟩ (some report) ⟨.deviceRebooted, none⟩ ⟨1⟩)
    ((Operation.executeAction id.issue.encode id.encode ⟨1⟩).perform groups
      reported.center).stages.flatMap (·.dispatches) = [.dispatch "lock/fix" ⟨1⟩ .action] := by
  intro groups fix weak report id started reported
  let va := reported.center.ledger.showAction id.issue fix
  let shown := reported.center.ledger.showIssue id.issue weak
  have reachable : reported.Reachable :=
    ((Reachable.built true).step (.enter _ groups (.start _))).step
      (.enter _ groups (.submitReport _ _ _ _))
  have shows : (reported.center.showView groups ⟨1⟩).answer =
      .ok (.view (reported.center.viewOf (.single ⟨1⟩))) := rfl
  have member : shown ∈ (reported.center.viewOf (.single ⟨1⟩)).issues := by decide
  have listed : va ∈ shown.actions := by decide
  have fits : va.id.Fits := ⟨⟨by decide, by decide, by decide, by decide⟩, by decide⟩
  have still : reported.center.ledger.reportedAction? va.id = some fix := by decide
  obtain ⟨-, a, found, hands⟩ :=
    executes_unless_resolving_in_flight reachable shows member listed fits
  rw [still] at found
  cases found
  exact hands

/-- A resolving action is executed, and then reported again, in the same session, as one that does
not resolve. It is shown in flight, and is executed all the same. An action of a source without a
name, which a foreign loader may declare, is shown as not in flight, and is not executed. -/
theorem in_flight_does_not_tell :
    let groups : Resolver := fun u => some (.single u)
    let fix : Action := { key := "fix", label := "Fix", resolves := true, target := "lock/fix" }
    let weak : Action → Issue := fun a =>
      { key := "weak", severity := .recommendation, actions := [a] }
    let id : String → ActionId := fun source => ⟨⟨⟨source⟩, ⟨1⟩, "weak", "", "first"⟩, "fix"⟩
    let execution : String → Operation := fun source =>
      .executeAction (id source).issue.encode (id source).encode ⟨1⟩
    let reports : String → Action → Operation := fun source a =>
      .submitReport ⟨source⟩ (some { session := "first", issues := [weak a] })
        ⟨.deviceRebooted, none⟩ ⟨1⟩
    let started : String → Journal := fun source =>
      enter { center := {} } groups (.start (.ok ⟨[{ id := ⟨source⟩ }]⟩))
    let reported := (started "lock").enter groups (reports "lock" fix)
    let launched := reported.enter groups (execution "lock")
    let redeclared := launched.enter groups (reports "lock" { fix with resolves := false })
    let nameless := (started "").enter groups (reports "" fix)
    (redeclared.Reachable ∧
      (∃ view, (redeclared.center.showView groups ⟨1⟩).answer = .ok (.view view) ∧
        ∃ shown ∈ view.issues, ∃ va ∈ shown.actions, va.id = id "lock" ∧ va.inFlight = true) ∧
      ((execution "lock").perform groups redeclared.center).stages.flatMap (·.dispatches) =
        [.dispatch "lock/fix" ⟨1⟩ .action]) ∧
    (nameless.Reachable ∧
      (∃ view, (nameless.center.showView groups ⟨1⟩).answer = .ok (.view view) ∧
        ∃ shown ∈ view.issues, ∃ va ∈ shown.actions, va.id = id "" ∧ va.inFlight = false) ∧
      ((execution "").perform groups nameless.center).stages.flatMap (·.dispatches) = []) := by
  intro groups fix weak id execution reports started reported launched redeclared nameless
  have built : Reachable { center := {} } := .built true
  have fits : ∀ source, Field.Fits source → (id source).Fits := by
    intro source short
    have key : Field.Fits "weak" ∧ Field.Fits "" ∧ Field.Fits "first" ∧ Field.Fits "fix" := by
      decide
    exact ⟨⟨short, key.1, key.2.1, key.2.2.1⟩, key.2.2.2⟩
  have acts : groups ⟨1⟩ = some (.single ⟨1⟩) := rfl
  have inside : (⟨1⟩ : UserId) ∈ ProfileGroup.single ⟨1⟩ := by decide
  constructor
  · have told : reported.Reachable :=
      (built.step (.enter _ groups (.start _))).step (.enter _ groups (reports "lock" fix))
    have stored : reported.center.ledger.reportedAction? (id "lock") = some fix := by decide
    obtain ⟨issue, action⟩ :=
      told.chronicled.sound.decode_action stored (by decide) (fits "lock" (by decide))
    have active : reported.center.isActive = true := rfl
    have found : reported.center.ledger.action? (id "lock") = some fix := by decide
    -- by the equation of an execution: to evaluate it here would decode the texts
    have performed : launched.center =
        reported.center.withLedger (reported.center.ledger.launch (id "lock")) := by
      have performed := Operation.perform_execution issue action active acts inside found
      exact (center_enter reported groups (execution "lock")).trans (congrArg (·.center) performed)
    have center : redeclared.center =
        ((reports "lock" { fix with resolves := false }).perform groups
          (reported.center.withLedger (reported.center.ledger.launch (id "lock")))).center := by
      rw [← performed, ← center_enter]
    refine ⟨?_, ?_, ?_⟩
    · exact (told.step (.enter _ groups (execution "lock"))).step
        (.enter _ groups (reports "lock" _))
    · rw [center]
      exact ⟨_, rfl, by decide⟩
    · have awake : redeclared.center.isActive = true := by
        rw [center]
        rfl
      have again : redeclared.center.ledger.action? (id "lock") =
          some { fix with resolves := false } := by
        rw [center]
        decide
      rw [(Operation.follows_execution issue action awake acts inside).dispatches]
      simp [Ledger.due, again, id, fix]
  · refine ⟨?_, ?_, ?_⟩
    · exact (built.step (.enter _ groups (.start _))).step (.enter _ groups _)
    · exact ⟨_, rfl, by decide⟩
    · have refused : IssueId.decode (id "").issue.encode = .error .emptyIssuePart :=
        IssueId.decode_encode_of_fits (fits "" (by decide)).issue
      simp only [execution, Operation.perform, Center.executeAction, refused]
      rfl

/-- As long as all catalogues were loaded by the loaders at hand, a view shows no issue of a source
without a name. -/
theorem Reachable.source_of_shown (reachable : j.Reachable)
    (own : ∀ v ∈ j.visits, v.op.LoadsOwn) {g : ProfileGroup} (active : j.center.isActive = true)
    {shown : View.Issue} (member : shown ∈ (j.center.viewOf g).issues) :
    shown.id.source.name ≠ "" := by
  have loaded := (Bool.and_eq_true_iff.mp active).2
  have faultless := (reachable.faultless own).current loaded
  obtain ⟨-, keyed⟩ := (Catalogue.fault?_eq_none_iff _).mp faultless
  obtain ⟨⟨s, declared, same⟩, -⟩ := reachable.chronicled.sound.declared_of_shown member
  rw [← same]
  exact keyed.nonempty s declared

/-- However operations interleaved before, as long as all catalogues were loaded by the loaders at
hand, whatever a view shows can be acted on through the texts of its ids: the issue can be
dismissed, and each of its actions that is not both resolving and in flight can be executed. -/
theorem shown_can_be_acted_on (reachable : j.Reachable) (own : ∀ v ∈ j.visits, v.op.LoadsOwn)
    (shows : (j.center.showView groups user).answer = .ok (.view view)) {shown : View.Issue}
    (member : shown ∈ view.issues) (fits : shown.id.Fits) :
    ((Operation.dismissIssue shown.id.encode user).perform groups j.center).Dismisses j.center
        shown.id ∧
      ∀ va ∈ shown.actions, va.id.Fits → ¬ (va.resolves = true ∧ va.inFlight = true) →
        ((Operation.executeAction shown.id.encode va.id.encode user).perform groups
          j.center).Executes j.center va := by
  have sound := reachable.chronicled.sound
  obtain ⟨active, g, acts, inside⟩ := Center.viewOf_of_shown shows member
  have source := reachable.source_of_shown own active inside
  refine ⟨Center.dismisses_of_shown sound active acts inside source fits, ?_⟩
  intro va listed fitsAction ready
  exact Center.executes_of_shown sound active acts inside listed source fitsAction ready

/-- An issue was reported with a resolving action. It can be dismissed, and its action executed. -/
theorem shown_can_be_acted_on_of_report :
    let groups : Resolver := fun u => some (.single u)
    let fix : Action := { key := "fix", label := "Fix", resolves := true, target := "lock/fix" }
    let weak : Issue := { key := "weak", severity := .recommendation, actions := [fix] }
    let report : Report := { session := "first", issues := [weak] }
    let id : ActionId := ⟨⟨⟨"lock"⟩, ⟨1⟩, "weak", "", "first"⟩, "fix"⟩
    let started := enter { center := {} } groups
      (.start (Catalogue.checked ⟨[{ id := ⟨"lock"⟩ }]⟩))
    let reported := started.enter groups
      (.submitReport ⟨"lock"⟩ (some report) ⟨.deviceRebooted, none⟩ ⟨1⟩)
    ((Operation.dismissIssue id.issue.encode ⟨1⟩).perform groups reported.center).Dismisses
        reported.center id.issue ∧
      ((Operation.executeAction id.issue.encode id.encode ⟨1⟩).perform groups
        reported.center).Executes reported.center ⟨id, "Fix", true, false⟩ := by
  intro groups fix weak report id started reported
  let va := reported.center.ledger.showAction id.issue fix
  let shown := reported.center.ledger.showIssue id.issue weak
  have reachable : reported.Reachable :=
    ((Reachable.built true).step (.enter _ groups (.start _))).step
      (.enter _ groups (.submitReport _ _ _ _))
  have own : ∀ v ∈ reported.visits, v.op.LoadsOwn := by
    rw [visits_enter, visits_enter]
    simp [visits, Operation.LoadsOwn, Catalogue.OwnLoad.catalogue]
  have shows : (reported.center.showView groups ⟨1⟩).answer =
      .ok (.view (reported.center.viewOf (.single ⟨1⟩))) := rfl
  have member : shown ∈ (reported.center.viewOf (.single ⟨1⟩)).issues := by decide
  have listed : va ∈ shown.actions := by decide
  have fits : va.id.Fits := ⟨⟨by decide, by decide, by decide, by decide⟩, by decide⟩
  have ready : ¬ (va.resolves = true ∧ va.inFlight = true) := by decide
  have same : va = ⟨id, "Fix", true, false⟩ := by decide
  obtain ⟨dismisses, executes⟩ := shown_can_be_acted_on reachable own shows member fits.issue
  rw [← same]
  exact ⟨dismisses, executes va listed fits ready⟩

end Journal

end SafetyCenter
