import SafetyCenter.Center.Operation
import SafetyCenter.Center.Call
import SafetyCenter.Proofs.Ledger.Cases
import SafetyCenter.Proofs.Ledger.Run

set_option autoImplicit false

namespace SafetyCenter

/-- The group that a caller acts for, while the center is active. -/
def Center.admitted? (s : Center) (groups : Resolver) (caller : UserId) : Option ProfileGroup :=
  if s.isActive then groups caller else none

def Center.admits (s : Center) (groups : Resolver) (caller target : UserId) : Bool :=
  (s.admitted? groups caller).any fun g => target ∈ g

theorem Center.admits_iff {s : Center} {groups : Resolver} {caller target : UserId} :
    s.admits groups caller target = true ↔
      s.isActive = true ∧ ∃ g, groups caller = some g ∧ target ∈ g := by
  simp only [admits, admitted?, Option.any_eq_true, decide_eq_true_eq]
  cases s.isActive <;> simp

namespace Operation

def dismissal? (text : String) : Option IssueId :=
  (IssueId.decode text).toOption

def execution? (issueText actionText : String) : Option ActionId :=
  (IssueId.decode issueText).toOption.bind fun issue =>
    (ActionId.decode actionText).toOption.filter (·.issue = issue)

/-- What an operation asks of the ledger, if it gets as far as that. -/
def onLedger? (groups : Resolver) (s : Center) : Operation → Option Ledger.Operation
  | .submitReport source report _ user =>
    (s.admitted? groups user).map fun g => .submit s.catalogue g ⟨source, user⟩ report
  | .reportFailure source event user =>
    (s.admitted? groups user).map fun g => .reportFailure s.catalogue g ⟨source, user⟩ event
  | .dismissIssue text user =>
    ((dismissal? text).filter fun id => s.admits groups user id.user).map .dismiss
  | .executeAction issueText actionText user =>
    ((execution? issueText actionText).filter fun id => s.admits groups user id.issue.user).map
      .launch
  | .forgetReports => some .clear
  | .overrideCatalogue c =>
    if c.fault? = none ∧ s.declarations.isLoaded = true then some .clear else none
  | .resetCatalogue => if s.declarations.isLoaded = true then some .clear else none
  | .followToggle value => if s.enabled = true ∧ value = false then some .clear else none
  | .applyInitial value => if value = false then some .clear else none
  | _ => none

section OnLedger

variable {groups : Resolver} {s : Center} {op : Operation}

/-- What launches an action is an execution of it by a caller who is admitted for the issue's
user. -/
theorem onLedger?_eq_launch_iff {id : ActionId} :
    op.onLedger? groups s = some (.launch id) ↔
      ∃ issueText actionText user, op = .executeAction issueText actionText user ∧
        execution? issueText actionText = some id ∧
        s.admits groups user id.issue.user = true := by
  constructor
  · intro asked
    cases op with
    | executeAction issueText actionText user =>
      obtain ⟨id', found, same⟩ := Option.map_eq_some_iff.mp asked
      cases same
      obtain ⟨read, admitted⟩ := Option.filter_eq_some_iff.mp found
      exact ⟨issueText, actionText, user, rfl, read, admitted⟩
    | _ => simp [onLedger?] at asked
  · intro given
    obtain ⟨issueText, actionText, user, rfl, read, admitted⟩ := given
    simp [onLedger?, read, Option.filter, admitted]

/-- What dismisses an issue is a dismissal of it by a caller who is admitted for its user. -/
theorem onLedger?_eq_dismiss_iff {id : IssueId} :
    op.onLedger? groups s = some (.dismiss id) ↔
      ∃ text user, op = .dismissIssue text user ∧ dismissal? text = some id ∧
        s.admits groups user id.user = true := by
  constructor
  · intro asked
    cases op with
    | dismissIssue text user =>
      obtain ⟨id', found, same⟩ := Option.map_eq_some_iff.mp asked
      cases same
      obtain ⟨read, admitted⟩ := Option.filter_eq_some_iff.mp found
      exact ⟨text, user, rfl, read, admitted⟩
    | _ => simp [onLedger?] at asked
  · intro given
    obtain ⟨text, user, rfl, read, admitted⟩ := given
    simp [onLedger?, read, Option.filter, admitted]

/-- What brings a report to a place is a source's own submission there, by a caller who is
admitted. -/
theorem onLedger?_eq_submit_iff {c : Catalogue} {g : ProfileGroup} {place : Slot}
    {report : Option Report} :
    op.onLedger? groups s = some (.submit c g place report) ↔
      ∃ event, op = .submitReport place.source report event place.user ∧ c = s.catalogue ∧
        s.admitted? groups place.user = some g := by
  constructor
  · intro asked
    cases op with
    | submitReport source report' event user =>
      obtain ⟨g', found, same⟩ := Option.map_eq_some_iff.mp asked
      cases same
      exact ⟨event, rfl, rfl, found⟩
    | _ => simp [onLedger?] at asked
  · intro given
    obtain ⟨event, rfl, rfl, found⟩ := given
    simp [onLedger?, found]

end OnLedger

end Operation

def Stage.dispatches : Stage → List Call
  | .deliver .. => []
  | .dispatch target user kind => [.dispatch target user kind]
  | .round _ => []

@[simp] theorem Stage.dispatches_dispatch (target : String) (user : UserId) (kind : CallKind) :
    (Stage.dispatch target user kind).dispatches = [.dispatch target user kind] := rfl

/-- What an operation on a ledger is to hand to the dispatch sink. -/
def Ledger.due (l : Ledger) : Ledger.Operation → List Call
  | .dismiss id =>
    ((l.issue? id).bind (·.onDismiss)).toList.map fun target => .dispatch target id.user .dismiss
  | .launch id =>
    (l.action? id).toList.map fun a => .dispatch a.target id.issue.user .action
  | _ => []

/-- An outcome is that of what was asked of the ledger. -/
structure Outcome.Follows (s : Center) (asked : Option Ledger.Operation) (o : Outcome) : Prop where
  ledger : o.center.ledger = s.ledger.run asked.toList
  metrics : o.center.metrics = s.metrics.recordAll (s.ledger.activities asked.toList)
  dispatches : o.stages.flatMap (·.dispatches) = asked.toList.flatMap s.ledger.due

namespace Center

variable {groups : Resolver} {s : Center}

/-- A center that takes over what an operation on the ledger did. -/
theorem follows_perform {o : Outcome} {ask : Ledger.Operation}
    (ledger : o.center.ledger = (ask.perform s.ledger).ledger)
    (metrics : o.center.metrics = s.metrics.recordAll (ask.perform s.ledger).activity)
    (dispatches : o.stages.flatMap (·.dispatches) = s.ledger.due ask) :
    o.Follows s (some ask) where
  ledger := ledger
  metrics := by rw [metrics, Option.toList_some, Ledger.activities_singleton]
  dispatches := by rw [dispatches, Option.toList_some, List.flatMap_singleton]

theorem follows_refuse (s : Center) (e : Error) : (s.refuse e).Follows s none := ⟨rfl, rfl, rfl⟩

theorem follows_ignore (s : Center) (reply : Reply) : (s.ignore reply).Follows s none := ⟨rfl, rfl, rfl⟩

/-- An operation for a group asks nothing of the ledger unless its caller is admitted. -/
theorem follows_admitted {act : ProfileGroup → Outcome} {ask : ProfileGroup → Ledger.Operation}
    (user : UserId) (reply : Reply) (rest : ∀ g, (act g).Follows s (some (ask g))) :
    (s.forGroup groups user fun g => s.ifActive reply (act g)).Follows s
      ((s.admitted? groups user).map ask) := by
  unfold forGroup ifActive admitted?
  cases groups user with
  | none => simpa using follows_refuse s (.unknownUser user)
  | some g =>
    cases s.isActive with
    | false => exact follows_ignore s reply
    | true => exact rest g

/-- An operation for a user asks nothing of the ledger unless its caller is admitted for that
user. -/
theorem follows_owner {act : ProfileGroup → Outcome} {ask : Ledger.Operation}
    (caller target : UserId) (op : IssueOperation) (reply : Reply)
    (rest : ∀ g, (act g).Follows s (some ask)) :
    (s.forOwner groups caller target op fun g => s.ifActive reply (act g)).Follows s
      (if s.admits groups caller target = true then some ask else none) := by
  unfold forOwner forGroup ifActive admits admitted?
  cases groups caller with
  | none => simpa using follows_refuse s (.unknownUser caller)
  | some g =>
    by_cases member : target ∈ g
    · cases s.isActive with
      | false => simpa [member] using follows_ignore s reply
      | true => simpa [member] using rest g
    · -- a stranger is refused whether or not the center is active
      cases s.isActive with
      | false => simpa [member] using follows_refuse s (.crossProfileGroup op target caller)
      | true => simpa [member] using follows_refuse s (.crossProfileGroup op target caller)

theorem follows_submitReport (s : Center) (source : SourceId) (report : Option Report)
    (event : Event) (user : UserId) :
    (s.submitReport groups source report user).Follows s
      ((Operation.submitReport source report event user).onLedger? groups s) := by
  apply follows_admitted
  intro g
  dsimp only
  split
  · exact follows_perform rfl rfl rfl
  · exact follows_perform rfl rfl rfl
  · exact follows_perform rfl rfl rfl

theorem follows_storedReport (s : Center) (source : SourceId) (user : UserId) :
    (s.storedReport source user).Follows s none := by
  refine ifActive_cases (fun _ => follows_ignore s _) fun _ => ?_
  split
  · exact follows_refuse s _
  · exact follows_ignore s _

theorem follows_reportFailure (s : Center) (source : SourceId) (event : Event) (user : UserId) :
    (s.reportFailure groups source event user).Follows s
      ((Operation.reportFailure source event user).onLedger? groups s) := by
  apply follows_admitted
  intro g
  dsimp only
  split
  · exact follows_perform rfl rfl rfl
  · split
    · exact follows_perform rfl rfl rfl
    · exact follows_perform rfl rfl rfl

theorem follows_subscribe (s : Center) (observer : Observer) (user : UserId) :
    (s.subscribe groups observer user).Follows s none := by
  refine forGroup_cases (follows_refuse s _) fun g _ => ?_
  refine ifActive_cases (fun _ => follows_ignore s _) fun _ => ?_
  split
  · exact follows_ignore s _
  · exact ⟨rfl, rfl, rfl⟩

theorem follows_showCatalogue (s : Center) : s.showCatalogue.Follows s none := by
  unfold showCatalogue
  split
  · exact follows_ignore s _
  · exact follows_refuse s _

@[simp] theorem dispatches_deliveryFor (s : Center) (g : ProfileGroup) (error : Option String) :
    (s.deliveryFor g error).dispatches = [] := rfl

theorem dispatches_dismissalDispatch (issue : Option Issue) (user : UserId) :
    (dismissalDispatch issue user).flatMap (·.dispatches) =
      (issue.bind (·.onDismiss)).toList.map fun target => .dispatch target user .dismiss := by
  unfold dismissalDispatch
  cases issue.bind (·.onDismiss) with
  | none => rfl
  | some target => rfl

theorem follows_dismissIssue (s : Center) (text : String) (user : UserId) :
    (s.dismissIssue groups text user).Follows s
      ((Operation.dismissIssue text user).onLedger? groups s) := by
  simp only [dismissIssue, Operation.onLedger?, Operation.dismissal?]
  cases IssueId.decode text with
  | error fault => exact follows_refuse s _
  | ok id =>
    simp only [Except.toOption, Option.filter_some, Option.map_if]
    apply follows_owner
    intro g
    cases there : s.ledger.issue? id with
    | none =>
      have missing := Ledger.dismiss_of_missing there
      refine follows_perform ?_ ?_ ?_
      · simp [Ledger.Operation.perform, missing, ignore, withLedger]
      · simp [Ledger.Operation.perform, missing, ignore, withLedger]
      · simp [Ledger.due, there, missing, ignore]
    | some i =>
      have found := Ledger.dismiss_of_found there
      refine follows_perform ?_ ?_ ?_
      · simp [Ledger.Operation.perform, found, withLedger]
      · simp [Ledger.Operation.perform, found, withLedger]
      · simp [Ledger.due, there, found, dispatches_dismissalDispatch]

theorem follows_executeAction (s : Center) (issueText actionText : String) (user : UserId) :
    (s.executeAction groups issueText actionText user).Follows s
      ((Operation.executeAction issueText actionText user).onLedger? groups s) := by
  simp only [executeAction, Operation.onLedger?, Operation.execution?]
  cases IssueId.decode issueText with
  | error fault => exact follows_refuse s _
  | ok issue =>
    cases ActionId.decode actionText with
    | error fault => exact follows_refuse s _
    | ok id =>
      simp only [Except.toOption, Option.bind_some, Option.filter_some, decide_eq_true_eq]
      by_cases matching : id.issue = issue
      · subst matching
        simp only [ne_eq, not_true_eq_false, ↓reduceIte, Option.filter_some, Option.map_if]
        apply follows_owner
        intro g
        cases there : s.ledger.action? id with
        | none =>
          have missing : s.ledger.launch id = { ledger := s.ledger, answer := false } :=
            Ledger.launch_of_missing (by simp [there])
          refine follows_perform ?_ ?_ ?_
          · simp [Ledger.Operation.perform, missing, ignore]
          · simp [Ledger.Operation.perform, missing, ignore]
          · simp [Ledger.due, there, ignore]
        | some a =>
          refine follows_perform rfl rfl ?_
          dsimp only
          split
          · simp [Ledger.due, there]
          · simp [Ledger.due, there]
      · simp only [ne_eq, matching, not_false_eq_true, ↓reduceIte]
        exact follows_refuse s _

theorem follows_changeCatalogue (s : Center) (replacement : Option Catalogue) :
    (s.changeCatalogue replacement).Follows s
      (if s.declarations.isLoaded = true then some .clear else none) := by
  unfold changeCatalogue Declarations.replace
  cases s.declarations with
  | pending => exact follows_refuse s _
  | failed => exact follows_refuse s _
  | loaded base current => exact ⟨rfl, rfl, rfl⟩

theorem follows_overrideCatalogue (s : Center) (c : Catalogue) :
    (s.overrideCatalogue c).Follows s ((Operation.overrideCatalogue c).onLedger? groups s) := by
  simp only [overrideCatalogue, Catalogue.checked, Operation.onLedger?]
  cases c.fault? with
  | some e => simpa using follows_refuse s e
  | none => simpa using follows_changeCatalogue s (some c)

theorem follows_followToggle (s : Center) (value : Bool) :
    (s.followToggle value).Follows s ((Operation.followToggle value).onLedger? groups s) := by
  simp only [followToggle, Operation.onLedger?]
  cases on : s.enabled with
  | false =>
    cases value with
    | false => exact follows_ignore s _
    | true => exact ⟨rfl, rfl, rfl⟩
  | true =>
    cases value with
    | false => exact ⟨rfl, rfl, rfl⟩
    | true => exact follows_ignore s _

theorem follows_applyInitial (s : Center) (value : Bool) :
    (s.applyInitial value).Follows s ((Operation.applyInitial value).onLedger? groups s) := by
  cases value with
  | false => exact ⟨rfl, rfl, rfl⟩
  | true => exact ⟨rfl, rfl, rfl⟩

end Center

namespace Operation

variable {groups : Resolver}

/-- What an operation does to the ledger, and what it hands to the dispatch sink, is what it asks of
the ledger. -/
theorem perform_follows (s : Center) (op : Operation) :
    (op.perform groups s).Follows s (op.onLedger? groups s) := by
  cases op with
  | submitReport source report event user => exact s.follows_submitReport source report event user
  | reportFailure source event user => exact s.follows_reportFailure source event user
  | dismissIssue issue user => exact s.follows_dismissIssue issue user
  | executeAction issue action user => exact s.follows_executeAction issue action user
  | overrideCatalogue c => exact s.follows_overrideCatalogue c
  | resetCatalogue => exact s.follows_changeCatalogue none
  | followToggle value => exact s.follows_followToggle value
  | applyInitial value => exact s.follows_applyInitial value
  | storedReport source user => exact s.follows_storedReport source user
  | requestRefresh reason user =>
    refine Center.forGroup_cases (s.follows_refuse _) fun g _ => ?_
    exact Center.ifActive_cases (fun _ => s.follows_ignore _) fun _ => ⟨rfl, rfl, rfl⟩
  | showView user =>
    refine Center.forGroup_cases (s.follows_refuse _) fun g _ => ?_
    exact Center.ifActive_cases (fun _ => s.follows_ignore _) fun _ => s.follows_ignore _
  | subscribe observer user => exact s.follows_subscribe observer user
  | showCatalogue => exact s.follows_showCatalogue
  | start _ | unsubscribe _ _ | forgetReports | isActive => exact ⟨rfl, rfl, rfl⟩

end Operation

end SafetyCenter
