import SafetyCenter.Catalogue
import SafetyCenter.Id.Code
import SafetyCenter.Ledger.View
import SafetyCenter.Metrics
import SafetyCenter.Settings
import SafetyCenter.Subscriptions

/-!
The safety center: sources report to it, observers are shown the merged view, users dismiss issues
and run actions. An operation has one critical section, which reads and changes the center at once,
and a tail of calls to collaborators, made after it. The critical section is a function from the
center to an `Outcome`: the center after it, the answer, and the tail as a list of stages.
-/

namespace SafetyCenter

/-- All that the operations share. -/
structure Center where
  /-- the feature toggle -/
  enabled : Bool := true
  declarations : Declarations := .pending
  ledger : Ledger := ∅
  subscriptions : Subscriptions := ∅
  metrics : Metrics := {}
  deriving DecidableEq, Inhabited

/-- A round of calls to sources, one after the other. Only one round is under way at a time. -/
inductive Round where
  /-- asks for a new report from each pair of a source and a user -/
  | refresh (reason : RefreshReason) (targets : List (SourceId × UserId))
  /-- tells each source whether the center is enabled -/
  | announce (enabled : Bool) (sources : List SourceId)
  deriving Repr, DecidableEq

/-- A step in the tail of an operation. -/
inductive Stage where
  /-- shows a view to all observers at once -/
  | deliver (view : View) (error : Option String) (observers : List Observer)
  /-- hands a target to the dispatch sink -/
  | dispatch (target : String) (user : UserId) (kind : CallKind)
  | round (round : Round)
  deriving Repr, DecidableEq

/-- What an operation answers when it was not refused. -/
inductive Reply where
  | done
  | flag (value : Bool)
  | report (report : Option Report)
  | view (view : View)
  | catalogue (catalogue : Catalogue)
  /-- the id of the refresh round that the operation runs -/
  | refreshId
  /-- no refresh round -/
  | noRefresh
  deriving Repr, DecidableEq

/-- The result of a critical section. -/
structure Outcome where
  center : Center
  answer : Except Error Reply
  stages : List Stage := []

namespace Center

/-- The toggle is on and a catalogue is there. -/
def isActive (s : Center) : Bool :=
  s.enabled && s.declarations.isLoaded

def catalogue (s : Center) : Catalogue :=
  s.declarations.current

/-- Takes over the result of an operation on the ledger. -/
def withLedger {α : Type} (s : Center) (change : Ledger.Change α) : Center :=
  { s with ledger := change.ledger, metrics := s.metrics.recordAll change.activity }

def viewOf (s : Center) (g : ProfileGroup) : View :=
  s.ledger.view s.catalogue g

/-- Shows the view as it is now to all observers of a group. -/
def deliveryFor (s : Center) (g : ProfileGroup) (error : Option String) : Stage :=
  .deliver (s.viewOf g) error (s.subscriptions.ofGroup g)

def refuse (s : Center) (e : Error) : Outcome :=
  { center := s, answer := .error e }

def ignore (s : Center) (reply : Reply) : Outcome :=
  { center := s, answer := .ok reply }

/-- Runs the rest of an operation for the group of a user. -/
def forGroup (s : Center) (groups : Resolver) (user : UserId) (act : ProfileGroup → Outcome) :
    Outcome :=
  match groups user with
  | none => s.refuse (.unknownUser user)
  | some g => act g

/-- Runs the rest of an operation for the group of a caller if a target user belongs to it. -/
def forOwner (s : Center) (groups : Resolver) (caller target : UserId) (op : IssueOperation)
    (act : ProfileGroup → Outcome) : Outcome :=
  s.forGroup groups caller fun g =>
    if target ∈ g then act g else s.refuse (.crossProfileGroup op target caller)

def ifActive (s : Center) (reply : Reply) (act : Outcome) : Outcome :=
  if s.isActive then act else s.ignore reply

/-- What holds of the refusal of an unknown user, and of the rest for the user's group, holds of the
whole. -/
theorem forGroup_cases {s : Center} {groups : Resolver} {user : UserId}
    {act : ProfileGroup → Outcome} {P : Outcome → Prop}
    (unknown : P (s.refuse (.unknownUser user)))
    (rest : ∀ g, groups user = some g → P (act g)) : P (s.forGroup groups user act) := by
  unfold forGroup
  split
  · exact unknown
  · rename_i g found
    exact rest g found

theorem forOwner_cases {s : Center} {groups : Resolver} {caller target : UserId}
    {op : IssueOperation} {act : ProfileGroup → Outcome} {P : Outcome → Prop}
    (unknown : P (s.refuse (.unknownUser caller)))
    (stranger : P (s.refuse (.crossProfileGroup op target caller)))
    (rest : ∀ g, groups caller = some g → target ∈ g → P (act g)) :
    P (s.forOwner groups caller target op act) := by
  unfold forOwner
  apply forGroup_cases unknown
  intro g found
  split
  · rename_i owned
    exact rest g found owned
  · exact stranger

/-- What holds of an inactive center that is left as it is, and of the rest on an active one, holds
of the whole. -/
theorem ifActive_cases {s : Center} {reply : Reply} {act : Outcome} {P : Outcome → Prop}
    (idle : s.isActive = false → P (s.ignore reply)) (rest : s.isActive = true → P act) :
    P (s.ifActive reply act) := by
  unfold ifActive
  split
  · rename_i active
    exact rest active
  · rename_i inactive
    exact idle (Bool.eq_false_iff.mpr inactive)

/-- Takes the outcome of loading the catalogue; only the first one counts. Answers whether a
catalogue is there. -/
def start (s : Center) (loaded : Except Error Catalogue) : Outcome :=
  let declarations := s.declarations.load loaded
  { center := { s with declarations }, answer := .ok (.flag declarations.isLoaded) }

/-- A source reports for a user. The group's observers are told if anything changed. -/
def submitReport (s : Center) (groups : Resolver) (source : SourceId) (report : Option Report)
    (user : UserId) : Outcome :=
  s.forGroup groups user fun g =>
    s.ifActive .done
      (let change := s.ledger.submit s.catalogue g ⟨source, user⟩ report
      let s := s.withLedger change
      match change.answer with
      | .error e => s.refuse e
      | .ok false => s.ignore .done
      | .ok true => { center := s, answer := .ok .done, stages := [s.deliveryFor g none] })

def storedReport (s : Center) (source : SourceId) (user : UserId) : Outcome :=
  s.ifActive (.report none)
    (match s.ledger.storedReport s.catalogue ⟨source, user⟩ with
    | .error e => s.refuse e
    | .ok report => s.ignore (.report report))

/-- A source fails for a user. The group's observers are told if it was not failing before, or if
the failure is one that users are told of. -/
def reportFailure (s : Center) (groups : Resolver) (source : SourceId) (event : Event)
    (user : UserId) : Outcome :=
  s.forGroup groups user fun g =>
    s.ifActive .done
      (let change := s.ledger.reportFailure s.catalogue g ⟨source, user⟩ event
      let s := s.withLedger change
      match change.answer with
      | .error e => s.refuse e
      | .ok note =>
        if note.changed || note.message.isSome then
          { center := s, answer := .ok .done, stages := [s.deliveryFor g note.message] }
        else
          s.ignore .done)

/-- The calls of a refresh: every reporting source and every user it covers. -/
def refreshTargets (c : Catalogue) (g : ProfileGroup) : List (SourceId × UserId) :=
  (c.reportingPairs g).map fun (source, user) => (source.id, user)

def requestRefresh (s : Center) (groups : Resolver) (reason : RefreshReason) (user : UserId) :
    Outcome :=
  s.forGroup groups user fun g =>
    s.ifActive .noRefresh
      { center := s, answer := .ok .refreshId
        stages := [.round (.refresh reason (refreshTargets s.catalogue g))] }

/-- The view of a user's group; nothing is shown while the center is not active. -/
def showView (s : Center) (groups : Resolver) (user : UserId) : Outcome :=
  s.forGroup groups user fun g => s.ifActive (.view {}) (s.ignore (.view (s.viewOf g)))

/-- Registers an observer for a user and shows it the view. -/
def subscribe (s : Center) (groups : Resolver) (observer : Observer) (user : UserId) : Outcome :=
  s.forGroup groups user fun g =>
    s.ifActive (.flag false)
      (if s.subscriptions.has observer user then s.ignore (.flag false)
      else
        let s := { s with subscriptions := s.subscriptions.add observer user }
        { center := s, answer := .ok (.flag true)
          stages := [.deliver (s.viewOf g) none [observer]] })

def unsubscribe (s : Center) (observer : Observer) (user : UserId) : Outcome :=
  { center := { s with subscriptions := s.subscriptions.remove observer user }
    answer := .ok (.flag (s.subscriptions.has observer user)) }

def dismissalDispatch (issue : Option Issue) (user : UserId) : List Stage :=
  match issue.bind (·.onDismiss) with
  | none => []
  | some target => [.dispatch target user .dismiss]

/-- Dismisses an issue. One that is not there is left alone. -/
def dismissIssue (s : Center) (groups : Resolver) (text : String) (user : UserId) : Outcome :=
  match IssueId.decode text with
  | .error fault => s.refuse (.malformedId .issue fault.message)
  | .ok id =>
    s.forOwner groups user id.user .dismiss fun g =>
      s.ifActive .done
        (let issue := s.ledger.issue? id
        let change := s.ledger.dismiss id
        let s := s.withLedger change
        if change.answer then
          { center := s, answer := .ok .done
            stages := s.deliveryFor g none :: dismissalDispatch issue id.user }
        else
          s.ignore .done)

/-- Runs an action. A resolving one is marked as in flight first, and the group's observers are told;
then the target goes to the dispatch sink. An action that is not there, or is in flight already, is
left alone. -/
def executeAction (s : Center) (groups : Resolver) (issueText actionText : String)
    (user : UserId) : Outcome :=
  match IssueId.decode issueText with
  | .error fault => s.refuse (.malformedId .issue fault.message)
  | .ok issue =>
    match ActionId.decode actionText with
    | .error fault => s.refuse (.malformedId .action fault.message)
    | .ok id =>
      if id.issue ≠ issue then s.refuse (.idMismatch issueText actionText)
      else
        s.forOwner groups user issue.user .execute fun g =>
          s.ifActive .done
            (match s.ledger.action? id with
            | none => s.ignore .done
            | some a =>
              let dispatch := Stage.dispatch a.target issue.user .action
              let change := s.ledger.launch id
              let s := s.withLedger change
              { center := s, answer := .ok .done
                stages := if change.answer then [s.deliveryFor g none, dispatch] else [dispatch] })

def showCatalogue (s : Center) : Outcome :=
  if s.declarations.isLoaded then s.ignore (.catalogue s.catalogue)
  else s.refuse Declarations.notLoaded

def forgetReports (s : Center) : Outcome :=
  { center := s.withLedger s.ledger.clear, answer := .ok .done }

/-- Puts a catalogue in the place of the loaded one, or goes back to the loaded one. What was
reported under the catalogue before is forgotten. -/
def changeCatalogue (s : Center) (replacement : Option Catalogue) : Outcome :=
  match s.declarations.replace replacement with
  | .error e => s.refuse e
  | .ok declarations =>
    { center := { s.withLedger s.ledger.clear with declarations }, answer := .ok .done }

/-- Puts a catalogue without faults in the place of the loaded one. -/
def overrideCatalogue (s : Center) (c : Catalogue) : Outcome :=
  match c.checked with
  | .error e => s.refuse e
  | .ok c => s.changeCatalogue (some c)

def resetCatalogue (s : Center) : Outcome :=
  s.changeCatalogue none

/-- Sets the toggle. Turning it off forgets all reports and ends all registrations. -/
def setEnabled (s : Center) (value : Bool) : Center :=
  if value then { s with enabled := true }
  else { s.withLedger s.ledger.clear with enabled := false, subscriptions := ∅ }

def announcement (s : Center) (value : Bool) : Stage :=
  .round (.announce value (s.catalogue.sources.map (·.id)))

/-- Follows the toggle. Sources are told if its value is new. -/
def followToggle (s : Center) (value : Bool) : Outcome :=
  if s.enabled = value then s.ignore (.flag false)
  else
    { center := s.setEnabled value, answer := .ok (.flag true)
      stages := [s.announcement value] }

/-- Takes the toggle's first value. Sources are told whatever it is. -/
def applyInitial (s : Center) (value : Bool) : Outcome :=
  { center := s.setEnabled value, answer := .ok .done, stages := [s.announcement value] }

end Center

end SafetyCenter
