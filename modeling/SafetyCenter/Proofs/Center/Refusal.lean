import SafetyCenter.Center.Operation
import SafetyCenter.Proofs.Ledger.Cases

set_option autoImplicit false

namespace SafetyCenter

def Error.isRefusal : Error → Bool
  | .unknownUser _ => true
  | .unknownSource _ | .staticSource _ | .sourceOutOfScope _ _ | .invalidReport _ _ => true
  | .malformedId _ _ | .idMismatch _ _ | .crossProfileGroup _ _ _ => true
  | .noSources | .emptySourceId | .duplicateSourceId _ => true
  | .unavailable _ => true
  | _ => false

/-- An outcome that is an error comes to nothing at all. -/
def Outcome.AllOrNothing (s : Center) (o : Outcome) : Prop :=
  ∀ e, o.answer = .error e → o.center = s ∧ o.stages = [] ∧ e.isRefusal = true

namespace Ledger

theorem isRefusal_of_refusal? {c : Catalogue} {g : ProfileGroup} {place : Slot} {e : Error}
    (refused : refusal? c g place = some e) : e.isRefusal = true := by
  unfold refusal? at refused
  split at refused
  · cases refused
    rfl
  · split at refused
    · cases refused
      rfl
    · split at refused
      · cases refused
      · cases refused
        rfl

theorem isRefusal_of_rejection? {c : Catalogue} {g : ProfileGroup} {place : Slot}
    {report : Option Report} {e : Error} (rejected : rejection? c g place report = some e) :
    e.isRefusal = true := by
  unfold rejection? at rejected
  split at rejected
  · rename_i e' refused
    cases rejected
    exact isRefusal_of_refusal? refused
  · obtain ⟨defect, -, rfl⟩ := Option.map_eq_some_iff.mp rejected
    rfl

/-- A report that is answered with an error changes nothing and counts for nothing. -/
theorem submit_of_error {l : Ledger} {c : Catalogue} {g : ProfileGroup} {place : Slot}
    {report : Option Report} {e : Error} (refused : (l.submit c g place report).answer = .error e) :
    l.submit c g place report = { ledger := l, answer := .error e } ∧ e.isRefusal = true :=
  have rejected := (submit_error_iff l).mp refused
  ⟨submit_of_rejection l rejected, isRefusal_of_rejection? rejected⟩

/-- A failure that is answered with an error changes nothing and counts for nothing. -/
theorem reportFailure_of_error {l : Ledger} {c : Catalogue} {g : ProfileGroup} {place : Slot}
    {event : Event} {e : Error} (refused : (l.reportFailure c g place event).answer = .error e) :
    l.reportFailure c g place event = { ledger := l, answer := .error e } ∧
      e.isRefusal = true := by
  cases verdict : refusal? c g place with
  | some e' =>
    rw [reportFailure_of_refusal l verdict] at refused ⊢
    cases refused
    exact ⟨rfl, isRefusal_of_refusal? verdict⟩
  | none =>
    rw [reportFailure_of_allowed l verdict] at refused
    cases refused

end Ledger

theorem Catalogue.isRefusal_of_sourceFault? {seen : List SourceId} {sources : List Source}
    {e : Error} (faulty : sourceFault? seen sources = some e) : e.isRefusal = true := by
  induction sources generalizing seen with
  | nil => cases faulty
  | cons s ss ih =>
    unfold sourceFault? at faulty
    split at faulty
    · cases faulty
      rfl
    · split at faulty
      · cases faulty
        rfl
      · exact ih faulty

theorem Catalogue.isRefusal_of_checked {c : Catalogue} {e : Error}
    (faulty : c.checked = .error e) : e.isRefusal = true := by
  unfold checked at faulty
  split at faulty
  · rename_i e' found
    cases faulty
    unfold fault? at found
    split at found
    · cases found
      rfl
    · exact isRefusal_of_sourceFault? found
  · cases faulty

namespace Center

variable {groups : Resolver} {s : Center}

theorem allOrNothing_refuse (s : Center) {e : Error} (refusal : e.isRefusal = true) :
    (s.refuse e).AllOrNothing s := by
  intro e' same
  cases same
  exact ⟨rfl, rfl, refusal⟩

theorem allOrNothing_of_ok {o : Outcome} {reply : Reply} (accepted : o.answer = .ok reply) :
    o.AllOrNothing s := by
  intro e refused
  rw [accepted] at refused
  cases refused

theorem allOrNothing_submitReport (s : Center) (source : SourceId) (report : Option Report)
    (user : UserId) : (s.submitReport groups source report user).AllOrNothing s := by
  refine forGroup_cases (allOrNothing_refuse s rfl) fun g _ => ?_
  refine ifActive_cases (fun _ => allOrNothing_of_ok rfl) fun _ => ?_
  dsimp only
  split
  · rename_i e refused
    obtain ⟨nothing, refusal⟩ := Ledger.submit_of_error refused
    rw [nothing]
    exact allOrNothing_refuse s refusal
  · exact allOrNothing_of_ok rfl
  · exact allOrNothing_of_ok rfl

theorem allOrNothing_storedReport (s : Center) (source : SourceId) (user : UserId) :
    (s.storedReport source user).AllOrNothing s := by
  refine ifActive_cases (fun _ => allOrNothing_of_ok rfl) fun _ => ?_
  split
  · rename_i e refused
    unfold Ledger.storedReport at refused
    split at refused
    · cases refused
      exact allOrNothing_refuse s rfl
    · cases refused
  · exact allOrNothing_of_ok rfl

theorem allOrNothing_reportFailure (s : Center) (source : SourceId) (event : Event)
    (user : UserId) : (s.reportFailure groups source event user).AllOrNothing s := by
  refine forGroup_cases (allOrNothing_refuse s rfl) fun g _ => ?_
  refine ifActive_cases (fun _ => allOrNothing_of_ok rfl) fun _ => ?_
  dsimp only
  split
  · rename_i e refused
    obtain ⟨nothing, refusal⟩ := Ledger.reportFailure_of_error refused
    rw [nothing]
    exact allOrNothing_refuse s refusal
  · split
    · exact allOrNothing_of_ok rfl
    · exact allOrNothing_of_ok rfl

theorem allOrNothing_subscribe (s : Center) (observer : Observer) (user : UserId) :
    (s.subscribe groups observer user).AllOrNothing s := by
  refine forGroup_cases (allOrNothing_refuse s rfl) fun g _ => ?_
  refine ifActive_cases (fun _ => allOrNothing_of_ok rfl) fun _ => ?_
  split
  · exact allOrNothing_of_ok rfl
  · exact allOrNothing_of_ok rfl

theorem allOrNothing_dismissIssue (s : Center) (text : String) (user : UserId) :
    (s.dismissIssue groups text user).AllOrNothing s := by
  unfold dismissIssue
  split
  · exact allOrNothing_refuse s rfl
  · refine forOwner_cases (allOrNothing_refuse s rfl) (allOrNothing_refuse s rfl) fun g _ _ => ?_
    refine ifActive_cases (fun _ => allOrNothing_of_ok rfl) fun _ => ?_
    dsimp only
    split
    · exact allOrNothing_of_ok rfl
    · exact allOrNothing_of_ok rfl

theorem allOrNothing_executeAction (s : Center) (issueText actionText : String) (user : UserId) :
    (s.executeAction groups issueText actionText user).AllOrNothing s := by
  unfold executeAction
  split
  · exact allOrNothing_refuse s rfl
  · split
    · exact allOrNothing_refuse s rfl
    · split
      · exact allOrNothing_refuse s rfl
      · refine forOwner_cases (allOrNothing_refuse s rfl) (allOrNothing_refuse s rfl) fun g _ _ => ?_
        refine ifActive_cases (fun _ => allOrNothing_of_ok rfl) fun _ => ?_
        split
        · exact allOrNothing_of_ok rfl
        · exact allOrNothing_of_ok rfl

theorem allOrNothing_showCatalogue (s : Center) : s.showCatalogue.AllOrNothing s := by
  unfold showCatalogue
  split
  · exact allOrNothing_of_ok rfl
  · exact allOrNothing_refuse s rfl

theorem allOrNothing_changeCatalogue (s : Center) (replacement : Option Catalogue) :
    (s.changeCatalogue replacement).AllOrNothing s := by
  unfold changeCatalogue
  split
  · rename_i e refused
    rw [(Declarations.replace_eq_error_iff.mp refused).2]
    exact allOrNothing_refuse s rfl
  · exact allOrNothing_of_ok rfl

theorem allOrNothing_overrideCatalogue (s : Center) (c : Catalogue) :
    (s.overrideCatalogue c).AllOrNothing s := by
  unfold overrideCatalogue
  split
  · rename_i e faulty
    exact allOrNothing_refuse s (Catalogue.isRefusal_of_checked faulty)
  · exact allOrNothing_changeCatalogue s _

theorem allOrNothing_followToggle (s : Center) (value : Bool) :
    (s.followToggle value).AllOrNothing s := by
  unfold followToggle
  split
  · exact allOrNothing_of_ok rfl
  · exact allOrNothing_of_ok rfl

end Center

namespace Operation

variable {groups : Resolver}

/-- Whatever operation is answered with an error, the reports, failures, dismissals and marks, the
registrations, the declarations, the toggle and the counters are what they were, and nobody is
called. -/
theorem perform_of_error (s : Center) (op : Operation) {e : Error}
    (refused : (op.perform groups s).answer = .error e) :
    (op.perform groups s).center = s ∧ (op.perform groups s).stages = [] ∧
      e.isRefusal = true := by
  suffices all : (op.perform groups s).AllOrNothing s from all e refused
  cases op with
  | start loaded => exact Center.allOrNothing_of_ok rfl
  | submitReport source report event user => exact s.allOrNothing_submitReport source report user
  | storedReport source user => exact s.allOrNothing_storedReport source user
  | reportFailure source event user => exact s.allOrNothing_reportFailure source event user
  | requestRefresh reason user =>
    refine Center.forGroup_cases (s.allOrNothing_refuse rfl) fun g _ => ?_
    exact Center.ifActive_cases (fun _ => Center.allOrNothing_of_ok rfl)
      fun _ => Center.allOrNothing_of_ok rfl
  | showView user =>
    refine Center.forGroup_cases (s.allOrNothing_refuse rfl) fun g _ => ?_
    exact Center.ifActive_cases (fun _ => Center.allOrNothing_of_ok rfl)
      fun _ => Center.allOrNothing_of_ok rfl
  | subscribe observer user => exact s.allOrNothing_subscribe observer user
  | unsubscribe observer user => exact Center.allOrNothing_of_ok rfl
  | dismissIssue issue user => exact s.allOrNothing_dismissIssue issue user
  | executeAction issue action user => exact s.allOrNothing_executeAction issue action user
  | showCatalogue => exact s.allOrNothing_showCatalogue
  | overrideCatalogue c => exact s.allOrNothing_overrideCatalogue c
  | resetCatalogue => exact s.allOrNothing_changeCatalogue none
  | forgetReports => exact Center.allOrNothing_of_ok rfl
  | isActive => exact Center.allOrNothing_of_ok rfl
  | followToggle value => exact s.allOrNothing_followToggle value
  | applyInitial value => exact Center.allOrNothing_of_ok rfl

/-- A report is refused for its second issue, while the place fails and somebody is watching. -/
theorem perform_of_error_for_duplicate_key :
    let groups : Resolver := fun u => some (.single u)
    let weak : Issue := { key := "weak", severity := .recommendation }
    let started : Center := (Center.start {} (.ok ⟨[{ id := ⟨"lock"⟩ }]⟩)).center
    let watched := (started.subscribe groups ⟨"page"⟩ ⟨1⟩).center
    let first : Report := { session := "first", issues := [weak] }
    let reported := (watched.submitReport groups ⟨"lock"⟩ (some first) ⟨1⟩).center
    let s := (reported.reportFailure groups ⟨"lock"⟩ ⟨.deviceRebooted, none⟩ ⟨1⟩).center
    let op : Operation := .submitReport ⟨"lock"⟩
      (some { session := "second", issues := [weak, weak] }) ⟨.deviceRebooted, none⟩ ⟨1⟩
    let e : Error := .invalidReport ⟨"lock"⟩ "duplicate issue key weak"
    (op.perform groups s).answer = .error e ∧ (op.perform groups s).center = s ∧
      (op.perform groups s).stages = [] ∧ e.isRefusal = true := by
  intro groups weak started watched first reported s op e
  have refused : (op.perform groups s).answer = .error e := rfl
  exact ⟨refused, perform_of_error s op refused⟩

end Operation

end SafetyCenter
