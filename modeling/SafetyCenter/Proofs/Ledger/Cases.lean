import SafetyCenter.Proofs.Report.Validity
import SafetyCenter.Ledger

set_option autoImplicit false

namespace SafetyCenter.Ledger

variable {c : Catalogue} {g : ProfileGroup} {place : Slot} {report : Option Report} {event : Event}

/-- What is kept of a report: one that says nothing counts as none. -/
def kept (report : Option Report) : Option Report :=
  report.filter (!·.isEmpty)

theorem nonempty_of_kept {r : Report} (same : kept report = some r) :
    report = some r ∧ r.isEmpty = false := by
  simpa [kept, Option.filter_eq_some_iff] using same

/-- A report with issues is kept as it is. -/
theorem kept_of_member {r : Report} {i : Issue} (member : i ∈ r.issues) :
    kept (some r) = some r := by
  have speaks : r.isEmpty = false := by
    rw [Report.isEmpty, List.isEmpty_eq_false_iff.mpr (List.ne_nil_of_mem member), Bool.and_false]
  simp [kept, Option.filter, speaks]

theorem issues_of_isEmpty {r : Report} (empty : r.isEmpty = true) : r.issues = [] := by
  rw [Report.isEmpty, Bool.and_eq_true, List.isEmpty_iff] at empty
  exact empty.2

/-- A report that says nothing has no defect, so it makes no difference that it counts as none. -/
theorem bind_kept (report : Option Report) :
    (kept report).bind Report.defect? = report.bind Report.defect? := by
  cases report with
  | none => rfl
  | some r =>
    cases empty : r.isEmpty with
    | false => simp [kept, Option.filter, empty]
    | true =>
      have issues := issues_of_isEmpty empty
      simp [kept, Option.filter, empty, Report.defect?, issues, Report.issueDefect?]

/-- Why a report is turned down, if it is. The ledger has no say in it. -/
def rejection? (c : Catalogue) (g : ProfileGroup) (place : Slot) (report : Option Report) :
    Option Error :=
  match refusal? c g place with
  | some e => some e
  | none =>
    ((kept report).bind Report.defect?).map fun defect =>
      .invalidReport place.source defect.message

/-- A source that is not refused is declared, is not static and covers the user. -/
theorem refusal?_eq_none_iff :
    refusal? c g place = none ↔
      ∃ s, c.source? place.source = some s ∧ s.isStatic = false ∧ s.covers g place.user = true := by
  unfold refusal?
  cases declared : c.source? place.source with
  | none => simp
  | some s =>
    cases static : s.isStatic with
    | true => simp [static]
    | false => simp [static]

def calm (l : Ledger) (place : Slot) : Ledger :=
  { l with failing := l.failing.erase place }

/-- A report takes the place of the stored one, and markers without meaning are dropped. -/
def replace (l : Ledger) (place : Slot) (report : Option Report) : Change Unit :=
  ((l.calm place).store place (kept report)).prune place

theorem submit_of_rejection (l : Ledger) {e : Error}
    (rejected : rejection? c g place report = some e) :
    l.submit c g place report = { ledger := l, answer := .error e } := by
  unfold rejection? at rejected
  cases verdict : refusal? c g place with
  | some e' =>
    simp only [verdict] at rejected
    cases rejected
    simp only [submit, verdict]
  | none =>
    simp only [verdict] at rejected
    obtain ⟨defect, found, same⟩ := Option.map_eq_some_iff.mp rejected
    simp only [submit, verdict]
    rw [← kept]
    simp only [found, same]

theorem faultless_of_accepted (accepted : rejection? c g place report = none) :
    refusal? c g place = none ∧ (kept report).bind Report.defect? = none := by
  unfold rejection? at accepted
  split at accepted
  · cases accepted
  · rename_i allowed
    exact ⟨allowed, Option.map_eq_none_iff.mp accepted⟩

theorem valid_of_accepted (accepted : rejection? c g place report = none) :
    ∀ r, kept report = some r → r.Valid := by
  intro r same
  have faultless := (faultless_of_accepted accepted).2
  rw [same, Option.bind_some] at faultless
  exact (Report.defect?_eq_none_iff r).mp faultless

theorem submit_of_same {l : Ledger} (accepted : rejection? c g place report = none)
    (same : l.report? place = kept report) :
    l.submit c g place report =
      { ledger := l.calm place, answer := .ok (decide (place ∈ l.failing))
        activity := [.reportAccepted place.source] } := by
  obtain ⟨allowed, faultless⟩ := faultless_of_accepted accepted
  unfold submit
  simp only [allowed]
  rw [← kept]
  simp only [faultless, same, if_pos]
  rfl

theorem submit_of_other {l : Ledger} (accepted : rejection? c g place report = none)
    (other : l.report? place ≠ kept report) :
    l.submit c g place report =
      { ledger := (l.replace place report).ledger, answer := .ok true
        activity := .reportAccepted place.source :: (l.replace place report).activity } := by
  obtain ⟨allowed, faultless⟩ := faultless_of_accepted accepted
  unfold submit
  simp only [allowed]
  rw [← kept]
  simp only [faultless, other, if_neg, not_false_eq_true]
  rfl

/-- A report is turned down for a reason, or it is answered whether it changed anything. -/
theorem submit_error_iff (l : Ledger) {e : Error} :
    (l.submit c g place report).answer = .error e ↔ rejection? c g place report = some e := by
  cases verdict : rejection? c g place report with
  | some found => simp [submit_of_rejection l verdict]
  | none =>
    by_cases same : l.report? place = kept report
    · simp [submit_of_same verdict same]
    · simp [submit_of_other verdict same]

theorem submit_ok_iff (l : Ledger) :
    (∃ changed, (l.submit c g place report).answer = .ok changed) ↔
      rejection? c g place report = none := by
  cases answered : (l.submit c g place report).answer with
  | error e => simp [(submit_error_iff l).mp answered]
  | ok changed =>
    have none_found : ∀ e, rejection? c g place report ≠ some e := by
      intro e found
      rw [(submit_error_iff l).mpr found] at answered
      cases answered
    simp [Option.eq_none_iff_forall_ne_some.mpr none_found]

theorem reportFailure_of_refusal (l : Ledger) {e : Error} (refused : refusal? c g place = some e) :
    l.reportFailure c g place event = { ledger := l, answer := .error e } := by
  simp only [reportFailure, refused]

theorem reportFailure_of_allowed (l : Ledger) (allowed : refusal? c g place = none) :
    l.reportFailure c g place event =
      { ledger := { l with failing := l.failing.insert place }
        answer := .ok ⟨decide (place ∉ l.failing), event.kind.failureMessage?⟩ } := by
  simp only [reportFailure, allowed]

theorem dismiss_of_missing {l : Ledger} {id : IssueId} (missing : l.issue? id = none) :
    l.dismiss id = { ledger := l, answer := false } := by
  simp only [dismiss, missing]

theorem dismiss_of_found {l : Ledger} {id : IssueId} {i : Issue} (found : l.issue? id = some i) :
    l.dismiss id =
      { ledger := { l with dismissed := l.dismissed.insert id }, answer := true
        activity := [.issueDismissed] } := by
  simp only [dismiss, found]

theorem missing_of_not {l : Ledger} {id : ActionId}
    (absent : ¬ ∃ a, l.action? id = some a ∧ a.resolves = true) :
    ∀ a, l.action? id = some a → a.resolves = false := by
  intro a found
  cases resolves : a.resolves with
  | false => rfl
  | true => exact absurd ⟨a, found, resolves⟩ absent

/-- A resolving action is not found while it is in flight. -/
theorem not_inFlight_of_action? {l : Ledger} {id : ActionId} {a : Action}
    (found : l.action? id = some a) (resolves : a.resolves = true) : id ∉ l.inFlight := by
  intro marked
  obtain ⟨-, free⟩ := Option.filter_eq_some_iff.mp found
  simp [resolves, marked] at free

/-- An action that is not there, or does not resolve, is not launched. -/
theorem launch_of_missing {l : Ledger} {id : ActionId}
    (missing : ∀ a, l.action? id = some a → a.resolves = false) :
    l.launch id = { ledger := l, answer := false } := by
  unfold launch
  split
  · rfl
  · rename_i a found
    rw [missing a found, if_neg Bool.false_ne_true]

theorem launch_of_found {l : Ledger} {id : ActionId} {a : Action} (found : l.action? id = some a)
    (resolves : a.resolves = true) :
    l.launch id =
      { ledger := { l with inFlight := l.inFlight.insert id }, answer := true
        activity := [.actionStarted] } := by
  simp only [launch, found, resolves, if_pos]

/-- A failure is refused and changes nothing, or the place fails from then on. -/
theorem reportFailure_cases (l : Ledger) (c : Catalogue) (g : ProfileGroup) (place : Slot)
    (event : Event) :
    (∃ e, (l.reportFailure c g place event).answer = .error e ∧
      (l.reportFailure c g place event).ledger = l) ∨
    (∃ note, (l.reportFailure c g place event).answer = .ok note ∧
      (l.reportFailure c g place event).ledger = { l with failing := l.failing.insert place }) := by
  cases verdict : refusal? c g place with
  | some e =>
    rw [reportFailure_of_refusal l verdict]
    exact Or.inl ⟨e, rfl, rfl⟩
  | none =>
    rw [reportFailure_of_allowed l verdict]
    exact Or.inr ⟨_, rfl, rfl⟩

/-- A dismissal takes place exactly if its issue is there. -/
theorem dismiss_cases (l : Ledger) (id : IssueId) :
    ((l.dismiss id).answer = false ∧ (l.dismiss id).ledger = l ∧ l.issue? id = none) ∨
    ((l.dismiss id).answer = true ∧
      (l.dismiss id).ledger = { l with dismissed := l.dismissed.insert id } ∧
      ∃ i, l.issue? id = some i) := by
  cases there : l.issue? id with
  | none =>
    rw [dismiss_of_missing there]
    exact Or.inl ⟨rfl, rfl, rfl⟩
  | some i =>
    rw [dismiss_of_found there]
    exact Or.inr ⟨rfl, rfl, i, rfl⟩

/-- An action is launched exactly if it is there and resolves. -/
theorem launch_cases (l : Ledger) (id : ActionId) :
    ((l.launch id).answer = false ∧ (l.launch id).ledger = l ∧
      ∀ a, l.action? id = some a → a.resolves = false) ∨
    ((l.launch id).answer = true ∧
      (l.launch id).ledger = { l with inFlight := l.inFlight.insert id } ∧
      ∃ a, l.action? id = some a ∧ a.resolves = true) := by
  by_cases there : ∃ a, l.action? id = some a ∧ a.resolves = true
  · obtain ⟨a, found, resolves⟩ := there
    rw [launch_of_found found resolves]
    exact Or.inr ⟨rfl, rfl, a, found, resolves⟩
  · have missing := missing_of_not there
    rw [launch_of_missing missing]
    exact Or.inl ⟨rfl, rfl, missing⟩

/-- A report that is not answered with a change leaves the ledger as it is. -/
theorem submit_of_unchanged {l : Ledger}
    (unchanged : (l.submit c g place report).answer ≠ .ok true) :
    (l.submit c g place report).ledger = l := by
  cases verdict : rejection? c g place report with
  | some e => rw [submit_of_rejection l verdict]
  | none =>
    by_cases same : l.report? place = kept report
    · rw [submit_of_same verdict same] at unchanged ⊢
      have works : place ∉ l.failing := by simpa using unchanged
      simp only [calm, Distinct.erase_of_not_mem works]
    · rw [submit_of_other verdict same] at unchanged
      exact absurd rfl unchanged

/-- A failure that is not answered with a change leaves the ledger as it is. -/
theorem reportFailure_of_unchanged {l : Ledger}
    (unchanged : ∀ note, (l.reportFailure c g place event).answer = .ok note →
      note.changed = false) : (l.reportFailure c g place event).ledger = l := by
  cases verdict : refusal? c g place with
  | some e => rw [reportFailure_of_refusal l verdict]
  | none =>
    rw [reportFailure_of_allowed l verdict] at unchanged ⊢
    have fails : place ∈ l.failing := by simpa using unchanged _ rfl
    simp only [Distinct.insert_of_mem fails]

/-- A dismissal that does not take place leaves the ledger as it is. -/
theorem dismiss_of_unchanged {l : Ledger} {id : IssueId}
    (unchanged : (l.dismiss id).answer = false) : (l.dismiss id).ledger = l := by
  rcases dismiss_cases l id with ⟨-, same, -⟩ | ⟨taken, -⟩
  · exact same
  · rw [taken] at unchanged
    cases unchanged

/-- A launch that does not take place leaves the ledger as it is. -/
theorem launch_of_unchanged {l : Ledger} {id : ActionId}
    (unchanged : (l.launch id).answer = false) : (l.launch id).ledger = l := by
  rcases launch_cases l id with ⟨-, same, -⟩ | ⟨taken, -⟩
  · exact same
  · rw [taken] at unchanged
    cases unchanged

/-- A failure is not counted. -/
theorem activity_reportFailure (l : Ledger) (c : Catalogue) (g : ProfileGroup) (place : Slot)
    (event : Event) : (l.reportFailure c g place event).activity = [] := by
  unfold reportFailure
  split <;> rfl

/-- A dismissal is counted if it takes place. -/
theorem activity_dismiss (l : Ledger) (id : IssueId) :
    (l.dismiss id).activity = if (l.dismiss id).answer then [.issueDismissed] else [] := by
  rcases there : l.issue? id with _ | i
  · rw [dismiss_of_missing there]
    rfl
  · rw [dismiss_of_found there]
    rfl

/-- A launch is counted if it takes place. -/
theorem activity_launch (l : Ledger) (id : ActionId) :
    (l.launch id).activity = if (l.launch id).answer then [.actionStarted] else [] := by
  by_cases there : ∃ a, l.action? id = some a ∧ a.resolves = true
  · obtain ⟨a, found, resolves⟩ := there
    rw [launch_of_found found resolves]
    rfl
  · rw [launch_of_missing (missing_of_not there)]
    rfl

end SafetyCenter.Ledger
