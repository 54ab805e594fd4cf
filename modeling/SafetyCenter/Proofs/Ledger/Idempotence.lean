import SafetyCenter.Proofs.Ledger.Locality
import SafetyCenter.Proofs.Ledger.Run

set_option autoImplicit false

namespace SafetyCenter.Ledger

/-- Two ledgers track the same. The order in which markers came is left out, since nothing reads
it. -/
def Alike (l m : Ledger) : Prop :=
  ∀ place : Slot, place.SameIn l m

theorem Alike.refl (l : Ledger) : l.Alike l :=
  fun place => Slot.SameIn.refl place l

variable {l : Ledger} {c : Catalogue} {g : ProfileGroup} {place : Slot} {report : Option Report}
  {event : Event}

/-- A report that is answered with a flag was accepted. -/
theorem accepted_of_flag {flag : Bool}
    (answered : (l.submit c g place report).answer = .ok flag) :
    rejection? c g place report = none := by
  cases verdict : rejection? c g place report with
  | some e =>
    rw [submit_of_rejection l verdict] at answered
    cases answered
  | none => rfl

/-- A failure that is answered with a note was accepted. -/
theorem allowed_of_note {note : FailureNote}
    (taken : (l.reportFailure c g place event).answer = .ok note) : refusal? c g place = none := by
  cases verdict : refusal? c g place with
  | some e =>
    rw [reportFailure_of_refusal l verdict] at taken
    cases taken
  | none => rfl

/-- What the user is told of an accepted failure depends on the occasion alone. -/
theorem message_of_note {note : FailureNote}
    (taken : (l.reportFailure c g place event).answer = .ok note) :
    note.message = event.kind.failureMessage? := by
  rw [reportFailure_of_allowed l (allowed_of_note taken)] at taken
  cases taken
  rfl

/-- An accepted report is the one that is stored then, and its place works. -/
theorem submit_settles (l : Ledger) (accepted : rejection? c g place report = none) :
    (l.submit c g place report).ledger.report? place = kept report ∧
      place ∉ (l.submit c g place report).ledger.failing := by
  by_cases same : l.report? place = kept report
  · rw [submit_of_same accepted same]
    exact ⟨same, by simp [calm]⟩
  · rw [submit_of_other accepted same, replace]
    refine ⟨?_, ?_⟩
    · show ((l.calm place).store place (kept report)).report? place = kept report
      rw [report?_store, if_pos rfl]
    · show place ∉ ((l.calm place).store place (kept report)).failing
      rw [store_failing]
      simp [calm]

/-- A report changes a ledger exactly if this is the answer. -/
theorem alike_submit_iff :
    l.Alike (l.submit c g place report).ledger ↔
      (l.submit c g place report).answer ≠ .ok true := by
  constructor
  · intro alike changed
    have accepted := accepted_of_flag changed
    obtain ⟨stored, works⟩ := submit_settles l accepted
    -- the report was stored before, so that the change must have been that the place failed
    have same : l.report? place = kept report := (alike place).report.trans stored
    rw [submit_of_same accepted same] at changed
    have fails : place ∈ l.failing := by simpa using changed
    exact works ((alike place).failing.mp fails)
  · intro unchanged
    rw [submit_of_unchanged unchanged]
    exact Alike.refl l

/-- A failure that is accepted changes a ledger exactly if this is the answer. -/
theorem alike_reportFailure_iff {note : FailureNote}
    (taken : (l.reportFailure c g place event).answer = .ok note) :
    l.Alike (l.reportFailure c g place event).ledger ↔ note.changed = false := by
  constructor
  · intro alike
    have allowed := allowed_of_note taken
    have here := (alike place).failing
    rw [reportFailure_of_allowed l allowed] at taken here
    cases taken
    simpa using here
  · intro unchanged
    rw [reportFailure_of_unchanged]
    · exact Alike.refl l
    · intro other same
      rw [taken] at same
      cases same
      exact unchanged

/-- A dismissal changes a ledger exactly if it takes place. -/
theorem alike_dismiss_iff {id : IssueId} :
    l.Alike (l.dismiss id).ledger ↔ (l.dismiss id).answer = false := by
  constructor
  · intro alike
    rcases dismiss_cases l id with ⟨refused, -⟩ | ⟨-, ledger, i, found⟩
    · exact refused
    · have here := (alike id.slot).dismissed id rfl
      rw [ledger] at here
      have marked : id ∈ l.dismissed := here.mpr (by simp)
      exact absurd marked (issue?_eq_some_iff.mp found).1
  · intro refused
    rw [dismiss_of_unchanged refused]
    exact Alike.refl l

/-- A launch changes a ledger exactly if it takes place. -/
theorem alike_launch_iff {id : ActionId} :
    l.Alike (l.launch id).ledger ↔ (l.launch id).answer = false := by
  constructor
  · intro alike
    rcases launch_cases l id with ⟨refused, -⟩ | ⟨-, ledger, a, found, resolves⟩
    · exact refused
    · have here := (alike id.slot).inFlight id rfl
      rw [ledger] at here
      have marked : id ∈ l.inFlight := here.mpr (by simp)
      exact absurd marked (not_inFlight_of_action? found resolves)
  · intro refused
    rw [launch_of_unchanged refused]
    exact Alike.refl l

/-- A report that was accepted says nothing new the second time. -/
theorem submit_again (accepted : rejection? c g place report = none) :
    ((l.submit c g place report).ledger.submit c g place report).answer = .ok false := by
  obtain ⟨stored, works⟩ := submit_settles l accepted
  rw [submit_of_same accepted stored]
  simp [works]

/-- A failure that was accepted is known the second time. -/
theorem reportFailure_again (allowed : refusal? c g place = none) :
    ((l.reportFailure c g place event).ledger.reportFailure c g place event).answer =
      .ok ⟨false, event.kind.failureMessage?⟩ := by
  rw [reportFailure_of_allowed l allowed, reportFailure_of_allowed _ allowed]
  simp

theorem dismiss_again (l : Ledger) (id : IssueId) :
    ((l.dismiss id).ledger.dismiss id).answer = false := by
  rcases dismiss_cases l id with ⟨refused, ledger, -⟩ | ⟨-, ledger, -⟩
  · rw [ledger, refused]
  · have missing : (l.dismiss id).ledger.issue? id = none := by
      rw [ledger]
      simp [issue?]
    rw [dismiss_of_missing missing]

theorem launch_again (l : Ledger) (id : ActionId) :
    ((l.launch id).ledger.launch id).answer = false := by
  rcases launch_cases l id with ⟨refused, ledger, -⟩ | ⟨-, ledger, -⟩
  · rw [ledger, refused]
  · have marked : id ∈ (l.launch id).ledger.inFlight := by
      rw [ledger]
      simp
    have missing : ∀ a, (l.launch id).ledger.action? id = some a → a.resolves = false := by
      intro a found
      cases resolves : a.resolves with
      | false => rfl
      | true => exact absurd marked (not_inFlight_of_action? found resolves)
    rw [launch_of_missing missing]

/-- Whether an operation changed anything, as it is answered. A refused one does not answer that. -/
def Reply.changed? : Reply → Option Bool
  | .submitted (.ok changed) => some changed
  | .noted (.ok note) => some note.changed
  | .flag taken => some taken
  | .submitted (.error _) | .noted (.error _) | .done => none

namespace Operation

variable {op : Operation} {flag : Bool}

/-- An operation changes a ledger exactly if this is the answer. -/
theorem alike_perform_iff (answered : (op.perform l).answer.changed? = some flag) :
    l.Alike (op.perform l).ledger ↔ flag = false := by
  cases op with
  | submit c g place report =>
    cases taken : (l.submit c g place report).answer with
    | error e => simp [perform, taken, Reply.changed?] at answered
    | ok changed =>
      simp only [perform, taken, Reply.changed?, Option.some.injEq] at answered
      subst answered
      show l.Alike (l.submit c g place report).ledger ↔ _
      rw [alike_submit_iff, taken]
      simp
  | reportFailure c g place event =>
    cases taken : (l.reportFailure c g place event).answer with
    | error e => simp [perform, taken, Reply.changed?] at answered
    | ok note =>
      simp only [perform, taken, Reply.changed?, Option.some.injEq] at answered
      subst answered
      exact alike_reportFailure_iff taken
  | dismiss id =>
    simp only [perform, Reply.changed?, Option.some.injEq] at answered
    subst answered
    exact alike_dismiss_iff
  | launch id =>
    simp only [perform, Reply.changed?, Option.some.injEq] at answered
    subst answered
    exact alike_launch_iff
  | clear => simp [perform, Reply.changed?] at answered

/-- An operation that answers that it changed nothing leaves the ledger as it is. -/
theorem perform_of_unchanged (answered : (op.perform l).answer.changed? = some false) :
    (op.perform l).ledger = l := by
  cases op with
  | submit c g place report =>
    apply submit_of_unchanged
    intro changed
    simp [perform, changed, Reply.changed?] at answered
  | reportFailure c g place event =>
    apply reportFailure_of_unchanged
    intro note taken
    simpa [perform, taken, Reply.changed?] using answered
  | dismiss id => exact dismiss_of_unchanged (by simpa [perform, Reply.changed?] using answered)
  | launch id => exact launch_of_unchanged (by simpa [perform, Reply.changed?] using answered)
  | clear => simp [perform, Reply.changed?] at answered

/-- An operation made once more answers that it changed nothing. -/
theorem changed?_again (answered : (op.perform l).answer.changed? = some flag) :
    (op.perform (op.perform l).ledger).answer.changed? = some false := by
  cases op with
  | submit c g place report =>
    cases taken : (l.submit c g place report).answer with
    | error e => simp [perform, taken, Reply.changed?] at answered
    | ok changed =>
      simp only [perform, submit_again (accepted_of_flag taken), Reply.changed?]
  | reportFailure c g place event =>
    cases taken : (l.reportFailure c g place event).answer with
    | error e => simp [perform, taken, Reply.changed?] at answered
    | ok note =>
      simp only [perform, reportFailure_again (allowed_of_note taken), Reply.changed?]
  | dismiss id => simp only [perform, dismiss_again, Reply.changed?]
  | launch id => simp only [perform, launch_again, Reply.changed?]
  | clear => simp [perform, Reply.changed?] at answered

/-- An operation that was not refused answers whether it changed what is tracked, and leaves the
ledger untouched if not. Made once more right after, it answers that it changed nothing, and leaves
the ledger untouched. -/
theorem perform_again (l : Ledger) (op : Operation) {flag : Bool}
    (answered : (op.perform l).answer.changed? = some flag) :
    let m := (op.perform l).ledger
    (flag = true ↔ ¬ l.Alike m) ∧ (flag = false → m = l) ∧
      (op.perform m).answer.changed? = some false ∧ (op.perform m).ledger = m := by
  intro m
  have again := changed?_again answered
  refine ⟨?_, ?_, again, perform_of_unchanged again⟩
  · rw [alike_perform_iff answered]
    simp
  · rintro rfl
    exact perform_of_unchanged answered

/-- A failure is known after the first time, until a report comes. -/
theorem perform_again_of_failure :
    let c : Catalogue := ⟨[{ id := ⟨"lock"⟩ }]⟩
    let op : Operation :=
      .reportFailure c (.single ⟨1⟩) ⟨⟨"lock"⟩, ⟨1⟩⟩ ⟨.deviceRebooted, none⟩
    let m := (op.perform ∅).ledger
    ((op.perform ∅).answer.changed? = some true ∧ ¬ (∅ : Ledger).Alike m) ∧
      (op.perform m).answer.changed? = some false ∧ (op.perform m).ledger = m := by
  intro c op m
  have answered : (op.perform ∅).answer.changed? = some true := by decide
  obtain ⟨tells, -, again⟩ := perform_again ∅ op answered
  exact ⟨⟨answered, tells.mp rfl⟩, again⟩

end Operation

end SafetyCenter.Ledger
