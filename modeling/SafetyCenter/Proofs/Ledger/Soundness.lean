import SafetyCenter.Proofs.Ledger.Cases
import SafetyCenter.Proofs.Ledger.Run

set_option autoImplicit false

namespace SafetyCenter.Ledger

theorem report?_empty (place : Slot) : (∅ : Ledger).report? place = none := rfl

theorem not_failing_empty (place : Slot) : place ∉ (∅ : Ledger).failing :=
  Distinct.not_mem_empty place

theorem not_dismissed_empty (id : IssueId) : id ∉ (∅ : Ledger).dismissed :=
  Distinct.not_mem_empty id

theorem not_inFlight_empty (id : ActionId) : id ∉ (∅ : Ledger).inFlight :=
  Distinct.not_mem_empty id

/-- What an issue id means depends on the report of its place alone. -/
theorem reportedIssue?_congr {l m : Ledger} {id : IssueId}
    (same : l.report? id.slot = m.report? id.slot) : l.reportedIssue? id = m.reportedIssue? id := by
  rw [reportedIssue?, reportedIssue?, same]

theorem reportedAction?_congr {l m : Ledger} {id : ActionId}
    (same : l.report? id.slot = m.report? id.slot) :
    l.reportedAction? id = m.reportedAction? id := by
  have issue : l.reportedIssue? id.issue = m.reportedIssue? id.issue := reportedIssue?_congr same
  rw [reportedAction?, reportedAction?, issue]

structure Sound (l : Ledger) : Prop where
  valid : ∀ place r, l.report? place = some r → r.Valid
  nonempty : ∀ place r, l.report? place = some r → r.isEmpty = false
  dismissed : ∀ id ∈ l.dismissed, (l.reportedIssue? id).isSome
  inFlight : ∀ id ∈ l.inFlight, (l.reportedAction? id).isSome

theorem sound_empty : (∅ : Ledger).Sound where
  valid := by
    intro place r kept
    rw [report?_empty] at kept
    cases kept
  nonempty := by
    intro place r kept
    rw [report?_empty] at kept
    cases kept
  dismissed := fun id member => absurd member (not_dismissed_empty id)
  inFlight := fun id member => absurd member (not_inFlight_empty id)

/-- The effect of an accepted report: it takes the place of the stored one, the place no longer
fails, and the place keeps those markers that mean something in the new report. -/
structure Accepted (l : Ledger) (place : Slot) (report : Option Report) (m : Ledger) : Prop where
  valid : ∀ r, kept report = some r → r.Valid
  report : ∀ k, m.report? k = if place = k then kept report else l.report? k
  failing : ∀ k, k ∈ m.failing ↔ k ∈ l.failing ∧ k ≠ place
  dismissed : ∀ id, id ∈ m.dismissed ↔
    id ∈ l.dismissed ∧ (id.slot = place → (m.reportedIssue? id).isSome)
  inFlight : ∀ id, id ∈ m.inFlight ↔
    id ∈ l.inFlight ∧ (id.slot = place → (m.reportedAction? id).isSome)

theorem Accepted.sound {l m : Ledger} {place : Slot} {report : Option Report} (sound : l.Sound)
    (accepted : Accepted l place report m) : m.Sound where
  valid := by
    intro k r stored
    rw [accepted.report] at stored
    split at stored
    · exact accepted.valid r stored
    · exact sound.valid k r stored
  nonempty := by
    intro k r stored
    rw [accepted.report] at stored
    split at stored
    · exact (nonempty_of_kept stored).2
    · exact sound.nonempty k r stored
  dismissed := by
    intro id member
    obtain ⟨before, means⟩ := (accepted.dismissed id).mp member
    by_cases here : id.slot = place
    · exact means here
    · have same : m.report? id.slot = l.report? id.slot := by
        rw [accepted.report, if_neg (Ne.symm here)]
      rw [reportedIssue?_congr same]
      exact sound.dismissed id before
  inFlight := by
    intro id member
    obtain ⟨before, means⟩ := (accepted.inFlight id).mp member
    by_cases here : id.slot = place
    · exact means here
    · have same : m.report? id.slot = l.report? id.slot := by
        rw [accepted.report, if_neg (Ne.symm here)]
      rw [reportedAction?_congr same]
      exact sound.inFlight id before

/-- A place that reports again what it reported before no longer fails, and that is all. -/
theorem accepted_of_same {l : Ledger} (sound : l.Sound) {place : Slot} {report : Option Report}
    (valid : ∀ r, kept report = some r → r.Valid) (same : l.report? place = kept report) :
    Accepted l place report (l.calm place) where
  valid := valid
  report := by
    intro k
    split
    · rename_i here
      rw [← same, here]
      rfl
    · rfl
  failing := fun k => Distinct.mem_erase
  dismissed := fun id => ⟨fun member => ⟨member, fun _ => sound.dismissed id member⟩, And.left⟩
  inFlight := fun id => ⟨fun member => ⟨member, fun _ => sound.inFlight id member⟩, And.left⟩

@[simp] theorem store_failing (l : Ledger) (place : Slot) (r : Option Report) :
    (l.store place r).failing = l.failing := by
  cases r <;> rfl

@[simp] theorem store_dismissed (l : Ledger) (place : Slot) (r : Option Report) :
    (l.store place r).dismissed = l.dismissed := by
  cases r <;> rfl

@[simp] theorem store_inFlight (l : Ledger) (place : Slot) (r : Option Report) :
    (l.store place r).inFlight = l.inFlight := by
  cases r <;> rfl

theorem accepted_of_replaced (l : Ledger) {place : Slot} {report : Option Report}
    (valid : ∀ r, kept report = some r → r.Valid) :
    Accepted l place report (l.replace place report).ledger where
  valid := valid
  report := fun k => report?_store (l.calm place) place k (kept report)
  failing := by
    intro k
    show k ∈ ((l.calm place).store place (kept report)).failing ↔ _
    rw [store_failing]
    exact Distinct.mem_erase
  dismissed := by
    intro id
    rw [replace, mem_dismissed_prune, store_dismissed]
    exact Iff.rfl
  inFlight := by
    intro id
    rw [replace, mem_inFlight_prune, store_inFlight]
    exact Iff.rfl

/-- A report that is not turned down is accepted. -/
theorem accepted_of_submit {l : Ledger} (sound : l.Sound) {c : Catalogue} {g : ProfileGroup}
    {place : Slot} {report : Option Report} (verdict : rejection? c g place report = none) :
    Accepted l place report (l.submit c g place report).ledger := by
  have valid := valid_of_accepted verdict
  by_cases same : l.report? place = kept report
  · rw [submit_of_same verdict same]
    exact accepted_of_same sound valid same
  · rw [submit_of_other verdict same]
    exact accepted_of_replaced l valid

/-- A report is refused and changes nothing, or it is accepted. -/
theorem submit_cases {l : Ledger} (sound : l.Sound) (c : Catalogue) (g : ProfileGroup)
    (place : Slot) (report : Option Report) :
    (∃ e, (l.submit c g place report).answer = .error e ∧
      (l.submit c g place report).ledger = l) ∨
    (∃ changed, (l.submit c g place report).answer = .ok changed ∧
      Accepted l place report (l.submit c g place report).ledger) := by
  cases verdict : rejection? c g place report with
  | some e =>
    rw [submit_of_rejection l verdict]
    exact Or.inl ⟨e, rfl, rfl⟩
  | none =>
    have accepted := accepted_of_submit sound verdict
    by_cases same : l.report? place = kept report
    · rw [submit_of_same verdict same] at accepted ⊢
      exact Or.inr ⟨_, rfl, accepted⟩
    · rw [submit_of_other verdict same] at accepted ⊢
      exact Or.inr ⟨true, rfl, accepted⟩

theorem reportedAction?_of_action? {l : Ledger} {id : ActionId} {a : Action}
    (found : l.action? id = some a) : l.reportedAction? id = some a := by
  obtain ⟨inner, -⟩ := Option.filter_eq_some_iff.mp found
  obtain ⟨i, issue, action⟩ := Option.bind_eq_some_iff.mp inner
  rw [reportedAction?, (issue?_eq_some_iff.mp issue).2, Option.bind_some, action]

theorem Sound.fail {l : Ledger} (sound : l.Sound) (place : Slot) :
    Sound { l with failing := l.failing.insert place } :=
  ⟨sound.valid, sound.nonempty, sound.dismissed, sound.inFlight⟩

theorem Sound.dismiss {l : Ledger} (sound : l.Sound) {id : IssueId} {i : Issue}
    (found : l.issue? id = some i) : Sound { l with dismissed := l.dismissed.insert id } where
  valid := sound.valid
  nonempty := sound.nonempty
  dismissed := by
    intro other member
    rcases Distinct.mem_insert.mp member with before | rfl
    · exact sound.dismissed other before
    · exact Option.isSome_of_eq_some (issue?_eq_some_iff.mp found).2
  inFlight := sound.inFlight

theorem Sound.launch {l : Ledger} (sound : l.Sound) {id : ActionId} {a : Action}
    (found : l.action? id = some a) : Sound { l with inFlight := l.inFlight.insert id } where
  valid := sound.valid
  nonempty := sound.nonempty
  dismissed := sound.dismissed
  inFlight := by
    intro other member
    rcases Distinct.mem_insert.mp member with before | rfl
    · exact sound.inFlight other before
    · have means := Option.isSome_of_eq_some (reportedAction?_of_action? found)
      exact means

theorem Sound.perform {l : Ledger} (sound : l.Sound) (op : Operation) :
    (op.perform l).ledger.Sound := by
  cases op with
  | submit c g place report =>
    rcases submit_cases sound c g place report with ⟨e, -, same⟩ | ⟨changed, -, accepted⟩
    · change Sound (l.submit c g place report).ledger
      rwa [same]
    · exact accepted.sound sound
  | reportFailure c g place event =>
    show Sound (l.reportFailure c g place event).ledger
    rcases reportFailure_cases l c g place event with ⟨e, -, same⟩ | ⟨note, -, same⟩
    · rwa [same]
    · rw [same]
      exact sound.fail place
  | dismiss id =>
    show Sound (l.dismiss id).ledger
    rcases dismiss_cases l id with ⟨-, same, -⟩ | ⟨-, same, i, found⟩
    · rwa [same]
    · rw [same]
      exact sound.dismiss found
  | launch id =>
    show Sound (l.launch id).ledger
    rcases launch_cases l id with ⟨-, same, -⟩ | ⟨-, same, a, found, -⟩
    · rwa [same]
    · rw [same]
      exact sound.launch found
  | clear => exact sound_empty

theorem Sound.run {l : Ledger} (sound : l.Sound) (ops : List Operation) : (l.run ops).Sound := by
  induction ops generalizing l with
  | nil => exact sound
  | cons op ops ih => exact ih (sound.perform op)

end SafetyCenter.Ledger
