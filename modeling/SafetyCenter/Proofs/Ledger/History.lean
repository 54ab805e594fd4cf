import SafetyCenter.Proofs.Ledger.Soundness

set_option autoImplicit false

namespace SafetyCenter.Ledger

/-- The report is of the session of an issue id and has an issue with its key and type. -/
def CarriesIssue (report : Option Report) (id : IssueId) : Prop :=
  ∃ r, report = some r ∧ r.session = id.session ∧
    ∃ i ∈ r.issues, i.key = id.issueKey ∧ i.issueType = id.issueType

/-- The report has the issue of an action id, and among its actions one with the id's key. -/
def CarriesAction (report : Option Report) (id : ActionId) : Prop :=
  ∃ r, report = some r ∧ r.session = id.issue.session ∧
    ∃ i ∈ r.issues, i.key = id.issue.issueKey ∧ i.issueType = id.issue.issueType ∧
      ∃ a ∈ i.actions, a.key = id.actionKey

namespace Deed

/-- A deed that is no report of a place and does not forget everything. -/
def Spares (place : Slot) (d : Deed) : Prop :=
  d ≠ .cleared ∧ ∀ report, d ≠ .reported place report

/-- A deed that forgets nothing and, if it is a report of the issue's place, carries the issue. -/
def KeepsIssue (id : IssueId) (d : Deed) : Prop :=
  d ≠ .cleared ∧ ∀ report, d = .reported id.slot report → CarriesIssue report id

/-- A deed that forgets nothing and, if it is a report of the action's place, carries the action. -/
def KeepsAction (id : ActionId) (d : Deed) : Prop :=
  d ≠ .cleared ∧ ∀ report, d = .reported id.slot report → CarriesAction report id

end Deed

namespace Deed

theorem spares_reported {k place : Slot} {report : Option Report} :
    Spares k (.reported place report) ↔ k ≠ place := by
  simp [Spares, eq_comm]

theorem keepsIssue_reported {id : IssueId} {place : Slot} {report : Option Report} :
    KeepsIssue id (.reported place report) ↔ (id.slot = place → CarriesIssue report id) := by
  simp [KeepsIssue, eq_comm]

theorem keepsAction_reported {id : ActionId} {place : Slot} {report : Option Report} :
    KeepsAction id (.reported place report) ↔ (id.slot = place → CarriesAction report id) := by
  simp [KeepsAction, eq_comm]

end Deed

theorem reportedIssue?_isSome_iff {l : Ledger} {report : Option Report} {id : IssueId}
    (stored : l.report? id.slot = kept report) (valid : ∀ r, kept report = some r → r.Valid) :
    (l.reportedIssue? id).isSome ↔ CarriesIssue report id := by
  rw [reportedIssue?, stored, Option.isSome_iff_exists]
  constructor
  · intro given
    obtain ⟨i, found⟩ := given
    obtain ⟨r, same, looked⟩ := Option.bind_eq_some_iff.mp found
    obtain ⟨session, member, key, type⟩ := (valid r same).lookup?_eq_some_iff.mp looked
    exact ⟨r, (nonempty_of_kept same).1, session, i, member, key, type⟩
  · intro given
    obtain ⟨r, rfl, session, i, member, key, type⟩ := given
    have same := kept_of_member member
    refine ⟨i, Option.bind_eq_some_iff.mpr ⟨r, same, ?_⟩⟩
    exact (valid r same).lookup?_eq_some_iff.mpr ⟨session, member, key, type⟩

theorem reportedAction?_isSome_iff {l : Ledger} {report : Option Report} {id : ActionId}
    (stored : l.report? id.slot = kept report) (valid : ∀ r, kept report = some r → r.Valid) :
    (l.reportedAction? id).isSome ↔ CarriesAction report id := by
  have place : l.report? id.issue.slot = kept report := stored
  rw [reportedAction?, reportedIssue?, place, Option.isSome_iff_exists]
  constructor
  · intro given
    obtain ⟨a, found⟩ := given
    obtain ⟨i, issue, action⟩ := Option.bind_eq_some_iff.mp found
    obtain ⟨r, same, looked⟩ := Option.bind_eq_some_iff.mp issue
    obtain ⟨session, member, key, type⟩ := (valid r same).lookup?_eq_some_iff.mp looked
    obtain ⟨inside, named⟩ := ((valid r same).action?_eq_some_iff member).mp action
    exact ⟨r, (nonempty_of_kept same).1, session, i, member, key, type, a, inside, named⟩
  · intro given
    obtain ⟨r, rfl, session, i, member, key, type, a, inside, named⟩ := given
    have same := kept_of_member member
    have looked := (valid r same).lookup?_eq_some_iff.mpr ⟨session, member, key, type⟩
    refine ⟨a, Option.bind_eq_some_iff.mpr ⟨i, Option.bind_eq_some_iff.mpr ⟨r, same, looked⟩, ?_⟩⟩
    exact ((valid r same).action?_eq_some_iff member).mpr ⟨inside, named⟩

/-- A ledger holds exactly what a log accounts for. -/
structure Chronicled (l : Ledger) (log : List Deed) : Prop where
  /-- the last report of the place counts, unless it says nothing -/
  report : ∀ place r, l.report? place = some r ↔
    r.isEmpty = false ∧ Since (· = .reported place (some r)) (Deed.Spares place) log
  /-- a place fails from a failure until its next report -/
  failing : ∀ place, place ∈ l.failing ↔ Since (· = .failed place) (Deed.Spares place) log
  /-- an issue stays dismissed while the reports of its place carry it -/
  dismissed : ∀ id, id ∈ l.dismissed ↔ Since (· = .dismissed id) (Deed.KeepsIssue id) log
  /-- an action stays in flight while the reports of its place carry it -/
  inFlight : ∀ id, id ∈ l.inFlight ↔ Since (· = .launched id) (Deed.KeepsAction id) log

theorem chronicled_empty : Chronicled ∅ [] where
  report := by
    intro place r
    simp [report?_empty, not_since_nil]
  failing := fun place => by simp [not_failing_empty, not_since_nil]
  dismissed := fun id => by simp [not_dismissed_empty, not_since_nil]
  inFlight := fun id => by simp [not_inFlight_empty, not_since_nil]

theorem Chronicled.reported {l m : Ledger} {log : List Deed} {place : Slot}
    {report : Option Report} (chronicled : Chronicled l log)
    (accepted : Accepted l place report m) :
    Chronicled m (log ++ [.reported place report]) where
  report := by
    intro k r
    rw [since_concat, Deed.spares_reported, accepted.report]
    by_cases here : place = k
    · subst here
      rw [if_pos rfl]
      constructor
      · intro same
        obtain ⟨rfl, speaks⟩ := nonempty_of_kept same
        exact ⟨speaks, Or.inl rfl⟩
      · intro given
        obtain ⟨speaks, same | ⟨-, elsewhere⟩⟩ := given
        · cases same
          simp [kept, Option.filter, speaks]
        · exact absurd rfl elsewhere
    · rw [if_neg here, chronicled.report]
      simp [here, Ne.symm here]
  failing := by
    intro k
    rw [since_concat, Deed.spares_reported, accepted.failing, chronicled.failing]
    simp
  dismissed := by
    intro id
    rw [since_concat, Deed.keepsIssue_reported, accepted.dismissed, chronicled.dismissed]
    have means : id.slot = place → ((m.reportedIssue? id).isSome ↔ CarriesIssue report id) := by
      intro here
      refine reportedIssue?_isSome_iff ?_ accepted.valid
      rw [accepted.report, if_pos here.symm]
    simp only [reduceCtorEq, false_or]
    exact and_congr_right fun _ => forall_congr' means
  inFlight := by
    intro id
    rw [since_concat, Deed.keepsAction_reported, accepted.inFlight, chronicled.inFlight]
    have means : id.slot = place → ((m.reportedAction? id).isSome ↔ CarriesAction report id) := by
      intro here
      refine reportedAction?_isSome_iff ?_ accepted.valid
      rw [accepted.report, if_pos here.symm]
    simp only [reduceCtorEq, false_or]
    exact and_congr_right fun _ => forall_congr' means

/-- An entry that is another event and takes nothing back makes no difference. -/
theorem since_concat_of_kept {event kept : Deed → Prop} {log : List Deed} {d : Deed}
    (other : ¬ event d) (leaves : kept d) :
    Since event kept (log ++ [d]) ↔ Since event kept log := by
  rw [since_concat]
  exact ⟨fun h => (h.resolve_left other).1, fun h => Or.inr ⟨h, leaves⟩⟩

theorem Chronicled.failed {l : Ledger} {log : List Deed} (chronicled : Chronicled l log)
    (place : Slot) :
    Chronicled { l with failing := l.failing.insert place } (log ++ [.failed place]) where
  report := by
    intro k r
    rw [since_concat_of_kept (by simp) (by simp [Deed.Spares])]
    exact chronicled.report k r
  failing := by
    intro k
    rw [since_concat, Distinct.mem_insert, chronicled.failing]
    simp [Deed.Spares, or_comm, eq_comm]
  dismissed := by
    intro id
    rw [since_concat_of_kept (by simp) (by simp [Deed.KeepsIssue])]
    exact chronicled.dismissed id
  inFlight := by
    intro id
    rw [since_concat_of_kept (by simp) (by simp [Deed.KeepsAction])]
    exact chronicled.inFlight id

theorem Chronicled.dismiss {l : Ledger} {log : List Deed} (chronicled : Chronicled l log)
    (id : IssueId) :
    Chronicled { l with dismissed := l.dismissed.insert id } (log ++ [.dismissed id]) where
  report := by
    intro k r
    rw [since_concat_of_kept (by simp) (by simp [Deed.Spares])]
    exact chronicled.report k r
  failing := by
    intro k
    rw [since_concat_of_kept (by simp) (by simp [Deed.Spares])]
    exact chronicled.failing k
  dismissed := by
    intro other
    rw [since_concat, Distinct.mem_insert, chronicled.dismissed]
    simp [Deed.KeepsIssue, or_comm, eq_comm]
  inFlight := by
    intro other
    rw [since_concat_of_kept (by simp) (by simp [Deed.KeepsAction])]
    exact chronicled.inFlight other

theorem Chronicled.launch {l : Ledger} {log : List Deed} (chronicled : Chronicled l log)
    (id : ActionId) :
    Chronicled { l with inFlight := l.inFlight.insert id } (log ++ [.launched id]) where
  report := by
    intro k r
    rw [since_concat_of_kept (by simp) (by simp [Deed.Spares])]
    exact chronicled.report k r
  failing := by
    intro k
    rw [since_concat_of_kept (by simp) (by simp [Deed.Spares])]
    exact chronicled.failing k
  dismissed := by
    intro other
    rw [since_concat_of_kept (by simp) (by simp [Deed.KeepsIssue])]
    exact chronicled.dismissed other
  inFlight := by
    intro other
    rw [since_concat, Distinct.mem_insert, chronicled.inFlight]
    simp [Deed.KeepsAction, or_comm, eq_comm]

theorem chronicled_cleared (log : List Deed) : Chronicled ∅ (log ++ [.cleared]) where
  report := by
    intro place r
    simp [report?_empty, since_concat, Deed.Spares]
  failing := fun place => by simp [not_failing_empty, since_concat, Deed.Spares]
  dismissed := fun id => by simp [not_dismissed_empty, since_concat, Deed.KeepsIssue]
  inFlight := fun id => by simp [not_inFlight_empty, since_concat, Deed.KeepsAction]

theorem Chronicled.perform {l : Ledger} {log : List Deed} (sound : l.Sound)
    (chronicled : Chronicled l log) (op : Operation) :
    Chronicled (op.perform l).ledger (log ++ (op.deed? (op.perform l).answer).toList) := by
  cases op with
  | submit c g place report =>
    simp only [Operation.perform]
    rcases submit_cases sound c g place report with ⟨e, refused, same⟩ | ⟨changed, taken, accepted⟩
    · simpa [refused, same, Operation.deed?] using chronicled
    · rw [taken]
      exact chronicled.reported accepted
  | reportFailure c g place event =>
    simp only [Operation.perform]
    rcases reportFailure_cases l c g place event with ⟨e, refused, same⟩ | ⟨note, taken, same⟩
    · simpa [refused, same, Operation.deed?] using chronicled
    · rw [taken, same]
      exact chronicled.failed place
  | dismiss id =>
    simp only [Operation.perform]
    rcases dismiss_cases l id with ⟨missing, same, -⟩ | ⟨taken, same, -⟩
    · simpa [missing, same, Operation.deed?] using chronicled
    · rw [taken, same]
      exact chronicled.dismiss id
  | launch id =>
    simp only [Operation.perform]
    rcases launch_cases l id with ⟨missing, same, -⟩ | ⟨taken, same, -⟩
    · simpa [missing, same, Operation.deed?] using chronicled
    · rw [taken, same]
      exact chronicled.launch id
  | clear => exact chronicled_cleared log

theorem Chronicled.run {l : Ledger} {log : List Deed} (sound : l.Sound)
    (chronicled : Chronicled l log) (ops : List Operation) :
    Chronicled (l.run ops) (log ++ l.log ops) := by
  induction ops generalizing l log with
  | nil =>
    rw [Ledger.log, List.append_nil]
    exact chronicled
  | cons op ops ih =>
    have next := ih (sound.perform op) (chronicled.perform sound op)
    rwa [List.append_assoc] at next

/-- From nothing, any sequence of operations leaves exactly what its log accounts for. -/
theorem run_chronicled (ops : List Operation) :
    Chronicled ((∅ : Ledger).run ops) ((∅ : Ledger).log ops) :=
  chronicled_empty.run sound_empty ops

end SafetyCenter.Ledger
