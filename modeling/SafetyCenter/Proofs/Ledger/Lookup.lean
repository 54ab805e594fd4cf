import SafetyCenter.Ledger.View
import SafetyCenter.Proofs.Ledger.Run
import SafetyCenter.Proofs.Ledger.Soundness
import SafetyCenter.Proofs.View.Ranking

/-!
Looking up and looking at. A view walks through the stored reports and makes an id for each issue; a
look-up goes from an id to a report and finds an issue in it. On a sound ledger both come to the
same issues and actions, also under a catalogue that declares a source more than once.
-/

set_option autoImplicit false

namespace SafetyCenter.Ledger

variable {l : Ledger} {c : Catalogue} {g : ProfileGroup}

/-- On a sound ledger an id means the one stored issue that has this id, wherever it stands. -/
theorem Sound.reportedIssue?_eq_some_iff (sound : l.Sound) {id : IssueId} {i : Issue} :
    l.reportedIssue? id = some i ↔
      ∃ r, l.report? id.slot = some r ∧ i ∈ r.issues ∧ r.issueId id.slot i = id := by
  rw [reportedIssue?, Option.bind_eq_some_iff]
  apply exists_congr
  intro r
  apply and_congr_right
  intro stored
  rw [(sound.valid id.slot r stored).lookup?_eq_some_iff]
  constructor
  · intro given
    obtain ⟨session, member, key, type⟩ := given
    refine ⟨member, ?_⟩
    rw [Report.issueId, session, key, type]
    rfl
  · intro given
    obtain ⟨member, named⟩ := given
    rw [← named]
    exact ⟨rfl, member, rfl, rfl⟩

/-- A reported issue is one of a valid report. -/
theorem Sound.exists_report (sound : l.Sound) {id : IssueId} {i : Issue}
    (found : l.reportedIssue? id = some i) :
    ∃ r : Report, r.Valid ∧ i ∈ r.issues ∧ i.key = id.issueKey := by
  obtain ⟨r, stored, member, named⟩ := sound.reportedIssue?_eq_some_iff.mp found
  refine ⟨r, sound.valid id.slot r stored, member, ?_⟩
  rw [← named]
  rfl

/-- On a sound ledger an action id means the one action with its key, unless that action resolves
its issue and is in flight. -/
theorem Sound.action?_eq_some_iff (sound : l.Sound) {id : ActionId} {i : Issue} {a : Action}
    (there : l.issue? id.issue = some i) :
    l.action? id = some a ↔
      a ∈ i.actions ∧ a.key = id.actionKey ∧ ¬ (a.resolves = true ∧ id ∈ l.inFlight) := by
  obtain ⟨r, valid, member, -⟩ := sound.exists_report (issue?_eq_some_iff.mp there).2
  rw [action?, there, Option.bind_some, Option.filter_eq_some_iff, valid.action?_eq_some_iff member,
    and_assoc]
  have free : (!(a.resolves && decide (id ∈ l.inFlight))) = true ↔
      ¬ (a.resolves = true ∧ id ∈ l.inFlight) := by
    rw [Bool.not_eq_true', Bool.eq_false_iff, ne_eq, Bool.and_eq_true, decide_eq_true_eq]
  rw [free]

/-- The issues shown for a source and a user are those that a look-up finds in their place. -/
theorem Sound.mem_shownIssues (sound : l.Sound) {s : Source} {u : UserId} {shown : View.Issue} :
    shown ∈ l.shownIssues s u ↔
      ∃ i, l.issue? shown.id = some i ∧ shown.id.slot = ⟨s.id, u⟩ ∧
        shown = l.showIssue shown.id i := by
  unfold shownIssues
  dsimp only
  constructor
  · intro given
    split at given
    · cases given
    · rename_i r stored
      obtain ⟨i, kept, rfl⟩ := List.mem_map.mp given
      obtain ⟨member, visible⟩ := List.mem_filter.mp kept
      have meant : l.reportedIssue? (r.issueId ⟨s.id, u⟩ i) = some i :=
        sound.reportedIssue?_eq_some_iff.mpr ⟨r, stored, member, rfl⟩
      have undismissed : r.issueId ⟨s.id, u⟩ i ∉ l.dismissed := of_decide_eq_true visible
      exact ⟨i, issue?_eq_some_iff.mpr ⟨undismissed, meant⟩, rfl, rfl⟩
  · intro given
    obtain ⟨i, there, place, same⟩ := given
    obtain ⟨visible, meant⟩ := issue?_eq_some_iff.mp there
    obtain ⟨r, stored, member, named⟩ := sound.reportedIssue?_eq_some_iff.mp meant
    rw [place] at stored named
    simp only [stored]
    refine List.mem_map.mpr ⟨i, List.mem_filter.mpr ⟨member, ?_⟩, ?_⟩
    · simpa [named] using visible
    · rw [named]
      exact same.symm

/-- A shown issue repeats the issue that its id means. Its actions come in the order of the report,
each with its own id and marked if it is in flight. -/
structure Displays (l : Ledger) (id : IssueId) (i : Issue) (shown : View.Issue) : Prop where
  named : shown.id = id
  title : shown.title = i.title
  summary : shown.summary = i.summary
  severity : shown.severity = i.severity
  actions : shown.actions = i.actions.map fun a =>
    { id := ⟨id, a.key⟩, label := a.label, resolves := a.resolves
      inFlight := decide ((⟨id, a.key⟩ : ActionId) ∈ l.inFlight) }

theorem displays_showIssue (l : Ledger) (id : IssueId) (i : Issue) :
    l.Displays id i (l.showIssue id i) :=
  ⟨rfl, rfl, rfl, rfl, rfl⟩

/-- The view of a group and the look-ups of a ledger say the same. -/
structure ViewAgrees (l : Ledger) (c : Catalogue) (g : ProfileGroup) : Prop where
  /-- an issue is shown if it is found and a reporting source covers its place -/
  listed : ∀ id, (∃ shown ∈ (l.view c g).issues, shown.id = id) ↔
    (l.issue? id).isSome ∧
      ∃ s ∈ c.sources, s.kind ≠ .static ∧ s.id = id.source ∧ s.covers g id.user = true
  once : ((l.view c g).issues.map (·.id)).Nodup
  content : ∀ shown ∈ (l.view c g).issues, ∃ i, l.issue? shown.id = some i ∧
    l.Displays shown.id i shown
  /-- an action is found if it is shown and not shown as resolving and in flight at once -/
  actions : ∀ shown ∈ (l.view c g).issues, ∀ id : ActionId, id.issue = shown.id →
    ((l.action? id).isSome ↔ (∃ a ∈ shown.actions, a.id = id) ∧
      ∀ a ∈ shown.actions, a.id = id → ¬ (a.resolves = true ∧ a.inFlight = true))

theorem Sound.exists_shown_iff (sound : l.Sound) {id : IssueId} :
    (∃ shown ∈ (l.view c g).issues, shown.id = id) ↔
      (l.issue? id).isSome ∧
        ∃ s ∈ c.sources, s.kind ≠ .static ∧ s.id = id.source ∧ s.covers g id.user = true := by
  simp only [view, View.mem_rankIssues]
  rw [View.exists_mem_keepFirst]
  constructor
  · intro given
    obtain ⟨shown, member, rfl⟩ := given
    obtain ⟨⟨s, u⟩, pair, inside⟩ := List.mem_flatMap.mp member
    obtain ⟨i, there, place, -⟩ := sound.mem_shownIssues.mp inside
    obtain ⟨declared, reports, covers⟩ := Catalogue.mem_reportingPairs.mp pair
    have source : shown.id.source = s.id := congrArg Slot.source place
    have user : shown.id.user = u := congrArg Slot.user place
    rw [← user] at covers
    exact ⟨Option.isSome_of_eq_some there, s, declared, of_decide_eq_false reports, source.symm,
      covers⟩
  · intro given
    obtain ⟨found, s, declared, reports, source, covers⟩ := given
    obtain ⟨i, there⟩ := Option.isSome_iff_exists.mp found
    refine ⟨l.showIssue id i, List.mem_flatMap.mpr ⟨(s, id.user), ?_, ?_⟩, rfl⟩
    · exact Catalogue.mem_reportingPairs.mpr ⟨declared, decide_eq_false reports, covers⟩
    · refine sound.mem_shownIssues.mpr ⟨i, there, ?_, rfl⟩
      rw [source]
      rfl

theorem Sound.issue?_of_shown (sound : l.Sound) {shown : View.Issue}
    (member : shown ∈ (l.view c g).issues) :
    ∃ i, l.issue? shown.id = some i ∧ l.Displays shown.id i shown := by
  simp only [view, View.mem_rankIssues] at member
  have listed := (View.keepFirst_sublist _).mem member
  obtain ⟨⟨s, u⟩, -, inside⟩ := List.mem_flatMap.mp listed
  obtain ⟨i, there, -, same⟩ := sound.mem_shownIssues.mp inside
  refine ⟨i, there, ?_⟩
  have displays := l.displays_showIssue shown.id i
  rwa [← same] at displays

theorem Sound.action?_isSome_iff (sound : l.Sound) {shown : View.Issue} {id : ActionId} {i : Issue}
    (own : id.issue = shown.id) (there : l.issue? shown.id = some i)
    (displays : l.Displays shown.id i shown) :
    (l.action? id).isSome ↔ (∃ a ∈ shown.actions, a.id = id) ∧
      ∀ a ∈ shown.actions, a.id = id → ¬ (a.resolves = true ∧ a.inFlight = true) := by
  have found : l.issue? id.issue = some i := by rw [own, there]
  have shown_id : ∀ a : Action, (⟨shown.id, a.key⟩ : ActionId) = id ↔ a.key = id.actionKey := by
    intro a
    rw [← own]
    constructor
    · intro same
      rw [← same]
    · intro same
      rw [same]
  rw [Option.isSome_iff_exists, displays.actions]
  constructor
  · intro given
    obtain ⟨a, live⟩ := given
    obtain ⟨member, key, free⟩ := (sound.action?_eq_some_iff found).mp live
    refine ⟨⟨_, List.mem_map_of_mem member, (shown_id a).mpr key⟩, ?_⟩
    intro b listed same both
    obtain ⟨a', member', rfl⟩ := List.mem_map.mp listed
    -- the keys of an issue's actions are distinct, so this is the action that was found
    have key' : a'.key = id.actionKey := (shown_id a').mp same
    obtain ⟨r, valid, inside, -⟩ := sound.exists_report (issue?_eq_some_iff.mp there).2
    have first := (valid.action?_eq_some_iff inside).mpr ⟨member, key⟩
    have second := (valid.action?_eq_some_iff inside).mpr ⟨member', key'⟩
    rw [first] at second
    cases second
    dsimp only at same both
    rw [same] at both
    exact free ⟨both.1, of_decide_eq_true both.2⟩
  · intro given
    obtain ⟨⟨b, listed, same⟩, never⟩ := given
    obtain ⟨a, member, rfl⟩ := List.mem_map.mp listed
    refine ⟨a, (sound.action?_eq_some_iff found).mpr ⟨member, (shown_id a).mp same, ?_⟩⟩
    intro both
    obtain ⟨resolves, marked⟩ := both
    refine never _ (List.mem_map_of_mem member) same ⟨resolves, ?_⟩
    dsimp only at same ⊢
    rw [same]
    exact decide_eq_true marked

/-- After any operations, whatever the catalogue and the group, a view shows each issue that is
found in a place it covers once and nothing else, and tells which of its actions are found. -/
theorem run_viewAgrees (ops : List Operation) (c : Catalogue) (g : ProfileGroup) :
    ViewAgrees ((∅ : Ledger).run ops) c g := by
  have sound : ((∅ : Ledger).run ops).Sound := sound_empty.run ops
  constructor
  · intro id
    exact sound.exists_shown_iff
  · exact ((View.rankIssues_perm _).map _).nodup_iff.mpr (View.nodup_keepFirst _)
  · intro shown member
    exact sound.issue?_of_shown member
  · intro shown member id own
    obtain ⟨i, there, displays⟩ := sound.issue?_of_shown member
    exact sound.action?_isSome_iff own there displays

end SafetyCenter.Ledger
