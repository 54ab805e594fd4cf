import Mathlib.Data.List.Forall2
import Mathlib.Data.List.Nodup
import SafetyCenter.Proofs.Ledger.Lookup

set_option autoImplicit false

namespace SafetyCenter

def placeOf (pair : Source × UserId) : Slot :=
  ⟨pair.1.id, pair.2⟩

namespace Catalogue

/-- The pairs in scope: the sources that are not static as they are declared, and for each the users
that it covers, the primary user first. -/
def scope (c : Catalogue) (g : ProfileGroup) : List (Source × UserId) :=
  c.sources.flatMap fun s =>
    if s.kind = .static then []
    else ((g.primary :: g.profiles).filter (s.covers g)).map fun u => (s, u)

theorem reportingPairs_eq_scope (c : Catalogue) (g : ProfileGroup) :
    c.reportingPairs g = c.scope g := by
  obtain ⟨sources⟩ := c
  unfold reportingPairs reporting scope
  dsimp only
  induction sources with
  | nil => rfl
  | cons s ss ih =>
    rw [List.filter_cons, List.flatMap_cons, ← ih]
    by_cases static : s.kind = .static
    · simp [Source.isStatic, static]
    · simp [Source.isStatic, static, Source.coveredUsers, ProfileGroup.users]

/-- If no source is declared twice, each pair has a place of its own. -/
theorem nodup_places {c : Catalogue} (distinct : (c.sources.map (·.id)).Nodup) (g : ProfileGroup) :
    ((c.scope g).map placeOf).Nodup := by
  have sources : c.sources.Pairwise fun s t => s.id ≠ t.id := List.pairwise_map.mp distinct
  rw [List.Nodup, List.pairwise_map, scope, List.pairwise_flatMap]
  constructor
  · intro s declared
    split
    · exact List.Pairwise.nil
    · rw [List.pairwise_map]
      refine (g.nodup.filter _).imp ?_
      intro u v other same
      exact other (congrArg Slot.user same)
  · refine sources.imp ?_
    intro s t other first left second right same
    have fromFirst : first.1 = s := by
      split at left
      · cases left
      · obtain ⟨u, -, rfl⟩ := List.mem_map.mp left
        rfl
    have fromSecond : second.1 = t := by
      split at right
      · cases right
      · obtain ⟨u, -, rfl⟩ := List.mem_map.mp right
        rfl
    apply other
    rw [← fromFirst, ← fromSecond]
    exact congrArg Slot.source same

end Catalogue

namespace Ledger

def status? (l : Ledger) (pair : Source × UserId) : Option Status :=
  if pair.1.kind = .issueOnly then none else (l.report? (placeOf pair)).bind (·.status)

/-- Whether there is anything to say of a source for a user: it fails, or it has a status. -/
def speaks (l : Ledger) (pair : Source × UserId) : Bool :=
  decide (placeOf pair ∈ l.failing) || (l.status? pair).isSome

/-- What is said of a source for a user. Without a status its declared title stands alone. -/
def entry (l : Ledger) (pair : Source × UserId) : View.Entry :=
  { source := pair.1.id
    user := pair.2
    title := ((l.status? pair).map (·.title)).getD pair.1.title
    summary := ((l.status? pair).map (·.summary)).getD ""
    severity := ((l.status? pair).map (·.severity)).getD .unspecified
    inError := decide (placeOf pair ∈ l.failing) }

/-- The issues of the report of a place that were not dismissed, under their ids. -/
def openAt (l : Ledger) (place : Slot) : List (IssueId × Issue) :=
  (l.report? place).toList.flatMap fun r =>
    (r.issues.map fun i => (r.issueId place i, i)).filter fun p => p.1 ∉ l.dismissed

def openIssues (l : Ledger) (pairs : List (Source × UserId)) : List (IssueId × Issue) :=
  pairs.flatMap fun pair => l.openAt (placeOf pair)

/-- What the severity of a view has to be as grave as. -/
inductive Weighs (l : Ledger) (pairs : List (Source × UserId)) (v : View) : Overall → Prop where
  | ok : Weighs l pairs v .ok
  | status {pair : Source × UserId} (member : pair ∈ pairs) {status : Status}
      (counts : l.status? pair = some status) : Weighs l pairs v (.ofSeverity status.severity)
  | issue {shown : View.Issue} (listed : shown ∈ v.issues) :
      Weighs l pairs v (.ofSeverity shown.severity)

/-- A view shows what a ledger keeps of pairs. -/
structure Presents (l : Ledger) (pairs : List (Source × UserId)) (v : View) : Prop where
  entries : v.entries = (pairs.filter l.speaks).map l.entry
  /-- each open issue is shown, once, and nothing else is -/
  complete : (v.issues.map (·.id)).Perm ((l.openIssues pairs).map Prod.fst)
  once : (v.issues.map (·.id)).Nodup
  ranked : v.issues.Pairwise fun a b => b.severity ≤ a.severity
  /-- issues of one severity come in the order of the pairs and then of the reports -/
  ties : ∀ severity, List.Forall₂ (fun p shown => l.Displays p.1 p.2 shown)
    ((l.openIssues pairs).filter (·.2.severity = severity))
    (v.issues.filter (·.severity = severity))
  unknown : v.severity = .unknown ↔ ∀ pair ∈ pairs, l.report? (placeOf pair) = none
  gravest : v.severity ≠ .unknown →
    Weighs l pairs v v.severity ∧ ∀ x, Weighs l pairs v x → x ≤ v.severity

variable {l : Ledger} {pairs : List (Source × UserId)}

theorem countedStatus_eq (l : Ledger) (pair : Source × UserId) :
    (l.report? ⟨pair.1.id, pair.2⟩).bind (countedStatus? pair.1) = l.status? pair := by
  unfold status? placeOf
  split
  · rename_i silent
    cases l.report? ⟨pair.1.id, pair.2⟩ with
    | none => rfl
    | some r => simp [countedStatus?, silent]
  · rename_i heard
    cases l.report? ⟨pair.1.id, pair.2⟩ with
    | none => rfl
    | some r => simp [countedStatus?, heard]

theorem entryOf?_eq (l : Ledger) (pair : Source × UserId) :
    l.entryOf? pair.1 pair.2 = if l.speaks pair then some (l.entry pair) else none := by
  unfold entryOf? speaks entry
  dsimp only
  rw [countedStatus_eq]
  cases l.status? pair with
  | some status =>
    rw [Option.isSome_some, Bool.or_true, if_pos rfl]
    rfl
  | none =>
    by_cases fails : placeOf pair ∈ l.failing
    · have fails' : (⟨pair.1.id, pair.2⟩ : Slot) ∈ l.failing := fails
      simp [fails, fails']
    · have works' : (⟨pair.1.id, pair.2⟩ : Slot) ∉ l.failing := fails
      simp [fails, works']

theorem filterMap_entryOf? (l : Ledger) (pairs : List (Source × UserId)) :
    (pairs.filterMap fun pair => l.entryOf? pair.1 pair.2) =
      (pairs.filter l.speaks).map l.entry := by
  induction pairs with
  | nil => rfl
  | cons pair pairs ih =>
    rw [List.filterMap_cons, List.filter_cons, entryOf?_eq, ih]
    cases l.speaks pair with
    | true => rfl
    | false => rfl

theorem shownIssues_eq (l : Ledger) (pair : Source × UserId) :
    l.shownIssues pair.1 pair.2 =
      (l.openAt (placeOf pair)).map fun p => l.showIssue p.1 p.2 := by
  unfold shownIssues openAt placeOf
  dsimp only
  cases l.report? ⟨pair.1.id, pair.2⟩ with
  | none => rfl
  | some r => simp [List.filter_map, Function.comp_def]

theorem flatMap_shownIssues (l : Ledger) (pairs : List (Source × UserId)) :
    (pairs.flatMap fun pair => l.shownIssues pair.1 pair.2) =
      (l.openIssues pairs).map fun p => l.showIssue p.1 p.2 := by
  rw [openIssues, List.map_flatMap]
  exact List.flatMap_congr fun pair _ => shownIssues_eq l pair

theorem slot_of_mem_openAt {place : Slot} {p : IssueId × Issue} (member : p ∈ l.openAt place) :
    p.1.slot = place := by
  obtain ⟨r, -, inside⟩ := List.mem_flatMap.mp member
  obtain ⟨i, -, rfl⟩ := List.mem_map.mp (List.mem_filter.mp inside).1
  rfl

/-- The issues of one place have ids of their own, since those of a valid report have keys of their
own. -/
theorem Sound.nodup_openAt (sound : l.Sound) (place : Slot) :
    ((l.openAt place).map Prod.fst).Nodup := by
  unfold openAt
  cases stored : l.report? place with
  | none => exact List.nodup_nil
  | some r =>
    have keys : (r.issues.map Issue.key).Nodup := (sound.valid place r stored).issues.distinct
    have ids : (r.issues.map (r.issueId place)).Nodup := by
      apply List.Nodup.of_map IssueId.issueKey
      rw [List.map_map]
      exact keys
    have all : ((r.issues.map fun i => (r.issueId place i, i)).map Prod.fst).Nodup := by
      rw [List.map_map]
      exact ids
    rw [Option.toList_some, List.flatMap_singleton]
    exact all.sublist (List.filter_sublist.map Prod.fst)

theorem Sound.nodup_openIssues (sound : l.Sound) (apart : (pairs.map placeOf).Nodup) :
    ((l.openIssues pairs).map Prod.fst).Nodup := by
  rw [openIssues, List.map_flatMap, List.Nodup, List.pairwise_flatMap]
  constructor
  · intro pair _
    exact sound.nodup_openAt (placeOf pair)
  · refine (List.pairwise_map.mp apart).imp ?_
    intro first second other id left id' right same
    obtain ⟨p, inFirst, rfl⟩ := List.mem_map.mp left
    obtain ⟨q, inSecond, rfl⟩ := List.mem_map.mp right
    apply other
    rw [← slot_of_mem_openAt inFirst, ← slot_of_mem_openAt inSecond, same]

/-- Among issues with ids of their own none is left out of a view. -/
theorem Sound.issues_view (sound : l.Sound) {c : Catalogue}
    (distinct : (c.sources.map (·.id)).Nodup) (g : ProfileGroup) :
    (l.view c g).issues =
      View.rankIssues ((l.openIssues (c.scope g)).map fun p => l.showIssue p.1 p.2) := by
  have ids : (((l.openIssues (c.scope g)).map fun p => l.showIssue p.1 p.2).map (·.id)).Nodup := by
    rw [List.map_map]
    exact sound.nodup_openIssues (Catalogue.nodup_places distinct g)
  simp only [view, Catalogue.reportingPairs_eq_scope]
  rw [flatMap_shownIssues, View.keepFirst_of_nodup ids]

theorem forall₂_map_displays (l : Ledger) (ps : List (IssueId × Issue)) :
    List.Forall₂ (fun p shown => l.Displays p.1 p.2 shown) ps
      (ps.map fun p => l.showIssue p.1 p.2) := by
  rw [List.forall₂_map_right_iff, List.forall₂_same]
  intro p _
  exact l.displays_showIssue p.1 p.2

/-- The severities that a view is made from are those that it has to be as grave as. -/
theorem weighs_iff {v : View} {issues : List View.Issue}
    (same : ∀ shown, shown ∈ v.issues ↔ shown ∈ issues) {x : Overall} :
    Weighs l pairs v x ↔
      x = .ok ∨ x ∈ ((pairs.filterMap fun pair => l.statusSeverity? pair.1 pair.2) ++
        issues.map (·.severity)).map Overall.ofSeverity := by
  have severity : ∀ pair, l.statusSeverity? pair.1 pair.2 = (l.status? pair).map (·.severity) := by
    intro pair
    rw [statusSeverity?, countedStatus_eq]
  constructor
  · intro given
    cases given with
    | ok => exact Or.inl rfl
    | status member counts =>
      refine Or.inr (List.mem_map_of_mem (List.mem_append_left _ ?_))
      exact List.mem_filterMap.mpr ⟨_, member, by rw [severity, counts, Option.map_some]⟩
    | issue listed =>
      refine Or.inr (List.mem_map_of_mem (List.mem_append_right _ ?_))
      exact List.mem_map_of_mem ((same _).mp listed)
  · intro given
    rcases given with rfl | member
    · exact Weighs.ok
    · obtain ⟨s, inside, rfl⟩ := List.mem_map.mp member
      rcases List.mem_append.mp inside with status | issue
      · obtain ⟨pair, inScope, found⟩ := List.mem_filterMap.mp status
        rw [severity] at found
        obtain ⟨status, counts, rfl⟩ := Option.map_eq_some_iff.mp found
        exact Weighs.status inScope counts
      · obtain ⟨shown, listed, rfl⟩ := List.mem_map.mp issue
        exact Weighs.issue ((same shown).mpr listed)

/-- If anything is reported, the severity of a view is the gravest of what it has to be as grave
as. -/
theorem view_severity (l : Ledger) (c : Catalogue) (g : ProfileGroup) :
    ∃ weights, (∀ x, Weighs l (c.scope g) (l.view c g) x ↔ x = .ok ∨ x ∈ weights) ∧
      (l.view c g).severity =
        if (c.scope g).any fun pair => (l.report? (placeOf pair)).isSome then
          Overall.gravest .ok weights
        else
          .unknown := by
  have same : ∀ shown, shown ∈ (l.view c g).issues ↔ shown ∈ View.keepFirst
      ((c.scope g).flatMap fun pair => l.shownIssues pair.1 pair.2) := by
    intro shown
    simp only [view, View.mem_rankIssues, Catalogue.reportingPairs_eq_scope]
  refine ⟨_, fun x => weighs_iff same, ?_⟩
  simp only [view, Catalogue.reportingPairs_eq_scope]
  rfl

theorem view_severity_eq_unknown_iff (l : Ledger) (c : Catalogue) (g : ProfileGroup) :
    (l.view c g).severity = .unknown ↔ ∀ pair ∈ c.scope g, l.report? (placeOf pair) = none := by
  obtain ⟨weights, -, severity⟩ := l.view_severity c g
  rw [severity]
  split
  · rename_i reported
    obtain ⟨pair, member, there⟩ := List.any_eq_true.mp reported
    constructor
    · intro unknown
      have least := (Overall.le_gravest .ok weights).1
      rw [unknown] at least
      exact absurd least (by decide)
    · intro absent
      rw [absent pair member] at there
      cases there
  · rename_i unreported
    refine ⟨fun _ pair member => ?_, fun _ => rfl⟩
    cases stored : l.report? (placeOf pair) with
    | none => rfl
    | some r =>
      refine absurd (List.any_eq_true.mpr ⟨pair, member, ?_⟩) unreported
      exact Option.isSome_of_eq_some stored

theorem view_severity_gravest (l : Ledger) (c : Catalogue) (g : ProfileGroup)
    (known : (l.view c g).severity ≠ .unknown) :
    Weighs l (c.scope g) (l.view c g) (l.view c g).severity ∧
      ∀ x, Weighs l (c.scope g) (l.view c g) x → x ≤ (l.view c g).severity := by
  obtain ⟨weights, weighs, severity⟩ := l.view_severity c g
  simp only [weighs]
  rw [severity] at known ⊢
  split at known
  · rename_i reported
    rw [if_pos reported]
    refine ⟨Overall.gravest_cases .ok weights, ?_⟩
    intro x member
    rcases member with rfl | member
    · exact (Overall.le_gravest .ok weights).1
    · exact (Overall.le_gravest .ok weights).2 x member
  · exact absurd rfl known

/-- After any operations the view of a group under a catalogue that declares no source twice shows
what the ledger keeps of the pairs in scope. -/
theorem run_presents (ops : List Operation) {c : Catalogue}
    (distinct : (c.sources.map (·.id)).Nodup) (g : ProfileGroup) :
    Presents ((∅ : Ledger).run ops) (c.scope g) (((∅ : Ledger).run ops).view c g) := by
  have sound : ((∅ : Ledger).run ops).Sound := sound_empty.run ops
  generalize (∅ : Ledger).run ops = l at sound
  have issues := sound.issues_view distinct g
  have complete : ((l.view c g).issues.map (·.id)).Perm
      ((l.openIssues (c.scope g)).map Prod.fst) := by
    rw [issues]
    have ranked := (View.rankIssues_perm
      ((l.openIssues (c.scope g)).map fun p => l.showIssue p.1 p.2)).map (·.id)
    rwa [List.map_map] at ranked
  exact {
    entries := by
      simp only [view, Catalogue.reportingPairs_eq_scope]
      exact filterMap_entryOf? l (c.scope g)
    complete := complete
    once := complete.nodup_iff.mpr (sound.nodup_openIssues (Catalogue.nodup_places distinct g))
    ranked := by
      rw [issues]
      exact View.pairwise_rankIssues _
    ties := by
      intro severity
      rw [issues, View.filter_rankIssues, List.filter_map]
      exact l.forall₂_map_displays _
    unknown := l.view_severity_eq_unknown_iff c g
    gravest := l.view_severity_gravest c g }

/-- A status that counts and one that does not, a failure without a report, a dismissed issue, and
issues of two sources that are ranked against each other. -/
theorem run_presents_of_two_sources :
    let c : Catalogue := ⟨[{ id := ⟨"lock"⟩, profile := .allProfiles, title := "Lock" },
      { id := ⟨"about"⟩, kind := .static }, { id := ⟨"scan"⟩, kind := .issueOnly }]⟩
    let g : ProfileGroup := .ofProfiles ⟨1⟩ [⟨10⟩]
    let weak : Issue := { key := "weak", severity := .recommendation }
    let old : Issue := { key := "old", severity := .information }
    let virus : Issue := { key := "virus", severity := .criticalWarning }
    let lock : Report :=
      { session := "first", issues := [weak, old]
        status := some ⟨"Lock", "Weak", .recommendation⟩ }
    let scan : Report :=
      { session := "first", status := some ⟨"Scan", "Found", .information⟩, issues := [virus] }
    let ops : List Operation :=
      [.submit c g ⟨⟨"lock"⟩, ⟨1⟩⟩ (some lock), .submit c g ⟨⟨"scan"⟩, ⟨1⟩⟩ (some scan),
        .reportFailure c g ⟨⟨"lock"⟩, ⟨10⟩⟩ ⟨.deviceRebooted, none⟩,
        .dismiss (lock.issueId ⟨⟨"lock"⟩, ⟨1⟩⟩ old)]
    let v := ((∅ : Ledger).run ops).view c g
    (c.sources.map (·.id)).Nodup ∧
    v.severity = .criticalWarning ∧ v.issues.map (·.id.issueKey) = ["virus", "weak"] ∧
    v.entries.map (fun e => (e.user, e.summary, e.inError)) =
      [(⟨1⟩, "Weak", false), (⟨10⟩, "", true)] ∧
    Presents ((∅ : Ledger).run ops) (c.scope g) v :=
  ⟨by decide, by decide, by decide, by decide, run_presents _ (by decide) _⟩

end Ledger

end SafetyCenter
