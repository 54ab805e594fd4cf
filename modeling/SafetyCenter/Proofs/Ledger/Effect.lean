import SafetyCenter.Proofs.Ledger.Locality
import SafetyCenter.Proofs.Ledger.Presentation

set_option autoImplicit false

namespace SafetyCenter

def View.Entry.failed (place : Slot) (e : View.Entry) : View.Entry :=
  if e.place = place then { e with inError := true } else e

def View.Issue.launched (id : ActionId) (i : View.Issue) : View.Issue :=
  { i with actions := i.actions.map fun a => if a.id = id then { a with inFlight := true } else a }

namespace View

/-- Two views say the same of all places but one. -/
structure SameApart (place : Slot) (v w : View) : Prop where
  entries : w.entries.filter (·.place ≠ place) = v.entries.filter (·.place ≠ place)
  issues : w.issues.filter (·.id.slot ≠ place) = v.issues.filter (·.id.slot ≠ place)

/-- From one view to the next the entry of a place is one of a failure, and that is all. A place
that had an entry before keeps what else the entry says. -/
structure Fails (place : Slot) (v w : View) : Prop where
  others : w.entries.filter (·.place ≠ place) = v.entries.filter (·.place ≠ place)
  own : ∀ e ∈ w.entries, e.place = place → e.inError = true
  kept : (∃ e ∈ v.entries, e.place = place) → w.entries = v.entries.map (·.failed place)
  issues : w.issues = v.issues
  severity : w.severity = v.severity

/-- From one view to the next an issue is gone, and that is all but for the severity. -/
structure Drops (id : IssueId) (v w : View) : Prop where
  entries : w.entries = v.entries
  issues : w.issues = v.issues.filter (·.id ≠ id)
  severity : w.severity ≤ v.severity
  unknown : w.severity = .unknown ↔ v.severity = .unknown

/-- From one view to the next an action is in flight, and that is all. It was not in flight before,
and no other action goes by its id. -/
structure Launches (id : ActionId) (v w : View) : Prop where
  entries : w.entries = v.entries
  issues : w.issues = v.issues.map (·.launched id)
  severity : w.severity = v.severity
  waiting : ∀ i ∈ v.issues, ∀ a ∈ i.actions, a.id = id → a.inFlight = false
  once : ((v.issues.flatMap (·.actions)).map (·.id)).Nodup

end View

namespace Ledger

/-- What a deed does to a view. -/
def Deed.Alters (v w : View) : Deed → Prop
  | .reported place _ => v.SameApart place w
  | .failed place => v.Fails place w
  | .dismissed id => v.Drops id w
  | .launched id => v.Launches id w
  | .cleared => w = {}

variable {l m : Ledger} {c : Catalogue} {g : ProfileGroup}

/-- Ledgers that keep the same of all places but one have the same entries but for that place. -/
theorem entries_apart {place : Slot} (same : ∀ k, k ≠ place → k.SameIn m l) :
    (m.view c g).entries.filter (·.place ≠ place) =
      (l.view c g).entries.filter (·.place ≠ place) := by
  simp only [view, List.filter_filterMap]
  apply List.filterMap_congr
  intro pair _
  by_cases own : (⟨pair.1.id, pair.2⟩ : Slot) = place
  · have left_out : ∀ n : Ledger,
        (n.entryOf? pair.1 pair.2).filter (fun e => decide (e.place ≠ place)) = none := by
      intro n
      rw [Option.filter_eq_none_iff]
      intro e spoken
      simpa [place_of_entryOf? spoken] using own
    rw [left_out, left_out]
  · rw [entryOf?_congr (same _ own)]

/-- Ledgers that keep the same of all places but one show the same issues but for that place. -/
theorem shownIssues_apart {place : Slot} (same : ∀ k, k ≠ place → k.SameIn m l) (s : Source)
    (u : UserId) :
    (m.shownIssues s u).filter (·.id.slot ≠ place) =
      (l.shownIssues s u).filter (·.id.slot ≠ place) := by
  by_cases own : (⟨s.id, u⟩ : Slot) = place
  · have left_out : ∀ n : Ledger, (n.shownIssues s u).filter (·.id.slot ≠ place) = [] := by
      intro n
      rw [List.filter_eq_nil_iff]
      intro i member
      simpa [slot_of_mem_shownIssues member] using own
    rw [left_out, left_out]
  · rw [shownIssues_congr (same _ own)]

theorem Sound.issues_apart (sound : l.Sound) (sound' : m.Sound)
    (distinct : (c.sources.map (·.id)).Nodup) (g : ProfileGroup) {place : Slot}
    (same : ∀ k, k ≠ place → k.SameIn m l) :
    (m.view c g).issues.filter (·.id.slot ≠ place) =
      (l.view c g).issues.filter (·.id.slot ≠ place) := by
  rw [sound.issues_view distinct g, sound'.issues_view distinct g, ← flatMap_shownIssues,
    ← flatMap_shownIssues, ← View.rankIssues_filter, ← View.rankIssues_filter,
    List.filter_flatMap, List.filter_flatMap]
  simp only [shownIssues_apart same]

/-- The severity of a view depends on what was reported and on which issues are open. -/
theorem Sound.severity_view (sound : l.Sound) (distinct : (c.sources.map (·.id)).Nodup)
    (g : ProfileGroup) :
    (l.view c g).severity =
      if (c.scope g).any fun pair => (l.report? (placeOf pair)).isSome then
        Overall.gravest .ok (((c.scope g).filterMap fun pair => l.statusSeverity? pair.1 pair.2) ++
          (l.openIssues (c.scope g)).map (·.2.severity) |>.map Overall.ofSeverity)
      else
        .unknown := by
  have ids : (((l.openIssues (c.scope g)).map fun p => l.showIssue p.1 p.2).map (·.id)).Nodup := by
    rw [List.map_map]
    exact sound.nodup_openIssues (Catalogue.nodup_places distinct g)
  simp only [view, Catalogue.reportingPairs_eq_scope]
  rw [flatMap_shownIssues, View.keepFirst_of_nodup ids, List.map_map]
  rfl

/-- An accepted report says nothing of other places. -/
theorem Sound.sameApart_submit (sound : l.Sound) (distinct : (c.sources.map (·.id)).Nodup)
    (g : ProfileGroup) (c' : Catalogue) (g' : ProfileGroup) (place : Slot)
    (report : Option Report) :
    (l.view c g).SameApart place ((l.submit c' g' place report).ledger.view c g) := by
  have sound' : (l.submit c' g' place report).ledger.Sound :=
    sound.perform (.submit c' g' place report)
  have same := (local_submit c' g' place report).frame l
  exact ⟨entries_apart same, sound.issues_apart sound' distinct g same⟩

theorem entries_view (l : Ledger) (c : Catalogue) (g : ProfileGroup) :
    (l.view c g).entries = ((c.scope g).filter l.speaks).map l.entry := by
  simp only [view, Catalogue.reportingPairs_eq_scope]
  exact filterMap_entryOf? l (c.scope g)

theorem entry_insert (l : Ledger) (place : Slot) (pair : Source × UserId) :
    { l with failing := l.failing.insert place : Ledger }.entry pair =
      (l.entry pair).failed place := by
  have status : { l with failing := l.failing.insert place : Ledger }.status? pair =
      l.status? pair := rfl
  by_cases own : placeOf pair = place
  · have here : (l.entry pair).place = place := own
    rw [View.Entry.failed, if_pos here]
    simp [entry, status, own]
  · have elsewhere : (l.entry pair).place ≠ place := own
    rw [View.Entry.failed, if_neg elsewhere]
    simp [entry, status, own]

theorem speaks_insert (l : Ledger) (place : Slot) (pair : Source × UserId) :
    { l with failing := l.failing.insert place : Ledger }.speaks pair =
      (l.speaks pair || decide (placeOf pair = place)) := by
  have status : { l with failing := l.failing.insert place : Ledger }.status? pair =
      l.status? pair := rfl
  simp only [speaks, status, Distinct.mem_insert, Bool.decide_or]
  ac_rfl

/-- A place that fails is shown as one that fails. -/
theorem fails_insert (l : Ledger) (distinct : (c.sources.map (·.id)).Nodup) (g : ProfileGroup)
    (place : Slot) :
    (l.view c g).Fails place
      ({ l with failing := l.failing.insert place : Ledger }.view c g) where
  others := by
    apply entries_apart
    intro k elsewhere
    exact ⟨rfl, by simp [elsewhere], fun _ _ => Iff.rfl, fun _ _ => Iff.rfl⟩
  own := by
    intro e member here
    rw [entries_view] at member
    obtain ⟨pair, -, rfl⟩ := List.mem_map.mp member
    have own : placeOf pair = place := here
    simp [entry, own]
  kept := by
    intro given
    obtain ⟨e, member, here⟩ := given
    rw [entries_view] at member
    obtain ⟨pair, listed, rfl⟩ := List.mem_map.mp member
    obtain ⟨inScope, spoken⟩ := List.mem_filter.mp listed
    -- the place has one pair, and this pair had an entry before
    have speakers : ∀ other ∈ c.scope g,
        { l with failing := l.failing.insert place : Ledger }.speaks other = l.speaks other := by
      intro other inScope'
      rw [speaks_insert]
      by_cases own : placeOf other = place
      · have same := List.inj_on_of_nodup_map (Catalogue.nodup_places distinct g) inScope' inScope
          (own.trans here.symm)
        rw [same, spoken, Bool.true_or]
      · rw [decide_eq_false own, Bool.or_false]
    rw [entries_view, entries_view, List.filter_congr speakers, List.map_map]
    exact List.map_congr_left fun other _ => entry_insert l place other
  issues := rfl
  severity := rfl

/-- The issues of a place are open but for one that was dismissed. -/
theorem openAt_insert (l : Ledger) (id : IssueId) (place : Slot) :
    { l with dismissed := l.dismissed.insert id : Ledger }.openAt place =
      (l.openAt place).filter (·.1 ≠ id) := by
  show ((l.report? place).toList.flatMap fun r =>
    (r.issues.map fun i => (r.issueId place i, i)).filter fun p => p.1 ∉ l.dismissed.insert id) = _
  rw [openAt, List.filter_flatMap]
  apply List.flatMap_congr
  intro r _
  rw [List.filter_filter]
  apply List.filter_congr
  intro p _
  simp [and_comm]

theorem openIssues_insert (l : Ledger) (id : IssueId) (pairs : List (Source × UserId)) :
    { l with dismissed := l.dismissed.insert id : Ledger }.openIssues pairs =
      (l.openIssues pairs).filter (·.1 ≠ id) := by
  rw [openIssues, openIssues, List.filter_flatMap]
  exact List.flatMap_congr fun pair _ => openAt_insert l id (placeOf pair)

/-- A dismissed issue is no longer shown. -/
theorem Sound.drops_dismiss (sound : l.Sound) (distinct : (c.sources.map (·.id)).Nodup)
    (g : ProfileGroup) {id : IssueId} {i : Issue} (found : l.issue? id = some i) :
    (l.view c g).Drops id
      ({ l with dismissed := l.dismissed.insert id : Ledger }.view c g) := by
  have sound' := sound.dismiss found
  set m : Ledger := { l with dismissed := l.dismissed.insert id } with dismissal
  have issues : (m.view c g).issues = (l.view c g).issues.filter (·.id ≠ id) := by
    rw [sound.issues_view distinct g, sound'.issues_view distinct g, openIssues_insert,
      ← View.rankIssues_filter, List.filter_map]
    rfl
  have unknown : (m.view c g).severity = .unknown ↔ (l.view c g).severity = .unknown := by
    rw [view_severity_eq_unknown_iff, view_severity_eq_unknown_iff]
    rfl
  -- what the view has still to be as grave as, it had to be as grave as before
  have weighs : ∀ x, Weighs m (c.scope g) (m.view c g) x → Weighs l (c.scope g) (l.view c g) x := by
    intro x given
    cases given with
    | ok => exact .ok
    | status member counts => exact .status member counts
    | issue listed =>
      rw [issues] at listed
      exact .issue (List.mem_filter.mp listed).1
  refine ⟨rfl, issues, ?_, unknown⟩
  by_cases known : (m.view c g).severity = .unknown
  · rw [known, unknown.mp known]
    exact Nat.le_refl _
  · have grave := (m.view_severity_gravest c g known).1
    have before := mt unknown.mpr known
    exact (l.view_severity_gravest c g before).2 _ (weighs _ grave)

/-- The actions of a shown issue go by ids of their own, all of them within the issue. -/
theorem Sound.actions_view (sound : l.Sound) {shown : View.Issue}
    (member : shown ∈ (l.view c g).issues) :
    (shown.actions.map (·.id)).Nodup ∧ ∀ a ∈ shown.actions,
      a.id.issue = shown.id ∧ a.inFlight = decide (a.id ∈ l.inFlight) := by
  obtain ⟨i, there, displays⟩ := sound.issue?_of_shown member
  obtain ⟨r, valid, inside, -⟩ := sound.exists_report (issue?_eq_some_iff.mp there).2
  rw [displays.actions]
  constructor
  · rw [List.map_map]
    apply List.Nodup.of_map ActionId.actionKey
    rw [List.map_map]
    exact (valid.actions i inside).distinct
  · intro a listed
    obtain ⟨b, -, rfl⟩ := List.mem_map.mp listed
    exact ⟨rfl, rfl⟩

/-- No two actions of a view go by the same id. -/
theorem Sound.nodup_actions_view (sound : l.Sound) (distinct : (c.sources.map (·.id)).Nodup)
    (g : ProfileGroup) : (((l.view c g).issues.flatMap (·.actions)).map (·.id)).Nodup := by
  have ids : ((l.view c g).issues.map (·.id)).Nodup := by
    rw [sound.issues_view distinct g, ((View.rankIssues_perm _).map _).nodup_iff, List.map_map]
    exact sound.nodup_openIssues (Catalogue.nodup_places distinct g)
  rw [List.map_flatMap, List.Nodup, List.pairwise_flatMap]
  constructor
  · intro shown member
    exact (sound.actions_view member).1
  · refine (List.pairwise_map.mp ids).imp_of_mem ?_
    intro first second inFirst inSecond other id left id' right same
    obtain ⟨a, listed, rfl⟩ := List.mem_map.mp left
    obtain ⟨b, listed', rfl⟩ := List.mem_map.mp right
    apply other
    rw [← ((sound.actions_view inFirst).2 a listed).1, same,
      ((sound.actions_view inSecond).2 b listed').1]

theorem showIssue_insert (l : Ledger) (id : ActionId) (issue : IssueId) (i : Issue) :
    { l with inFlight := l.inFlight.insert id : Ledger }.showIssue issue i =
      (l.showIssue issue i).launched id := by
  simp only [showIssue, View.Issue.launched, List.map_map]
  congr 1
  apply List.map_congr_left
  intro a _
  by_cases here : (⟨issue, a.key⟩ : ActionId) = id
  · simp [showAction, here]
  · simp [showAction, here]

/-- A launched action is shown as in flight. -/
theorem Sound.launches_launch (sound : l.Sound) (distinct : (c.sources.map (·.id)).Nodup)
    (g : ProfileGroup) {id : ActionId} {a : Action} (found : l.action? id = some a)
    (resolves : a.resolves = true) :
    (l.view c g).Launches id
      ({ l with inFlight := l.inFlight.insert id : Ledger }.view c g) := by
  have sound' := sound.launch found
  have keeps : ∀ i : View.Issue, (i.launched id).severity = i.severity := fun _ => rfl
  refine ⟨rfl, ?_, ?_, ?_, sound.nodup_actions_view distinct g⟩
  · rw [sound.issues_view distinct g, sound'.issues_view distinct g, ← View.rankIssues_map keeps,
      List.map_map]
    simp only [showIssue_insert]
    rfl
  · rw [sound.severity_view distinct g, sound'.severity_view distinct g]
    rfl
  · intro shown member b listed same
    rw [((sound.actions_view member).2 b listed).2, same]
    exact decide_eq_false (not_inFlight_of_action? found resolves)

/-- Where nothing is tracked nothing is shown. -/
theorem view_empty (c : Catalogue) (g : ProfileGroup) : (∅ : Ledger).view c g = {} := by
  have silent : ∀ pair : Source × UserId, (∅ : Ledger).entryOf? pair.1 pair.2 = none := by
    intro pair
    simp [entryOf?, report?_empty, not_failing_empty]
  have quiet : ((c.reportingPairs g).flatMap fun pair =>
      (∅ : Ledger).shownIssues pair.1 pair.2) = [] := by
    simp [shownIssues, report?_empty]
  simp [view, silent, quiet, report?_empty, View.keepFirst, View.rankIssues]

/-- An operation that took effect alters a view as its deed says. -/
theorem Sound.perform_alters (sound : l.Sound) (distinct : (c.sources.map (·.id)).Nodup)
    (g : ProfileGroup) {op : Operation} {deed : Deed}
    (done : op.deed? (op.perform l).answer = some deed) :
    deed.Alters (l.view c g) ((op.perform l).ledger.view c g) := by
  cases op with
  | submit c' g' place report =>
    cases taken : (l.submit c' g' place report).answer with
    | error e => simp [Operation.perform, taken, Operation.deed?] at done
    | ok changed =>
      simp only [Operation.perform, taken, Operation.deed?, Option.some.injEq] at done
      subst done
      exact sound.sameApart_submit distinct g c' g' place report
  | reportFailure c' g' place event =>
    rcases reportFailure_cases l c' g' place event with ⟨e, taken, -⟩ | ⟨note, taken, ledger⟩
    · simp [Operation.perform, taken, Operation.deed?] at done
    · simp only [Operation.perform, taken, Operation.deed?, Option.some.injEq] at done
      subst done
      rw [Operation.perform, ledger]
      exact fails_insert l distinct g place
  | dismiss id =>
    rcases dismiss_cases l id with ⟨refused, -⟩ | ⟨taken, ledger, i, found⟩
    · simp [Operation.perform, refused, Operation.deed?] at done
    · simp only [Operation.perform, taken, Operation.deed?, Option.some.injEq] at done
      subst done
      rw [Operation.perform, ledger]
      exact sound.drops_dismiss distinct g found
  | launch id =>
    rcases launch_cases l id with ⟨refused, -⟩ | ⟨taken, ledger, a, found, resolves⟩
    · simp [Operation.perform, refused, Operation.deed?] at done
    · simp only [Operation.perform, taken, Operation.deed?, Option.some.injEq] at done
      subst done
      rw [Operation.perform, ledger]
      exact sound.launches_launch distinct g found resolves
  | clear =>
    simp only [Operation.perform, Operation.deed?, Option.some.injEq] at done
    subst done
    exact view_empty c g

/-- After any operations, one more that takes effect alters the view of any group, under a catalogue
that declares no source twice, only as its deed says. -/
theorem run_alters (ops : List Operation) {c : Catalogue} (distinct : (c.sources.map (·.id)).Nodup)
    (g : ProfileGroup) {op : Operation} {deed : Deed}
    (done : op.deed? (op.perform ((∅ : Ledger).run ops)).answer = some deed) :
    deed.Alters (((∅ : Ledger).run ops).view c g)
      ((op.perform ((∅ : Ledger).run ops)).ledger.view c g) :=
  (sound_empty.run ops).perform_alters distinct g done

/-- Of two issues of one severity the first is dismissed, and the other one stays where it is. -/
theorem run_alters_of_dismissal :
    let c : Catalogue := ⟨[{ id := ⟨"lock"⟩ }, { id := ⟨"scan"⟩, kind := .issueOnly }]⟩
    let g : ProfileGroup := .single ⟨1⟩
    let weak : Issue := { key := "weak", severity := .recommendation }
    let virus : Issue := { key := "virus", severity := .criticalWarning }
    let worm : Issue := { key := "worm", severity := .criticalWarning }
    let lock : Report := { session := "first", issues := [weak] }
    let scan : Report := { session := "first", issues := [virus, worm] }
    let ops : List Operation :=
      [.submit c g ⟨⟨"lock"⟩, ⟨1⟩⟩ (some lock), .submit c g ⟨⟨"scan"⟩, ⟨1⟩⟩ (some scan)]
    let id : IssueId := scan.issueId ⟨⟨"scan"⟩, ⟨1⟩⟩ virus
    let l := (∅ : Ledger).run ops
    let v := l.view c g
    let w := ((Operation.dismiss id).perform l).ledger.view c g
    ((c.sources.map (·.id)).Nodup ∧
      (Operation.dismiss id).deed? ((Operation.dismiss id).perform l).answer =
        some (.dismissed id)) ∧
    v.issues.map (·.id.issueKey) = ["virus", "worm", "weak"] ∧
    w.issues.map (·.id.issueKey) = ["worm", "weak"] ∧ v.Drops id w := by
  intro c g weak virus worm lock scan ops id l v w
  have distinct : (c.sources.map (·.id)).Nodup := by decide
  have done : (Operation.dismiss id).deed? ((Operation.dismiss id).perform l).answer =
      some (.dismissed id) := rfl
  have alters := run_alters ops distinct g done
  exact ⟨⟨distinct, done⟩, by decide, by decide, alters⟩

end Ledger

end SafetyCenter
