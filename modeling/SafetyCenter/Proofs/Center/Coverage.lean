import SafetyCenter.Proofs.Center.Inactivity
import SafetyCenter.Proofs.Ledger.Lookup

/-!
Nothing is kept that the catalogue in force has no place for. A place is checked when a report or a
failure comes in and never again, so what changes the catalogue has to throw everything out: a
replacement does so itself, and a catalogue that is loaded finds a center that holds nothing.
-/

set_option autoImplicit false

namespace SafetyCenter

namespace Ledger

/-- Something is kept for a place: a report, a failure, a dismissal or a mark. -/
inductive Occupies (l : Ledger) (place : Slot) : Prop where
  | report (r : Report) (stored : l.report? place = some r)
  | failure (member : place ∈ l.failing)
  | dismissal (id : IssueId) (member : id ∈ l.dismissed) (here : id.slot = place)
  | mark (id : ActionId) (member : id ∈ l.inFlight) (here : id.slot = place)

theorem not_occupies_empty (place : Slot) : ¬ (∅ : Ledger).Occupies place := by
  intro occupied
  cases occupied with
  | report r stored => cases stored
  | failure member => exact not_failing_empty place member
  | dismissal id member here => exact not_dismissed_empty id member
  | mark id member here => exact not_inFlight_empty id member

/-- What a marker means stands in the report of its place. -/
theorem Sound.occupies_iff {l : Ledger} (sound : l.Sound) {place : Slot} :
    l.Occupies place ↔ (∃ r, l.report? place = some r) ∨ place ∈ l.failing := by
  have reported : ∀ id : IssueId, (l.reportedIssue? id).isSome → ∃ r, l.report? id.slot = some r := by
    intro id means
    obtain ⟨i, found⟩ := Option.isSome_iff_exists.mp means
    obtain ⟨r, stored, -⟩ := Option.bind_eq_some_iff.mp found
    exact ⟨r, stored⟩
  constructor
  · intro occupied
    cases occupied with
    | report r stored => exact Or.inl ⟨r, stored⟩
    | failure member => exact Or.inr member
    | dismissal id member here =>
      rw [← here]
      exact Or.inl (reported id (sound.dismissed id member))
    | mark id member here =>
      rw [← here]
      obtain ⟨a, found⟩ := Option.isSome_iff_exists.mp (sound.inFlight id member)
      obtain ⟨i, there, -⟩ := Option.bind_eq_some_iff.mp found
      exact Or.inl (reported id.issue (Option.isSome_of_eq_some there))
  · intro given
    rcases given with ⟨r, stored⟩ | member
    · exact .report r stored
    · exact .failure member

def Operation.Brings (c : Catalogue) (g : ProfileGroup) (place : Slot) : Operation → Prop
  | .submit c' g' place' _ => c' = c ∧ g' = g ∧ place' = place
  | .reportFailure c' g' place' _ => c' = c ∧ g' = g ∧ place' = place
  | _ => False

/-- Only what is brought to a place and not refused occupies a place that was free. -/
theorem Sound.occupies_perform {l : Ledger} (sound : l.Sound) (op : Operation) {place : Slot}
    (occupied : (op.perform l).ledger.Occupies place) :
    l.Occupies place ∨ ∃ c g, op.Brings c g place ∧ refusal? c g place = none := by
  rw [(sound.perform op).occupies_iff] at occupied
  rw [sound.occupies_iff]
  cases op with
  | submit c g k report =>
    change (∃ r, (l.submit c g k report).ledger.report? place = some r) ∨
      place ∈ (l.submit c g k report).ledger.failing at occupied
    cases verdict : rejection? c g k report with
    | some e =>
      rw [submit_of_rejection l verdict] at occupied
      exact Or.inl occupied
    | none =>
      by_cases here : k = place
      · subst here
        exact Or.inr ⟨c, g, ⟨rfl, rfl, rfl⟩, (faultless_of_accepted verdict).1⟩
      · rcases submit_cases sound c g k report with ⟨e, -, same⟩ | ⟨changed, -, accepted⟩
        · rw [same] at occupied
          exact Or.inl occupied
        · rw [accepted.report, if_neg here, accepted.failing] at occupied
          exact Or.inl (occupied.imp_right And.left)
  | reportFailure c g k event =>
    change (∃ r, (l.reportFailure c g k event).ledger.report? place = some r) ∨
      place ∈ (l.reportFailure c g k event).ledger.failing at occupied
    cases verdict : refusal? c g k with
    | some e =>
      rw [reportFailure_of_refusal l verdict] at occupied
      exact Or.inl occupied
    | none =>
      rw [reportFailure_of_allowed l verdict] at occupied
      rcases occupied with reported | member
      · exact Or.inl (Or.inl reported)
      · rcases Distinct.mem_insert.mp member with before | rfl
        · exact Or.inl (Or.inr before)
        · exact Or.inr ⟨c, g, ⟨rfl, rfl, rfl⟩, verdict⟩
  | dismiss id =>
    refine Or.inl ?_
    change (∃ r, (l.dismiss id).ledger.report? place = some r) ∨
      place ∈ (l.dismiss id).ledger.failing at occupied
    rcases dismiss_cases l id with ⟨-, same, -⟩ | ⟨-, same, -⟩
    · rwa [same] at occupied
    · rwa [same] at occupied
  | launch id =>
    refine Or.inl ?_
    change (∃ r, (l.launch id).ledger.report? place = some r) ∨
      place ∈ (l.launch id).ledger.failing at occupied
    rcases launch_cases l id with ⟨-, same, -⟩ | ⟨-, same, -⟩
    · rwa [same] at occupied
    · rwa [same] at occupied
  | clear => exact absurd (sound_empty.occupies_iff.mpr occupied) (not_occupies_empty place)

end Ledger

/-- The catalogue in force declares the source of a place, not as a static one, and covers the user
of the place in the user's own group. -/
def Center.Covers (groups : Resolver) (s : Center) (place : Slot) : Prop :=
  ∃ g, groups place.user = some g ∧ ∃ source, s.catalogue.source? place.source = some source ∧
    source.isStatic = false ∧ source.covers g place.user = true

namespace Operation

variable {groups : Resolver}

/-- What an operation brings to a place is checked against the catalogue in force and the group of
the place's user. -/
theorem brings_of_onLedger? {s : Center} {op : Operation} {asked : Ledger.Operation}
    (asks : op.onLedger? groups s = some asked) {c : Catalogue} {g : ProfileGroup} {place : Slot}
    (brings : asked.Brings c g place) :
    c = s.catalogue ∧ groups place.user = some g := by
  have admitted : ∀ user, s.admitted? groups user = some g → groups user = some g := by
    intro user found
    unfold Center.admitted? at found
    split at found
    · exact found
    · cases found
  cases asked with
  | submit c' g' k report =>
    obtain ⟨rfl, rfl, rfl⟩ := brings
    obtain ⟨event, -, same, found⟩ := onLedger?_eq_submit_iff.mp asks
    exact ⟨same, admitted _ found⟩
  | reportFailure c' g' k event =>
    obtain ⟨rfl, rfl, rfl⟩ := brings
    cases op with
    | reportFailure source event' user =>
      obtain ⟨g'', found, same⟩ := Option.map_eq_some_iff.mp asks
      cases same
      exact ⟨rfl, admitted _ found⟩
    | _ => simp [onLedger?] at asks
  | dismiss id => cases brings
  | launch id => cases brings
  | clear => cases brings

/-- The catalogue in force stays, or nothing is kept in the ledger. -/
theorem perform_catalogue {s : Center} (tidy : s.Tidy) (op : Operation) :
    (op.perform groups s).center.catalogue = s.catalogue ∨
      (op.perform groups s).center.ledger = ∅ := by
  cases acts : op.actor? with
  | some user => exact Or.inl (congrArg Declarations.current (perform_setting groups s acts).2)
  | none =>
    have changed : ∀ replacement,
        (s.changeCatalogue replacement).center.catalogue = s.catalogue ∨
          (s.changeCatalogue replacement).center.ledger = ∅ := by
      intro replacement
      unfold Center.changeCatalogue
      split
      · exact Or.inl rfl
      · exact Or.inr rfl
    cases op with
    | start loaded =>
      cases there : s.declarations.isLoaded with
      | true => exact Or.inl (congrArg Declarations.current (Declarations.load_of_isLoaded there loaded))
      | false => exact Or.inr (tidy (s.isActive_eq_false_iff.mpr (Or.inr there))).ledger
    | overrideCatalogue c =>
      simp only [perform, Center.overrideCatalogue]
      split
      · exact Or.inl rfl
      · exact changed _
    | resetCatalogue => exact changed none
    | forgetReports => exact Or.inr rfl
    | showCatalogue =>
      rw [perform, s.showCatalogue_center]
      exact Or.inl rfl
    | isActive => exact Or.inl rfl
    | followToggle value =>
      simp only [perform, Center.followToggle]
      split
      · exact Or.inl rfl
      · exact Or.inl (congrArg Declarations.current (s.declarations_setEnabled value))
    | applyInitial value => exact Or.inl (congrArg Declarations.current (s.declarations_setEnabled value))
    | _ => cases acts

end Operation

namespace Center

/-- The ledger is sound, is empty while the center is not active, and keeps something only where the
catalogue in force has a place for it. -/
structure Housed (groups : Resolver) (s : Center) : Prop where
  sound : s.ledger.Sound
  tidy : s.Tidy
  covered : ∀ place, s.ledger.Occupies place → s.Covers groups place

theorem housed_built (groups : Resolver) (enabled : Bool) : Housed groups { enabled } where
  sound := Ledger.sound_empty
  tidy := fun _ => ⟨rfl, rfl⟩
  covered := fun place occupied => absurd occupied (Ledger.not_occupies_empty place)

theorem Housed.perform {groups : Resolver} {s : Center} (housed : s.Housed groups)
    (op : Operation) : (op.perform groups s).center.Housed groups := by
  have ledger : (op.perform groups s).center.ledger =
      s.ledger.run (op.onLedger? groups s).toList := (op.perform_follows s).ledger
  have catalogue : (op.perform groups s).center.catalogue = s.catalogue ∨
      (op.perform groups s).center.ledger = ∅ := op.perform_catalogue housed.tidy
  refine ⟨?_, (op.perform_settles s).tidy housed.tidy, fun place occupied => ?_⟩
  · rw [ledger]
    exact housed.sound.run _
  · rcases catalogue with catalogue | empty
    · unfold Covers
      rw [catalogue]
      cases asks : op.onLedger? groups s with
      | none =>
        rw [ledger, asks] at occupied
        exact housed.covered place occupied
      | some asked =>
        rw [ledger, asks] at occupied
        rcases housed.sound.occupies_perform asked occupied with before | ⟨c, g, brings, allowed⟩
        · exact housed.covered place before
        · obtain ⟨rfl, acts⟩ := Operation.brings_of_onLedger? asks brings
          exact ⟨g, acts, Ledger.refusal?_eq_none_iff.mp allowed⟩
    · rw [empty] at occupied
      exact absurd occupied (Ledger.not_occupies_empty place)

/-- What is stored and not dismissed is in the view of its own user. -/
theorem Housed.shown {groups : Resolver} {s : Center} (housed : s.Housed groups) {place : Slot}
    {r : Report} (stored : s.ledger.report? place = some r) {i : Issue} (member : i ∈ r.issues)
    (undismissed : r.issueId place i ∉ s.ledger.dismissed) :
    ∃ view, (s.showView groups place.user).answer = .ok (.view view) ∧
      ∃ shown ∈ view.issues, s.ledger.Displays (r.issueId place i) i shown := by
  obtain ⟨g, acts, source, declared, reports, covers⟩ := housed.covered place (.report r stored)
  have active : s.isActive = true := by
    by_contra inactive
    rw [(housed.tidy (Bool.eq_false_iff.mpr inactive)).ledger] at stored
    cases stored
  refine ⟨s.viewOf g, by simp only [showView, forGroup, acts, ifActive, active]; rfl, ?_⟩
  have there : s.ledger.issue? (r.issueId place i) = some i :=
    Ledger.issue?_eq_some_iff.mpr
      ⟨undismissed, housed.sound.reportedIssue?_eq_some_iff.mpr ⟨r, stored, member, rfl⟩⟩
  have named : source.id = place.source := by simpa using List.find?_some declared
  have listed : ∃ shown ∈ (s.viewOf g).issues, shown.id = r.issueId place i :=
    housed.sound.exists_shown_iff.mpr ⟨Option.isSome_of_eq_some there, source,
      List.mem_of_find?_eq_some declared, of_decide_eq_false reports, named, covers⟩
  obtain ⟨shown, listed, same⟩ := listed
  obtain ⟨i', there', displays⟩ := housed.sound.issue?_of_shown listed
  rw [same, there] at there'
  cases there'
  rw [same] at displays
  exact ⟨shown, listed, displays⟩

end Center

namespace Journal

/-- However operations interleave, catalogues are loaded and replaced and the center is switched, as
long as users keep their groups: whatever is kept for a place is kept for a source that the
catalogue in force declares, that is not static, and that covers the user of the place in the user's
own group. So each stored issue that was not dismissed is in the view of its own user. -/
theorem nothing_orphaned {j : Journal} {groups : Resolver} (reachable : j.Reachable)
    (fixed : ∀ v ∈ j.visits, v.groups = groups) :
    (∀ place, j.center.ledger.Occupies place → j.center.Covers groups place) ∧
    ∀ place r i, j.center.ledger.report? place = some r → i ∈ r.issues →
      r.issueId place i ∉ j.center.ledger.dismissed →
      ∃ view, (j.center.showView groups place.user).answer = .ok (.view view) ∧
        ∃ shown ∈ view.issues, j.center.ledger.Displays (r.issueId place i) i shown := by
  have housed : j.center.Housed groups :=
    (reachable.visited (P := fun s => s.Housed groups) (Center.housed_built groups)
      (fun _ metrics housed => ⟨housed.sound, housed.tidy.counted metrics, housed.covered⟩)
      (fun v same housed => by rw [Visit.outcome, same]; exact housed.perform v.op) fixed).1
  exact ⟨housed.covered, fun place r i stored member undismissed =>
    housed.shown stored member undismissed⟩

/-- A source reports, another catalogue replaces the loaded one, and a source of that reports for a
profile. What the first one said is gone, and what the second one says is shown to the profile. -/
theorem nothing_orphaned_of_replaced_catalogue :
    let groups : Resolver := fun _ => some (.ofProfiles ⟨1⟩ [⟨2⟩])
    let weak : Issue := { key := "weak", severity := .recommendation }
    let report : Report := { session := "first", issues := [weak] }
    let wifi : Source := { id := ⟨"wifi"⟩, profile := .allProfiles }
    let started := enter { center := {} } groups
      (.start (Catalogue.checked ⟨[{ id := ⟨"lock"⟩ }]⟩))
    let reported := started.enter groups
      (.submitReport ⟨"lock"⟩ (some report) ⟨.deviceRebooted, none⟩ ⟨1⟩)
    let replaced := reported.enter groups (.overrideCatalogue ⟨[wifi]⟩)
    let again := replaced.enter groups
      (.submitReport ⟨"wifi"⟩ (some report) ⟨.deviceRebooted, none⟩ ⟨2⟩)
    reported.center.ledger.Occupies ⟨⟨"lock"⟩, ⟨1⟩⟩ ∧
      ¬ again.center.ledger.Occupies ⟨⟨"lock"⟩, ⟨1⟩⟩ ∧
      again.center.Covers groups ⟨⟨"wifi"⟩, ⟨2⟩⟩ ∧
      ∃ view, (again.center.showView groups ⟨2⟩).answer = .ok (.view view) ∧
        ∃ shown ∈ view.issues,
          again.center.ledger.Displays (report.issueId ⟨⟨"wifi"⟩, ⟨2⟩⟩ weak) weak shown := by
  intro groups weak report wifi started reported replaced again
  have reachable : again.Reachable :=
    ((((Reachable.built true).step (.enter _ groups (.start _))).step
      (.enter _ groups (.submitReport _ _ _ _))).step
      (.enter _ groups (.overrideCatalogue _))).step (.enter _ groups (.submitReport _ _ _ _))
  have fixed : ∀ v ∈ again.visits, v.groups = groups := by
    rw [visits_enter, visits_enter, visits_enter, visits_enter]
    simp [visits]
  have before : reported.center.ledger.report? ⟨⟨"lock"⟩, ⟨1⟩⟩ = some report := by decide
  have stored : again.center.ledger.report? ⟨⟨"wifi"⟩, ⟨2⟩⟩ = some report := by decide
  obtain ⟨covered, shown⟩ := nothing_orphaned reachable fixed
  refine ⟨.report report before, fun occupied => ?_, covered _ (.report report stored),
    shown _ report weak stored (List.mem_singleton_self weak) (by decide)⟩
  obtain ⟨g, -, source, declared, -⟩ := covered _ occupied
  have unknown : again.center.catalogue.source? ⟨"lock"⟩ = none := by decide
  rw [unknown] at declared
  cases declared

end Journal

end SafetyCenter
