import Mathlib.Data.List.Forall2
import SafetyCenter.Proofs.Ledger.Locality

/-!
The status of an issue-only source. Runs that differ in such statuses alone show the same entries
and the same issues. Yet a status decides whether its report says anything at all, and a view of
which nothing is reported is of unknown severity: it is there that the statuses show.
-/

set_option autoImplicit false

namespace SafetyCenter

def Catalogue.Mutes (c : Catalogue) (source : SourceId) : Prop :=
  ∃ s, c.source? source = some s ∧ s.kind = .issueOnly

/-- In a catalogue that declares no source twice, each declaration is the one that is found. -/
theorem Catalogue.kind_of_mutes {c : Catalogue} (distinct : (c.sources.map (·.id)).Nodup)
    {s : Source} (declared : s ∈ c.sources) (mutes : c.Mutes s.id) : s.kind = .issueOnly := by
  obtain ⟨first, found, kind⟩ := mutes
  have own : c.source? s.id = some s := (find?_key_eq_some_iff distinct).mpr ⟨declared, rfl⟩
  rw [own] at found
  cases found
  exact kind

/-- Two views are the same, or they differ in that one of them finds nothing reported and the other
finds that all is well. -/
inductive View.SameButSilence (v w : View) : Prop where
  | same (equal : v = w)
  | first (unknown : v.severity = .unknown) (well : w = { v with severity := .ok })
  | second (unknown : w.severity = .unknown) (well : v = { w with severity := .ok })

namespace Ledger

/-- What is heard of a report whose status does not count: its issues, if it has any. -/
def heard (report : Option Report) : Option Report :=
  kept (report.map fun r => { r with status := none })

/-- Of a report without issues nothing is heard, whatever its status. -/
theorem heard_of_no_issues {r : Report} (issues : r.issues = []) : heard (some r) = none := by
  simp [heard, kept, Option.filter, Report.isEmpty, issues]

/-- What does not look at the status, and makes nothing of a report without issues, makes the same
of a report and of what is heard of it. -/
theorem elim_heard {β : Type} {f : Report → β} {nothing : β}
    (ignores : ∀ r status, f { r with status } = f r)
    (silent : ∀ r, r.issues = [] → f r = nothing) (report : Option Report) :
    (heard report).elim nothing f = report.elim nothing f := by
  cases report with
  | none => rfl
  | some r =>
    cases issues : r.issues with
    | nil =>
      rw [heard_of_no_issues issues]
      exact (silent r issues).symm
    | cons i is =>
      have whole : heard (some r) = some { r with status := none } := by
        simp [heard, kept, Option.filter, Report.isEmpty, issues]
      rw [whole]
      exact ignores r none

/-- Of a report that says nothing, nothing is heard. -/
theorem heard_kept (report : Option Report) : heard (kept report) = heard report := by
  cases report with
  | none => rfl
  | some r =>
    cases empty : r.isEmpty with
    | false => simp [kept, Option.filter, empty]
    | true =>
      have unkept : kept (some r) = none := by
        simp [kept, Option.filter, empty]
      rw [unkept, heard_of_no_issues (issues_of_isEmpty empty)]
      rfl

/-- What an issue id means does not depend on statuses. -/
theorem reportedIssue?_eq_of_heard {l m : Ledger} {id : IssueId}
    (same : heard (l.report? id.slot) = heard (m.report? id.slot)) :
    l.reportedIssue? id = m.reportedIssue? id := by
  have meant : ∀ k : Ledger, k.reportedIssue? id =
      (heard (k.report? id.slot)).elim none (·.lookup? id) := by
    intro k
    have silent : ∀ r : Report, r.issues = [] → r.lookup? id = none := by
      intro r issues
      simp [Report.lookup?, Report.issue?, issues]
    rw [elim_heard (fun _ _ => rfl) silent, reportedIssue?]
    cases k.report? id.slot <;> rfl
  rw [meant, meant, same]

theorem reportedAction?_eq_of_heard {l m : Ledger} {id : ActionId}
    (same : heard (l.report? id.slot) = heard (m.report? id.slot)) :
    l.reportedAction? id = m.reportedAction? id := by
  have issue : l.reportedIssue? id.issue = m.reportedIssue? id.issue :=
    reportedIssue?_eq_of_heard same
  rw [reportedAction?, reportedAction?, issue]

/-- A report is turned down for its issues, whatever its status. -/
theorem rejection?_withStatus (c : Catalogue) (g : ProfileGroup) (place : Slot) (r : Report)
    (status : Option Status) :
    rejection? c g place (some { r with status }) = rejection? c g place (some r) := by
  unfold rejection?
  rw [bind_kept, bind_kept]
  rfl

/-- Two ledgers differ at most in the statuses of sources whose status does not count. In a strict
comparison the same places have a report. -/
structure SoundsLike (c : Catalogue) (strict : Prop) (l m : Ledger) : Prop where
  audible : ∀ place, heard (l.report? place) = heard (m.report? place)
  report : ∀ place, ¬ c.Mutes place.source → l.report? place = m.report? place
  failing : ∀ place, place ∈ l.failing ↔ place ∈ m.failing
  dismissed : ∀ id, id ∈ l.dismissed ↔ id ∈ m.dismissed
  inFlight : ∀ id, id ∈ l.inFlight ↔ id ∈ m.inFlight
  places : strict → ∀ place, (l.report? place).isSome = (m.report? place).isSome

namespace SoundsLike

variable {c : Catalogue} {strict : Prop} {l m : Ledger}

theorem refl (c : Catalogue) (strict : Prop) (l : Ledger) : SoundsLike c strict l l :=
  ⟨fun _ => rfl, fun _ _ => rfl, fun _ => Iff.rfl, fun _ => Iff.rfl, fun _ => Iff.rfl,
    fun _ _ => rfl⟩

theorem issue? (alike : SoundsLike c strict l m) (id : IssueId) : l.issue? id = m.issue? id := by
  have meant := reportedIssue?_eq_of_heard (alike.audible id.slot)
  simp only [Ledger.issue?, alike.dismissed id, meant]

theorem action? (alike : SoundsLike c strict l m) (id : ActionId) : l.action? id = m.action? id := by
  simp only [Ledger.action?, alike.issue? id.issue, alike.inFlight id]

/-- Accepted reports that differ at most in a status that does not count. -/
theorem accepted (alike : SoundsLike c strict l m) {place : Slot} {report report' : Option Report}
    {l' m' : Ledger} (first : Accepted l place report l') (second : Accepted m place report' m')
    (same : heard report = heard report')
    (whole : ¬ c.Mutes place.source → report = report')
    (silent : strict → (kept report).isSome = (kept report').isSome) :
    SoundsLike c strict l' m' := by
  have audible : ∀ k, heard (l'.report? k) = heard (m'.report? k) := by
    intro k
    rw [first.report, second.report]
    split
    · rw [heard_kept, heard_kept, same]
    · exact alike.audible k
  refine ⟨audible, fun k counts => ?_, fun k => ?_, fun id => ?_, fun id => ?_, fun given k => ?_⟩
  · rw [first.report, second.report]
    split
    · rename_i here
      rw [whole (here ▸ counts)]
    · exact alike.report k counts
  · rw [first.failing, second.failing, alike.failing]
  · rw [first.dismissed, second.dismissed, alike.dismissed,
      reportedIssue?_eq_of_heard (audible id.slot)]
  · rw [first.inFlight, second.inFlight, alike.inFlight,
      reportedAction?_eq_of_heard (audible id.slot)]
  · rw [first.report, second.report]
    split
    · exact silent given
    · exact alike.places given k

theorem submit (alike : SoundsLike c strict l m) (soundL : l.Sound) (soundM : m.Sound) (d : Catalogue)
    (g : ProfileGroup) {place : Slot} {report report' : Option Report}
    (verdict : rejection? d g place report = rejection? d g place report')
    (same : heard report = heard report')
    (whole : ¬ c.Mutes place.source → report = report')
    (silent : strict → (kept report).isSome = (kept report').isSome) :
    SoundsLike c strict (l.submit d g place report).ledger (m.submit d g place report').ledger := by
  cases refused : rejection? d g place report with
  | some e =>
    rw [submit_of_rejection l refused, submit_of_rejection m (verdict ▸ refused)]
    exact alike
  | none =>
    have first := accepted_of_submit soundL refused
    have second := accepted_of_submit soundM (verdict ▸ refused)
    exact alike.accepted first second same whole silent

theorem reportFailure (alike : SoundsLike c strict l m) (d : Catalogue) (g : ProfileGroup) (place : Slot)
    (event : Event) :
    SoundsLike c strict (l.reportFailure d g place event).ledger
      (m.reportFailure d g place event).ledger := by
  cases refused : refusal? d g place with
  | some e =>
    rw [reportFailure_of_refusal l refused, reportFailure_of_refusal m refused]
    exact alike
  | none =>
    rw [reportFailure_of_allowed l refused, reportFailure_of_allowed m refused]
    refine { alike with failing := fun k => ?_ }
    rw [Distinct.mem_insert, Distinct.mem_insert, alike.failing]

theorem dismiss (alike : SoundsLike c strict l m) (id : IssueId) :
    SoundsLike c strict (l.dismiss id).ledger (m.dismiss id).ledger := by
  cases there : l.issue? id with
  | none =>
    rw [dismiss_of_missing there, dismiss_of_missing (alike.issue? id ▸ there)]
    exact alike
  | some i =>
    rw [dismiss_of_found there, dismiss_of_found (alike.issue? id ▸ there)]
    refine { alike with dismissed := fun other => ?_ }
    rw [Distinct.mem_insert, Distinct.mem_insert, alike.dismissed]

theorem launch (alike : SoundsLike c strict l m) (id : ActionId) :
    SoundsLike c strict (l.launch id).ledger (m.launch id).ledger := by
  by_cases there : ∃ a, l.action? id = some a ∧ a.resolves = true
  · obtain ⟨a, found, resolves⟩ := there
    rw [launch_of_found found resolves, launch_of_found (alike.action? id ▸ found) resolves]
    refine { alike with inFlight := fun other => ?_ }
    rw [Distinct.mem_insert, Distinct.mem_insert, alike.inFlight]
  · have missing := missing_of_not there
    rw [launch_of_missing missing, launch_of_missing (alike.action? id ▸ missing)]
    exact alike

end SoundsLike

/-- The same operation, or a report of an issue-only source with another status or none. -/
inductive Operation.Restates (c : Catalogue) : Operation → Operation → Prop where
  | same (op : Operation) : Restates c op op
  | status (d : Catalogue) (g : ProfileGroup) (place : Slot) (r : Report) (status : Option Status)
      (mutes : c.Mutes place.source) :
      Restates c (.submit d g place (some r)) (.submit d g place (some { r with status }))

def Operation.isSilent : Operation → Bool
  | .submit _ _ _ report => !(kept report).isSome
  | _ => false

namespace SoundsLike

variable {c : Catalogue} {strict : Prop} {l m : Ledger}

theorem perform (alike : SoundsLike c strict l m) (soundL : l.Sound) (soundM : m.Sound)
    {op op' : Operation} (restates : op.Restates c op')
    (silent : strict → op.isSilent = op'.isSilent) :
    SoundsLike c strict (op.perform l).ledger (op'.perform m).ledger := by
  cases restates with
  | same =>
    cases op with
    | submit d g place report =>
      exact alike.submit soundL soundM d g rfl rfl (fun _ => rfl) fun _ => rfl
    | reportFailure d g place event => exact alike.reportFailure d g place event
    | dismiss id => exact alike.dismiss id
    | launch id => exact alike.launch id
    | clear => exact refl c strict ∅
  | status d g place r status mutes =>
    exact alike.submit soundL soundM d g (rejection?_withStatus d g place r status).symm rfl
      (fun counts => absurd mutes counts) fun given => Bool.not_inj (silent given)

theorem run (alike : SoundsLike c strict l m) (soundL : l.Sound) (soundM : m.Sound)
    {ops ops' : List Operation} (restated : List.Forall₂ (Operation.Restates c) ops ops')
    (silent : strict → ops.map (·.isSilent) = ops'.map (·.isSilent)) :
    SoundsLike c strict (l.run ops) (m.run ops') := by
  induction restated generalizing l m with
  | nil => exact alike
  | cons restates rest ih =>
    simp only [List.map_cons, List.cons.injEq] at silent
    have first := alike.perform soundL soundM restates fun given => (silent given).1
    exact ih first (soundL.perform _) (soundM.perform _) fun given => (silent given).2

/-- The statuses that count are the same. -/
theorem countedStatus (alike : SoundsLike c strict l m)
    (distinct : (c.sources.map (·.id)).Nodup) {s : Source} (declared : s ∈ c.sources)
    (u : UserId) : (l.report? ⟨s.id, u⟩).bind (countedStatus? s) =
      (m.report? ⟨s.id, u⟩).bind (countedStatus? s) := by
  by_cases mutes : c.Mutes s.id
  · have kind := Catalogue.kind_of_mutes distinct declared mutes
    have none : countedStatus? s = fun _ => .none := by
      funext r
      rw [countedStatus?, if_pos kind]
    rw [none, Option.bind_fun_none, Option.bind_fun_none]
  · rw [alike.report ⟨s.id, u⟩ mutes]

theorem entryOf? (alike : SoundsLike c strict l m) (distinct : (c.sources.map (·.id)).Nodup)
    {s : Source} (declared : s ∈ c.sources) (u : UserId) : l.entryOf? s u = m.entryOf? s u := by
  simp only [Ledger.entryOf?, alike.countedStatus distinct declared u, alike.failing]

theorem shownIssues (alike : SoundsLike c strict l m) (s : Source) (u : UserId) :
    l.shownIssues s u = m.shownIssues s u := by
  have actions : l.showAction = m.showAction := by
    funext id a
    simp only [showAction, alike.inFlight]
  have eq : ∀ k : Ledger, k.shownIssues s u = (heard (k.report? ⟨s.id, u⟩)).elim [] fun r =>
      (r.issues.filter fun i => r.issueId ⟨s.id, u⟩ i ∉ k.dismissed).map fun i =>
        k.showIssue (r.issueId ⟨s.id, u⟩ i) i := by
    intro k
    rw [elim_heard (fun _ _ => rfl) (fun r issues => by rw [issues]; rfl), Ledger.shownIssues]
    cases k.report? ⟨s.id, u⟩ <;> rfl
  rw [eq, eq, alike.audible]
  simp only [alike.dismissed, showIssue, actions]

end SoundsLike

def hasReports (l : Ledger) (c : Catalogue) (g : ProfileGroup) : Bool :=
  (c.reportingPairs g).any fun pair => (l.report? ⟨pair.1.id, pair.2⟩).isSome

/-- The view of a group, made as if something were reported or as if nothing were. -/
def viewIf (l : Ledger) (c : Catalogue) (g : ProfileGroup) (reported : Bool) : View :=
  let pairs := c.reportingPairs g
  let issues := View.keepFirst (pairs.flatMap fun pair => l.shownIssues pair.1 pair.2)
  let statuses := pairs.filterMap fun pair => l.statusSeverity? pair.1 pair.2
  { severity :=
      if reported then
        Overall.gravest .ok ((statuses ++ issues.map (·.severity)).map Overall.ofSeverity)
      else
        .unknown
    entries := pairs.filterMap fun pair => l.entryOf? pair.1 pair.2
    issues := View.rankIssues issues }

theorem view_eq_viewIf (l : Ledger) (c : Catalogue) (g : ProfileGroup) :
    l.view c g = l.viewIf c g (l.hasReports c g) := rfl

/-- Where nothing is reported, nothing is grave. -/
theorem viewIf_of_no_reports {l : Ledger} {c : Catalogue} {g : ProfileGroup}
    (silent : l.hasReports c g = false) :
    l.viewIf c g true = { l.viewIf c g false with severity := .ok } := by
  have absent : ∀ pair ∈ c.reportingPairs g, l.report? ⟨pair.1.id, pair.2⟩ = none := by
    simpa [hasReports] using silent
  have statuses : ((c.reportingPairs g).filterMap fun pair =>
      l.statusSeverity? pair.1 pair.2) = [] := by
    refine List.filterMap_eq_nil_iff.mpr fun pair member => ?_
    rw [statusSeverity?, absent pair member]
    rfl
  have issues : ((c.reportingPairs g).flatMap fun pair => l.shownIssues pair.1 pair.2) = [] := by
    refine List.flatMap_eq_nil_iff.mpr fun pair member => ?_
    simp only [shownIssues, absent pair member]
  simp only [viewIf, statuses, issues]
  rfl

namespace SoundsLike

variable {c : Catalogue} {strict : Prop} {l m : Ledger}

theorem viewIf (alike : SoundsLike c strict l m) (distinct : (c.sources.map (·.id)).Nodup)
    (g : ProfileGroup) (reported : Bool) : l.viewIf c g reported = m.viewIf c g reported := by
  have declared : ∀ pair ∈ c.reportingPairs g, pair.1 ∈ c.sources := fun pair member =>
    (Catalogue.mem_reportingPairs.mp member).1
  have statuses : ((c.reportingPairs g).filterMap fun pair => l.statusSeverity? pair.1 pair.2) =
      (c.reportingPairs g).filterMap fun pair => m.statusSeverity? pair.1 pair.2 := by
    refine List.filterMap_congr fun pair member => ?_
    rw [statusSeverity?, statusSeverity?,
      alike.countedStatus distinct (declared pair member) pair.2]
  have entries : ((c.reportingPairs g).filterMap fun pair => l.entryOf? pair.1 pair.2) =
      (c.reportingPairs g).filterMap fun pair => m.entryOf? pair.1 pair.2 :=
    List.filterMap_congr fun pair member =>
      alike.entryOf? distinct (declared pair member) pair.2
  simp only [Ledger.viewIf, statuses, entries, alike.shownIssues]

theorem view (alike : SoundsLike c strict l m) (distinct : (c.sources.map (·.id)).Nodup)
    (g : ProfileGroup) : (l.view c g).SameButSilence (m.view c g) := by
  rw [view_eq_viewIf, view_eq_viewIf, ← alike.viewIf distinct]
  cases first : l.hasReports c g with
  | true =>
    cases second : m.hasReports c g with
    | true => exact .same rfl
    | false =>
      refine .second rfl ?_
      rw [alike.viewIf distinct, alike.viewIf distinct]
      exact viewIf_of_no_reports second
  | false =>
    cases second : m.hasReports c g with
    | true => exact .first rfl (viewIf_of_no_reports first)
    | false => exact .same rfl

/-- If the same places have a report, nothing of the statuses shows. -/
theorem view_eq (alike : SoundsLike c strict l m) (given : strict)
    (distinct : (c.sources.map (·.id)).Nodup) (g : ProfileGroup) : l.view c g = m.view c g := by
  have reports : l.hasReports c g = m.hasReports c g := by
    simp only [hasReports, alike.places given]
  rw [view_eq_viewIf, view_eq_viewIf, alike.viewIf distinct, reports]

end SoundsLike

/-- If reports of issue-only sources are given other statuses, the views of a run stay the same,
unless a status makes the difference between a report and none. Even then the same entries and issues
are shown, and only the severity tells that something was reported. -/
theorem restated_views {c : Catalogue} (distinct : (c.sources.map (·.id)).Nodup)
    {ops ops' : List Operation} (restated : List.Forall₂ (Operation.Restates c) ops ops') (n : Nat)
    (g : ProfileGroup) :
    let l := (∅ : Ledger).run (ops.take n)
    let m := (∅ : Ledger).run (ops'.take n)
    (l.view c g).SameButSilence (m.view c g) ∧
      ((ops.take n).map (·.isSilent) = (ops'.take n).map (·.isSilent) →
        l.view c g = m.view c g) := by
  intro l m
  have part : List.Forall₂ (Operation.Restates c) (ops.take n) (ops'.take n) :=
    List.forall₂_take n restated
  have alike := (SoundsLike.refl c _ ∅).run sound_empty sound_empty part id
  exact ⟨alike.view distinct g, fun given => alike.view_eq given distinct g⟩

/-- An issue-only source reports an issue, once with a grave status and once without any. -/
theorem restated_views_of_issue :
    let c : Catalogue := ⟨[{ id := ⟨"scan"⟩, kind := .issueOnly }]⟩
    let g : ProfileGroup := .single ⟨1⟩
    let virus : Issue := { key := "virus", severity := .recommendation }
    let found : Report := { session := "first", issues := [virus] }
    let stated : Report := { found with status := some ⟨"Scan", "Infected", .criticalWarning⟩ }
    let reported : Report → List Operation := fun r =>
      [.submit c g ⟨⟨"scan"⟩, ⟨1⟩⟩ (some r)]
    (c.sources.map (·.id)).Nodup ∧
      List.Forall₂ (Operation.Restates c) (reported stated) (reported found) ∧
      (reported stated).map (·.isSilent) = (reported found).map (·.isSilent) ∧
      (((∅ : Ledger).run (reported stated)).view c g).severity = .recommendation ∧
      ((∅ : Ledger).run (reported stated)).view c g =
        ((∅ : Ledger).run (reported found)).view c g := by
  intro c g virus found stated reported
  have mutes : c.Mutes ⟨"scan"⟩ := ⟨_, rfl, rfl⟩
  have restated : List.Forall₂ (Operation.Restates c) (reported stated) (reported found) :=
    .cons (.status c g ⟨⟨"scan"⟩, ⟨1⟩⟩ stated none mutes) .nil
  exact ⟨by decide, restated, rfl, by decide, (restated_views (by decide) restated 1 g).2 rfl⟩

/-- A status is all that an issue-only source reports. It is shown nowhere, and yet all is well with
it where without it nothing would be known. -/
theorem muted_status_shows_in_severity :
    let c : Catalogue := ⟨[{ id := ⟨"scan"⟩, kind := .issueOnly }]⟩
    let g : ProfileGroup := .single ⟨1⟩
    let nothing : Report := { session := "first" }
    let stated : Report := { nothing with status := some ⟨"Scan", "Clean", .information⟩ }
    let reported : Report → List Operation := fun r =>
      [.submit c g ⟨⟨"scan"⟩, ⟨1⟩⟩ (some r)]
    c.fault? = none ∧
      List.Forall₂ (Operation.Restates c) (reported stated) (reported nothing) ∧
      (((∅ : Ledger).run (reported stated)).view c g).severity = .ok ∧
      (((∅ : Ledger).run (reported nothing)).view c g).severity = .unknown := by
  intro c g nothing stated reported
  have mutes : c.Mutes ⟨"scan"⟩ := ⟨_, rfl, rfl⟩
  exact ⟨by decide, .cons (.status c g ⟨⟨"scan"⟩, ⟨1⟩⟩ stated none mutes) .nil, by decide,
    by decide⟩

end Ledger

end SafetyCenter
