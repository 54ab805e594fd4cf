import Mathlib.Data.List.Basic
import SafetyCenter.Ledger.View
import SafetyCenter.Proofs.Ledger.Soundness

set_option autoImplicit false

namespace SafetyCenter

/-- Two ledgers keep the same of a place. The order in which markers came is left out, since nothing
reads it. -/
structure Slot.SameIn (place : Slot) (l m : Ledger) : Prop where
  report : l.report? place = m.report? place
  failing : place ∈ l.failing ↔ place ∈ m.failing
  dismissed : ∀ id : IssueId, id.slot = place → (id ∈ l.dismissed ↔ id ∈ m.dismissed)
  inFlight : ∀ id : ActionId, id.slot = place → (id ∈ l.inFlight ↔ id ∈ m.inFlight)

def View.Entry.place (e : View.Entry) : Slot :=
  ⟨e.source, e.user⟩

namespace Slot.SameIn

variable {place : Slot} {l m n : Ledger}

theorem refl (place : Slot) (l : Ledger) : place.SameIn l l :=
  ⟨rfl, Iff.rfl, fun _ _ => Iff.rfl, fun _ _ => Iff.rfl⟩

theorem symm (same : place.SameIn l m) : place.SameIn m l where
  report := same.report.symm
  failing := same.failing.symm
  dismissed := fun id here => (same.dismissed id here).symm
  inFlight := fun id here => (same.inFlight id here).symm

theorem trans (first : place.SameIn l m) (second : place.SameIn m n) : place.SameIn l n where
  report := first.report.trans second.report
  failing := first.failing.trans second.failing
  dismissed := fun id here => (first.dismissed id here).trans (second.dismissed id here)
  inFlight := fun id here => (first.inFlight id here).trans (second.inFlight id here)

end Slot.SameIn

namespace Ledger

theorem issue?_congr {l m : Ledger} {id : IssueId} (same : id.slot.SameIn l m) :
    l.issue? id = m.issue? id := by
  have meant : l.reportedIssue? id = m.reportedIssue? id := reportedIssue?_congr same.report
  simp only [issue?, same.dismissed id rfl, meant]

theorem action?_congr {l m : Ledger} {id : ActionId} (same : id.slot.SameIn l m) :
    l.action? id = m.action? id := by
  have issue : l.issue? id.issue = m.issue? id.issue := issue?_congr same
  simp only [action?, issue, same.inFlight id rfl]

theorem storedReport_congr {l m : Ledger} {place : Slot} (same : place.SameIn l m) (c : Catalogue) :
    l.storedReport c place = m.storedReport c place := by
  simp only [storedReport, same.report]

/-- An operation that reads and changes one place alone. -/
structure Local {α : Type} (place : Slot) (act : Ledger → Change α) : Prop where
  /-- other places are left as they are -/
  frame : ∀ l k, k ≠ place → k.SameIn (act l).ledger l
  /-- the answer follows from what is kept of the place -/
  answer : ∀ l m, place.SameIn l m → (act l).answer = (act m).answer
  /-- what is kept of the place afterwards follows from what was kept of it before -/
  effect : ∀ l m, place.SameIn l m → place.SameIn (act l).ledger (act m).ledger

/-- A local operation leaves two ledgers the same of every place they kept the same of, if its own
place is one of these. -/
theorem Local.sameIn {α : Type} {place : Slot} {act : Ledger → Change α} (isLocal : Local place act)
    {l m : Ledger} (own : place.SameIn l m) {k : Slot} (same : k.SameIn l m) :
    k.SameIn (act l).ledger (act m).ledger := by
  by_cases here : k = place
  · rw [here]
    exact isLocal.effect l m own
  · have left := isLocal.frame l k here
    have right := isLocal.frame m k here
    exact left.trans (same.trans right.symm)

theorem sameIn_calm_frame {place k : Slot} (l : Ledger) (elsewhere : k ≠ place) :
    k.SameIn (l.calm place) l where
  report := rfl
  failing := by simp [calm, elsewhere]
  dismissed := fun _ _ => Iff.rfl
  inFlight := fun _ _ => Iff.rfl

theorem sameIn_replace_frame {place k : Slot} (l : Ledger) (report : Option Report)
    (elsewhere : k ≠ place) : k.SameIn (l.replace place report).ledger l where
  report := by
    show ((l.calm place).store place (kept report)).report? k = l.report? k
    rw [report?_store, if_neg (Ne.symm elsewhere)]
    rfl
  failing := by
    show k ∈ ((l.calm place).store place (kept report)).failing ↔ _
    rw [store_failing]
    simp [calm, elsewhere]
  dismissed := by
    intro id here
    have other : id.slot ≠ place := by rw [here]; exact elsewhere
    rw [replace, mem_dismissed_prune, store_dismissed]
    simp [calm, other]
  inFlight := by
    intro id here
    have other : id.slot ≠ place := by rw [here]; exact elsewhere
    rw [replace, mem_inFlight_prune, store_inFlight]
    simp [calm, other]

theorem sameIn_calm {place : Slot} {l m : Ledger} (same : place.SameIn l m) :
    place.SameIn (l.calm place) (m.calm place) where
  report := same.report
  failing := by simp [calm]
  dismissed := same.dismissed
  inFlight := same.inFlight

theorem sameIn_replace {place : Slot} {l m : Ledger} (same : place.SameIn l m)
    (report : Option Report) :
    place.SameIn (l.replace place report).ledger (m.replace place report).ledger where
  report := by
    show ((l.calm place).store place (kept report)).report? place =
      ((m.calm place).store place (kept report)).report? place
    rw [report?_store, report?_store, if_pos rfl, if_pos rfl]
  failing := by
    show place ∈ ((l.calm place).store place (kept report)).failing ↔
      place ∈ ((m.calm place).store place (kept report)).failing
    rw [store_failing, store_failing]
    exact (sameIn_calm same).failing
  dismissed := by
    intro id here
    have stored : ((l.calm place).store place (kept report)).report? id.slot =
        ((m.calm place).store place (kept report)).report? id.slot := by
      rw [report?_store, report?_store, if_pos here.symm, if_pos here.symm]
    have before := (sameIn_calm same).dismissed id here
    rw [replace, replace, mem_dismissed_prune, mem_dismissed_prune, store_dismissed,
      store_dismissed, before, reportedIssue?_congr stored]
  inFlight := by
    intro id here
    have stored : ((l.calm place).store place (kept report)).report? id.slot =
        ((m.calm place).store place (kept report)).report? id.slot := by
      rw [report?_store, report?_store, if_pos here.symm, if_pos here.symm]
    have before := (sameIn_calm same).inFlight id here
    rw [replace, replace, mem_inFlight_prune, mem_inFlight_prune, store_inFlight, store_inFlight,
      before, reportedAction?_congr stored]

theorem local_submit (c : Catalogue) (g : ProfileGroup) (place : Slot) (report : Option Report) :
    Local place (fun l => l.submit c g place report) where
  frame := by
    intro l k elsewhere
    cases verdict : rejection? c g place report with
    | some e =>
      rw [submit_of_rejection l verdict]
      exact Slot.SameIn.refl k l
    | none =>
      by_cases same : l.report? place = kept report
      · rw [submit_of_same verdict same]
        exact sameIn_calm_frame l elsewhere
      · rw [submit_of_other verdict same]
        exact sameIn_replace_frame l report elsewhere
  answer := by
    intro l m agree
    cases verdict : rejection? c g place report with
    | some e => rw [submit_of_rejection l verdict, submit_of_rejection m verdict]
    | none =>
      by_cases same : l.report? place = kept report
      · have same' : m.report? place = kept report := by rw [← agree.report, same]
        rw [submit_of_same verdict same, submit_of_same verdict same']
        simp only [agree.failing]
      · have other : m.report? place ≠ kept report := by rwa [← agree.report]
        rw [submit_of_other verdict same, submit_of_other verdict other]
  effect := by
    intro l m agree
    cases verdict : rejection? c g place report with
    | some e =>
      rw [submit_of_rejection l verdict, submit_of_rejection m verdict]
      exact agree
    | none =>
      by_cases same : l.report? place = kept report
      · have same' : m.report? place = kept report := by rw [← agree.report, same]
        rw [submit_of_same verdict same, submit_of_same verdict same']
        exact sameIn_calm agree
      · have other : m.report? place ≠ kept report := by rwa [← agree.report]
        rw [submit_of_other verdict same, submit_of_other verdict other]
        exact sameIn_replace agree report

theorem local_reportFailure (c : Catalogue) (g : ProfileGroup) (place : Slot) (event : Event) :
    Local place (fun l => l.reportFailure c g place event) where
  frame := by
    intro l k elsewhere
    cases verdict : refusal? c g place with
    | some e =>
      rw [reportFailure_of_refusal l verdict]
      exact Slot.SameIn.refl k l
    | none =>
      rw [reportFailure_of_allowed l verdict]
      exact ⟨rfl, by simp [elsewhere], fun _ _ => Iff.rfl, fun _ _ => Iff.rfl⟩
  answer := by
    intro l m agree
    cases verdict : refusal? c g place with
    | some e => rw [reportFailure_of_refusal l verdict, reportFailure_of_refusal m verdict]
    | none =>
      rw [reportFailure_of_allowed l verdict, reportFailure_of_allowed m verdict]
      simp only [agree.failing]
  effect := by
    intro l m agree
    cases verdict : refusal? c g place with
    | some e =>
      rw [reportFailure_of_refusal l verdict, reportFailure_of_refusal m verdict]
      exact agree
    | none =>
      rw [reportFailure_of_allowed l verdict, reportFailure_of_allowed m verdict]
      exact ⟨agree.report, by simp, agree.dismissed, agree.inFlight⟩

theorem local_dismiss (id : IssueId) : Local id.slot (fun l => l.dismiss id) where
  frame := by
    intro l k elsewhere
    cases there : l.issue? id with
    | none =>
      rw [dismiss_of_missing there]
      exact Slot.SameIn.refl k l
    | some i =>
      rw [dismiss_of_found there]
      refine ⟨rfl, Iff.rfl, ?_, fun _ _ => Iff.rfl⟩
      intro other apart
      have different : other ≠ id := by
        intro same
        rw [same] at apart
        exact elsewhere apart.symm
      simp [different]
  answer := by
    intro l m agree
    have issues := issue?_congr agree
    cases there : m.issue? id with
    | none => rw [dismiss_of_missing there, dismiss_of_missing (issues.trans there)]
    | some i => rw [dismiss_of_found there, dismiss_of_found (issues.trans there)]
  effect := by
    intro l m agree
    have issues := issue?_congr agree
    cases there : m.issue? id with
    | none =>
      rw [dismiss_of_missing there, dismiss_of_missing (issues.trans there)]
      exact agree
    | some i =>
      rw [dismiss_of_found there, dismiss_of_found (issues.trans there)]
      refine ⟨agree.report, agree.failing, ?_, agree.inFlight⟩
      intro other here
      rw [Distinct.mem_insert, Distinct.mem_insert, agree.dismissed other here]

theorem local_launch (id : ActionId) : Local id.slot (fun l => l.launch id) where
  frame := by
    intro l k elsewhere
    by_cases there : ∃ a, l.action? id = some a ∧ a.resolves = true
    · obtain ⟨a, found, resolves⟩ := there
      rw [launch_of_found found resolves]
      refine ⟨rfl, Iff.rfl, fun _ _ => Iff.rfl, ?_⟩
      intro other apart
      have different : other ≠ id := by
        intro same
        rw [same] at apart
        exact elsewhere apart.symm
      simp [different]
    · rw [launch_of_missing (missing_of_not there)]
      exact Slot.SameIn.refl k l
  answer := by
    intro l m agree
    have actions := action?_congr agree
    by_cases there : ∃ a, m.action? id = some a ∧ a.resolves = true
    · obtain ⟨a, found, resolves⟩ := there
      rw [launch_of_found found resolves, launch_of_found (actions.trans found) resolves]
    · have missing := missing_of_not there
      rw [← actions] at there
      rw [launch_of_missing missing, launch_of_missing (missing_of_not there)]
  effect := by
    intro l m agree
    have actions := action?_congr agree
    by_cases there : ∃ a, m.action? id = some a ∧ a.resolves = true
    · obtain ⟨a, found, resolves⟩ := there
      rw [launch_of_found found resolves, launch_of_found (actions.trans found) resolves]
      refine ⟨agree.report, agree.failing, agree.dismissed, ?_⟩
      intro other here
      rw [Distinct.mem_insert, Distinct.mem_insert, agree.inFlight other here]
    · have missing := missing_of_not there
      rw [← actions] at there
      rw [launch_of_missing missing, launch_of_missing (missing_of_not there)]
      exact agree

theorem place_of_entryOf? {l : Ledger} {s : Source} {u : UserId} {e : View.Entry}
    (made : l.entryOf? s u = some e) : e.place = ⟨s.id, u⟩ := by
  unfold entryOf? at made
  dsimp only at made
  split at made
  · cases made
    rfl
  · split at made
    · cases made
      rfl
    · cases made

theorem slot_of_mem_shownIssues {l : Ledger} {s : Source} {u : UserId} {i : View.Issue}
    (member : i ∈ l.shownIssues s u) : i.id.slot = ⟨s.id, u⟩ := by
  unfold shownIssues at member
  dsimp only at member
  split at member
  · cases member
  · obtain ⟨issue, -, rfl⟩ := List.mem_map.mp member
    rfl

theorem entryOf?_congr {l m : Ledger} {s : Source} {u : UserId} (same : Slot.SameIn ⟨s.id, u⟩ l m) :
    l.entryOf? s u = m.entryOf? s u := by
  simp only [entryOf?, same.report, same.failing]

theorem statusSeverity?_congr {l m : Ledger} {s : Source} {u : UserId}
    (same : Slot.SameIn ⟨s.id, u⟩ l m) : l.statusSeverity? s u = m.statusSeverity? s u := by
  simp only [statusSeverity?, same.report]

theorem showIssue_congr {l m : Ledger} {id : IssueId} (same : id.slot.SameIn l m) (i : Issue) :
    l.showIssue id i = m.showIssue id i := by
  have actions : l.showAction id = m.showAction id := by
    funext a
    simp only [showAction, same.inFlight ⟨id, a.key⟩ rfl]
  simp only [showIssue, actions]

theorem shownIssues_congr {l m : Ledger} {s : Source} {u : UserId}
    (same : Slot.SameIn ⟨s.id, u⟩ l m) : l.shownIssues s u = m.shownIssues s u := by
  have hidden : ∀ (r : Report) (i : Issue), r.issueId ⟨s.id, u⟩ i ∈ l.dismissed ↔
      r.issueId ⟨s.id, u⟩ i ∈ m.dismissed := fun r i => same.dismissed _ rfl
  have shown : ∀ (r : Report) (i : Issue),
      l.showIssue (r.issueId ⟨s.id, u⟩ i) i = m.showIssue (r.issueId ⟨s.id, u⟩ i) i := by
    intro r i
    have own : (r.issueId ⟨s.id, u⟩ i).slot.SameIn l m := same
    exact showIssue_congr own i
  simp only [shownIssues, same.report, hidden, shown]

/-- The view of a group reads the places of its members only. -/
theorem view_congr {l m : Ledger} {g : ProfileGroup}
    (same : ∀ place : Slot, place.user ∈ g → place.SameIn l m) (c : Catalogue) :
    l.view c g = m.view c g := by
  have covered : ∀ pair ∈ c.reportingPairs g, Slot.SameIn ⟨pair.1.id, pair.2⟩ l m := by
    intro pair member
    have covers := (Catalogue.mem_reportingPairs.mp member).2.2
    exact same ⟨pair.1.id, pair.2⟩ (Source.mem_of_covers covers)
  have issues : ((c.reportingPairs g).flatMap fun pair => l.shownIssues pair.1 pair.2) =
      (c.reportingPairs g).flatMap fun pair => m.shownIssues pair.1 pair.2 :=
    List.flatMap_congr fun pair member => shownIssues_congr (covered pair member)
  have statuses : ((c.reportingPairs g).filterMap fun pair => l.statusSeverity? pair.1 pair.2) =
      (c.reportingPairs g).filterMap fun pair => m.statusSeverity? pair.1 pair.2 :=
    List.filterMap_congr fun pair member => statusSeverity?_congr (covered pair member)
  have entries : ((c.reportingPairs g).filterMap fun pair => l.entryOf? pair.1 pair.2) =
      (c.reportingPairs g).filterMap fun pair => m.entryOf? pair.1 pair.2 :=
    List.filterMap_congr fun pair member => entryOf?_congr (covered pair member)
  have reported : ((c.reportingPairs g).any fun pair => (l.report? ⟨pair.1.id, pair.2⟩).isSome) =
      (c.reportingPairs g).any fun pair => (m.report? ⟨pair.1.id, pair.2⟩).isSome := by
    rw [Bool.eq_iff_iff, List.any_eq_true, List.any_eq_true]
    refine exists_congr fun pair => and_congr_right fun member => ?_
    rw [(covered pair member).report]
  simp only [view, issues, statuses, entries, reported]

end Ledger

end SafetyCenter
