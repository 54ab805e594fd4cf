import SafetyCenter.Proofs.Center.Setting
import SafetyCenter.Proofs.Ledger.Presentation
import SafetyCenter.Proofs.Scenario.Refresh

set_option autoImplicit false

namespace SafetyCenter

namespace Source

/-- The users that a source covers: the primary user, and the others if it covers all profiles. -/
theorem coveredUsers_eq (s : Source) (g : ProfileGroup) :
    s.coveredUsers g =
      match s.profile with
      | .primaryOnly => [g.primary]
      | .allProfiles => g.primary :: g.profiles := by
  unfold coveredUsers covers ProfileGroup.users
  cases s.profile with
  | primaryOnly =>
    have others : g.profiles.filter (fun u => decide (g.primary = u)) = [] := by
      rw [List.filter_eq_nil_iff]
      intro u member same
      exact (List.nodup_cons.mp g.nodup).1 (of_decide_eq_true same ▸ member)
    dsimp only
    rw [List.filter_cons_of_pos (by simp), others]
  | allProfiles =>
    rw [List.filter_eq_self]
    intro u member
    exact decide_eq_true member

end Source

namespace Catalogue

variable {c : Catalogue} {g : ProfileGroup} {source : SourceId} {user : UserId}

/-- In a catalogue without faults a source has one declaration. -/
theorem source?_eq_some_iff (faultless : c.fault? = none) {s : Source} :
    c.source? source = some s ↔ s ∈ c.sources ∧ s.id = source :=
  find?_key_eq_some_iff (nodup_ids faultless)

theorem mem_refreshTargets_iff :
    (source, user) ∈ Center.refreshTargets c g ↔
      ∃ s ∈ c.sources, s.id = source ∧ s.isStatic = false ∧ s.covers g user = true := by
  simp only [Center.refreshTargets, List.mem_map, Prod.exists, mem_reportingPairs, Prod.mk.injEq]
  constructor
  · rintro ⟨s, u, ⟨declared, reports, covers⟩, same, rfl⟩
    exact ⟨s, declared, same, reports, covers⟩
  · rintro ⟨s, declared, same, reports, covers⟩
    exact ⟨s, user, ⟨declared, reports, covers⟩, same, rfl⟩

/-- Exactly the pairs that are asked are not refused. -/
theorem mem_refreshTargets_iff_refusal? (faultless : c.fault? = none) :
    (source, user) ∈ Center.refreshTargets c g ↔ Ledger.refusal? c g ⟨source, user⟩ = none := by
  rw [mem_refreshTargets_iff, Ledger.refusal?_eq_none_iff]
  simp only [source?_eq_some_iff faultless, and_assoc]

/-- The pairs that are asked, source by source as they are declared, and for each the primary user
first. -/
theorem refreshTargets_eq (c : Catalogue) (g : ProfileGroup) :
    Center.refreshTargets c g =
      (c.sources.filter (·.kind ≠ .static)).flatMap fun s =>
        (match s.profile with
          | .primaryOnly => [g.primary]
          | .allProfiles => g.primary :: g.profiles).map fun u => (s.id, u) := by
  have reporting : c.reporting = c.sources.filter (·.kind ≠ .static) := by
    simp [Catalogue.reporting, Source.isStatic]
  rw [Center.refreshTargets, reportingPairs, List.map_flatMap, reporting]
  refine List.flatMap_congr fun s _ => ?_
  rw [List.map_map, Source.coveredUsers_eq]
  rfl

theorem nodup_refreshTargets (faultless : c.fault? = none) (g : ProfileGroup) :
    (Center.refreshTargets c g).Nodup := by
  have places := nodup_places (nodup_ids faultless) g
  rw [← reportingPairs_eq_scope] at places
  apply List.Nodup.of_map fun target => (⟨target.1, target.2⟩ : Slot)
  rwa [Center.refreshTargets, List.map_map]

end Catalogue

namespace Ledger

/-- Asking a source for a user, hearing it and showing it go together. -/
structure AsksWhomItHears (c : Catalogue) (g : ProfileGroup) (place : Slot) : Prop where
  /-- a report that is valid or says nothing is accepted if the source is asked -/
  heard : ∀ (l : Ledger) report, (∀ r ∈ report, r.Valid ∨ r.isEmpty = true) →
    ((place.source, place.user) ∈ Center.refreshTargets c g ↔
      ∃ changed, (l.submit c g place report).answer = .ok changed)
  /-- so is a failure -/
  noted : ∀ (l : Ledger) event,
    ((place.source, place.user) ∈ Center.refreshTargets c g ↔
      ∃ note, (l.reportFailure c g place event).answer = .ok note)
  /-- a stored issue that was not dismissed is shown if the source is asked -/
  shown : ∀ (l : Ledger) r i, l.report? place = some r → i ∈ r.issues →
    r.issueId place i ∉ l.dismissed →
    ((place.source, place.user) ∈ Center.refreshTargets c g ↔
      ∃ shown ∈ (l.view c g).issues, shown.id = r.issueId place i)
  /-- so is a failure -/
  flagged : ∀ l : Ledger, place ∈ l.failing →
    ((place.source, place.user) ∈ Center.refreshTargets c g ↔
      ∃ entry ∈ (l.view c g).entries,
        entry.source = place.source ∧ entry.user = place.user ∧ entry.inError = true)

variable {c : Catalogue} {g : ProfileGroup} {place : Slot}

theorem submit_accepted_iff (l : Ledger) {report : Option Report}
    (proper : ∀ r ∈ report, r.Valid ∨ r.isEmpty = true) :
    (∃ changed, (l.submit c g place report).answer = .ok changed) ↔ refusal? c g place = none := by
  have proper' : (kept report).bind Report.defect? = none := by
    rw [Option.bind_eq_none_iff]
    intro r same
    obtain ⟨given, speaks⟩ := nonempty_of_kept same
    rcases proper r given with valid | empty
    · exact (Report.defect?_eq_none_iff r).mpr valid
    · rw [empty] at speaks
      cases speaks
  have rejection : rejection? c g place report = refusal? c g place := by
    unfold rejection?
    cases refusal? c g place with
    | none => simp [proper']
    | some e => rfl
  rw [← rejection]
  exact submit_ok_iff l

theorem reportFailure_accepted_iff (l : Ledger) {event : Event} :
    (∃ note, (l.reportFailure c g place event).answer = .ok note) ↔ refusal? c g place = none := by
  cases verdict : refusal? c g place with
  | some e => simp [reportFailure_of_refusal l verdict]
  | none => simp [reportFailure_of_allowed l verdict]

/-- An issue of a place is shown if a reporting source has the place. -/
theorem exists_shown_iff_of_stored {l : Ledger} {r : Report} {i : Issue}
    (stored : l.report? place = some r) (member : i ∈ r.issues)
    (undismissed : r.issueId place i ∉ l.dismissed) :
    (∃ shown ∈ (l.view c g).issues, shown.id = r.issueId place i) ↔
      (place.source, place.user) ∈ Center.refreshTargets c g := by
  simp only [view, View.mem_rankIssues]
  rw [View.exists_mem_keepFirst, Center.refreshTargets, List.mem_map]
  constructor
  · intro given
    obtain ⟨shown, inside, same⟩ := given
    obtain ⟨pair, covered, inside⟩ := List.mem_flatMap.mp inside
    refine ⟨pair, covered, ?_⟩
    rw [shownIssues_eq] at inside
    obtain ⟨p, opened, rfl⟩ := List.mem_map.mp inside
    have slot : placeOf pair = place := by
      rw [← slot_of_mem_openAt opened]
      exact congrArg IssueId.slot same
    rw [← slot]
    rfl
  · intro given
    obtain ⟨pair, covered, same⟩ := given
    have slot : (⟨pair.1.id, pair.2⟩ : Slot) = place := by
      cases place
      cases same
      rfl
    refine ⟨l.showIssue (r.issueId place i) i, List.mem_flatMap.mpr ⟨pair, covered, ?_⟩, rfl⟩
    simp only [shownIssues, slot, stored]
    exact List.mem_map.mpr
      ⟨i, List.mem_filter.mpr ⟨member, decide_eq_true undismissed⟩, rfl⟩

theorem exists_entry_iff_of_failing {l : Ledger} (failing : place ∈ l.failing) :
    (∃ entry ∈ (l.view c g).entries,
      entry.source = place.source ∧ entry.user = place.user ∧ entry.inError = true) ↔
      (place.source, place.user) ∈ Center.refreshTargets c g := by
  simp only [view, filterMap_entryOf?]
  rw [Center.refreshTargets, List.mem_map]
  constructor
  · intro given
    obtain ⟨entry, listed, source, user, -⟩ := given
    obtain ⟨pair, speaking, rfl⟩ := List.mem_map.mp listed
    exact ⟨pair, (List.mem_filter.mp speaking).1, Prod.ext source user⟩
  · intro given
    obtain ⟨pair, covered, same⟩ := given
    have failing' : placeOf pair ∈ l.failing := by
      cases place
      cases same
      exact failing
    refine ⟨l.entry pair, List.mem_map.mpr ⟨pair, List.mem_filter.mpr ⟨covered, ?_⟩, rfl⟩,
      congrArg Prod.fst same, congrArg Prod.snd same, decide_eq_true failing'⟩
    rw [speaks, decide_eq_true failing', Bool.true_or]

theorem asksWhomItHears (faultless : c.fault? = none) (g : ProfileGroup) (place : Slot) :
    AsksWhomItHears c g place where
  heard l _ proper :=
    (c.mem_refreshTargets_iff_refusal? faultless).trans (l.submit_accepted_iff proper).symm
  noted l _ :=
    (c.mem_refreshTargets_iff_refusal? faultless).trans l.reportFailure_accepted_iff.symm
  shown _ _ _ stored member undismissed :=
    (exists_shown_iff_of_stored stored member undismissed).symm
  flagged _ failing := (exists_entry_iff_of_failing failing).symm

end Ledger

namespace Scenario

/-- A refresh asks whom a submission or a failure is taken from and whom a view shows: under a
catalogue without faults, for every group, source and user. It asks each such pair once: the sources
as they are declared, and for each the primary user first and then, if the source covers them, the
other profiles in the order of the group. So it goes however the sources answer, and whatever they
report meanwhile. -/
theorem refresh_asks_whom_it_hears {c : Catalogue} (faultless : c.fault? = none)
    (g : ProfileGroup) :
    (∀ place, Ledger.AsksWhomItHears c g place) ∧
    (Center.refreshTargets c g).Nodup ∧
    Center.refreshTargets c g =
      (c.sources.filter (·.kind ≠ .static)).flatMap (fun s =>
        (match s.profile with
          | .primaryOnly => [g.primary]
          | .allProfiles => g.primary :: g.profiles).map fun u => (s.id, u)) ∧
    ∀ (w : World) (reason : RefreshReason) (id : Nat) (answers : Answers),
      w.conduct.ObserversListen →
      w.conduct.stepsOf ((Round.refresh reason (Center.refreshTargets c g)).calls id) =
        (Center.refreshTargets c g).map answers.steps →
      ∃ w' tally,
        Plays w (.ready .go [.calls ((Round.refresh reason (Center.refreshTargets c g)).calls id) {}])
          w' (.tally tally) ∧
        w'.requests = w.requests ++ (Center.refreshTargets c g).map fun t =>
          .refresh t.1 t.2 reason id := by
  refine ⟨Ledger.asksWhomItHears faultless g, c.nodup_refreshTargets faultless g,
    c.refreshTargets_eq g, ?_⟩
  intro w reason id answers listen acts
  let Ends (w' : World) (t : Thread) : Prop :=
    (∃ tally, t = .ready (.tally tally) []) ∧
      w'.requests = w.requests ++ (Center.refreshTargets c g).map fun t => .refresh t.1 t.2 reason id
  have leads : Leads Ends { w with turn := { w.turn with handed := false } } (.ready .go
      [.calls ((Center.refreshTargets c g).map fun t => .refresh t.1 t.2 reason id) {}]) :=
    leads_round answers reason id rfl rfl (by exact listen) (by exact acts)
      fun w' tally told => .here ⟨⟨tally, rfl⟩, told.requests⟩
  obtain ⟨w', signal, ⟨⟨tally, same⟩, requests⟩, plays⟩ := Leads.plays (P := Ends)
    (fun w' t ends => ends.1.elim fun tally same => ⟨_, same⟩) leads
  cases same
  exact ⟨w', tally, plays, requests⟩

/-- A group is made of profiles that repeat and name the primary user. A source that covers all of
them hangs, one is only shown, and one covers the primary user alone. -/
theorem refresh_asks_whom_it_hears_of_repeated_profiles :
    let c : Catalogue := ⟨[{ id := ⟨"lock"⟩, profile := .allProfiles },
      { id := ⟨"about"⟩, kind := .static }, { id := ⟨"wifi"⟩ }]⟩
    let g : ProfileGroup := .ofProfiles ⟨1⟩ [⟨2⟩, ⟨1⟩, ⟨2⟩]
    let w : World := { behaviours := .ofList [("refresh:lock", { manner := .hang }, 0)] }
    (∀ place, Ledger.AsksWhomItHears c g place) ∧
      Center.refreshTargets c g = [(⟨"lock"⟩, ⟨1⟩), (⟨"lock"⟩, ⟨2⟩), (⟨"wifi"⟩, ⟨1⟩)] ∧
      ∃ w' tally,
        Plays w (.ready .go [.calls ((Round.refresh .other (Center.refreshTargets c g)).calls 1) {}])
          w' (.tally tally) ∧
        w'.requests = [.refresh ⟨"lock"⟩ ⟨1⟩ .other 1, .refresh ⟨"lock"⟩ ⟨2⟩ .other 1,
          .refresh ⟨"wifi"⟩ ⟨1⟩ .other 1] := by
  intro c g w
  obtain ⟨asks, -, -, plays⟩ := refresh_asks_whom_it_hears (c := c) (by decide) g
  have listen : w.conduct.ObserversListen := World.observersListen_of_sources (by decide)
  exact ⟨asks, by decide, plays w .other 1 (fun _ => none) listen rfl⟩

end Scenario

end SafetyCenter
