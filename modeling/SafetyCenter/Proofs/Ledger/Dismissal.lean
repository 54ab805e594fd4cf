import Mathlib.Data.List.Induction
import SafetyCenter.Proofs.Ledger.History
import SafetyCenter.Proofs.Ledger.Lookup

/-!
How long a dismissal lasts. A dismissed issue stays hidden as long as every report of its place
carries it. The first report without it, even one of the same session, ends the dismissal for good:
when a later report brings the issue back, it is shown again.
-/

set_option autoImplicit false

namespace SafetyCenter.Ledger

/-- After an event that never happens again, it is in force exactly if all later entries keep it.
-/
theorem since_append_cons {α : Type} (event kept : α → Prop) (log later : List α) {a : α}
    (happened : event a) (once : ∀ b ∈ later, ¬ event b) :
    Since event kept (log ++ a :: later) ↔ ∀ b ∈ later, kept b := by
  -- from the end, since the last entry decides what is in force
  induction later using List.reverseRecOn with
  | nil => simp [since_concat, happened]
  | append_singleton later b ih =>
    have before : ∀ c ∈ later, ¬ event c := fun c member => once c (List.mem_append_left _ member)
    have last : ¬ event b := once b (by simp)
    rw [← List.cons_append, ← List.append_assoc, since_concat, ih before]
    simp [last, or_imp, forall_and]

/-- A deed that forgets nothing and, if it is a report of the issue's place that says something, is
of the issue's session. -/
def Deed.KeepsSession (id : IssueId) (d : Deed) : Prop :=
  d ≠ .cleared ∧ ∀ r, d = .reported id.slot (some r) → r.isEmpty = false → r.session = id.session

theorem Deed.keepsSession_reported {id : IssueId} {r : Report} (place : Slot)
    (session : r.session = id.session) : Deed.KeepsSession id (.reported place (some r)) := by
  refine ⟨nofun, fun r' same _ => ?_⟩
  cases same
  exact session

/-- What became of a dismissal, given what was done since. -/
structure DismissalLasts (l : Ledger) (id : IssueId) (since : List Deed) : Prop where
  /-- while all reports of its place carry the issue, nobody finds it or is shown it -/
  hidden : (∀ d ∈ since, d.KeepsIssue id) →
    l.issue? id = none ∧ ∀ c g, ∀ shown ∈ (l.view c g).issues, shown.id ≠ id
  /-- after one that does not, the issue is found and shown whenever it is reported, unless it is
  dismissed anew -/
  forgotten : (∃ d ∈ since, ¬ d.KeepsIssue id) → (∀ d ∈ since, d ≠ .dismissed id) →
    l.issue? id = l.reportedIssue? id ∧
    ∀ c g, (∃ shown ∈ (l.view c g).issues, shown.id = id) ↔
      (l.reportedIssue? id).isSome ∧
        ∃ s ∈ c.sources, s.kind ≠ .static ∧ s.id = id.source ∧ s.covers g id.user = true

theorem Sound.not_shown {l : Ledger} (sound : l.Sound) {id : IssueId} (missing : l.issue? id = none)
    (c : Catalogue) (g : ProfileGroup) : ∀ shown ∈ (l.view c g).issues, shown.id ≠ id := by
  intro shown member same
  have found := (sound.exists_shown_iff.mp ⟨shown, member, same⟩).1
  rw [missing] at found
  cases found

theorem Chronicled.dismissalLasts {l : Ledger} {id : IssueId} {log since : List Deed}
    (sound : l.Sound) (chronicled : l.Chronicled (log ++ .dismissed id :: since)) :
    DismissalLasts l id since where
  hidden := by
    intro kept
    have dismissed : id ∈ l.dismissed :=
      (chronicled.dismissed id).mpr ⟨log, _, since, rfl, rfl, kept⟩
    have missing : l.issue? id = none := if_pos dismissed
    exact ⟨missing, sound.not_shown missing⟩
  forgotten := by
    intro dropped once
    have undismissed : id ∉ l.dismissed := by
      have lasts :=
        since_append_cons (· = Deed.dismissed id) (Deed.KeepsIssue id) log since rfl once
      rw [chronicled.dismissed id, lasts]
      intro kept
      obtain ⟨d, member, drops⟩ := dropped
      exact drops (kept d member)
    have found : l.issue? id = l.reportedIssue? id := if_neg undismissed
    refine ⟨found, fun c g => ?_⟩
    rw [← found]
    exact sound.exists_shown_iff

/-- In every run a dismissal that took place lasts as long as all accepted reports of its place
carry the issue, and no longer. -/
theorem dismissal_lasts (before after : List Operation) (id : IssueId)
    (taken : (((∅ : Ledger).run before).dismiss id).answer = true) :
    let l := (((∅ : Ledger).run before).dismiss id).ledger
    DismissalLasts (l.run after) id (l.log after) := by
  intro l
  have sound : ((∅ : Ledger).run before).Sound := sound_empty.run before
  have dismissed : l.Chronicled ((∅ : Ledger).log before ++ [.dismissed id]) := by
    rcases dismiss_cases ((∅ : Ledger).run before) id with ⟨refused, -⟩ | ⟨-, same, -⟩
    · rw [refused] at taken
      cases taken
    · -- the dismissal took place, and closes the history up to it
      show Chronicled (((∅ : Ledger).run before).dismiss id).ledger _
      rw [same]
      exact (chronicled_empty.run sound_empty before).dismiss id
  have soundNow : l.Sound := sound.perform (.dismiss id)
  have run := dismissed.run soundNow after
  rw [List.append_assoc, List.singleton_append] at run
  exact run.dismissalLasts (soundNow.run after)

/-- A dismissed issue is reported again with another title, and stays hidden. -/
theorem dismissal_lasts_of_updated_report :
    let c : Catalogue := ⟨[{ id := ⟨"lock"⟩ }]⟩
    let g : ProfileGroup := .single ⟨1⟩
    let weak : Issue := { key := "weak", severity := .recommendation }
    let id : IssueId := ⟨⟨"lock"⟩, ⟨1⟩, "weak", "", "first"⟩
    let reported : Issue → Operation := fun i =>
      .submit c g ⟨⟨"lock"⟩, ⟨1⟩⟩ (some { session := "first", issues := [i] })
    let l := (∅ : Ledger).run [reported weak]
    let update := [reported { weak with title := "Still weak" }]
    (l.dismiss id).answer = true ∧
      DismissalLasts ((l.dismiss id).ledger.run update) id ((l.dismiss id).ledger.log update) := by
  intro c g weak id reported l update
  have taken : (l.dismiss id).answer = true := by decide
  exact ⟨taken, dismissal_lasts [reported weak] update id taken⟩

/-- A dismissed issue is left out of one report and is back in the next, in the same session all the
while. It is found and shown again. -/
theorem dismissal_forgotten_within_session :
    let c : Catalogue := ⟨[{ id := ⟨"lock"⟩ }]⟩
    let g : ProfileGroup := .single ⟨1⟩
    let weak : Issue := { key := "weak", severity := .recommendation }
    let other : Issue := { key := "other", severity := .recommendation }
    let id : IssueId := ⟨⟨"lock"⟩, ⟨1⟩, "weak", "", "first"⟩
    let reported : Issue → Operation := fun i =>
      .submit c g ⟨⟨"lock"⟩, ⟨1⟩⟩ (some { session := "first", issues := [i] })
    let l := (((∅ : Ledger).run [reported weak]).dismiss id).ledger
    let after := [reported other, reported weak]
    (((∅ : Ledger).run [reported weak]).dismiss id).answer = true ∧
      (∀ d ∈ l.log after, d.KeepsSession id) ∧
      (l.run after).issue? id = some weak ∧
      ∃ shown ∈ ((l.run after).view c g).issues, shown.id = id := by
  intro c g weak other id reported l after
  have log : l.log after =
      [.reported id.slot (some { session := "first", issues := [other] }),
        .reported id.slot (some { session := "first", issues := [weak] })] := rfl
  refine ⟨by decide, ?_, by decide, by decide⟩
  rw [log]
  intro d member
  simp only [List.mem_cons, List.not_mem_nil, or_false] at member
  rcases member with rfl | rfl
  · exact Deed.keepsSession_reported id.slot rfl
  · exact Deed.keepsSession_reported id.slot rfl

end SafetyCenter.Ledger
