import SafetyCenter.Proofs.Ledger.Cases
import SafetyCenter.Proofs.Report.Reading

set_option autoImplicit false

namespace SafetyCenter.Ledger

/-- The source may speak for the user: its first declaration reports and covers the user. -/
def MaySpeak (c : Catalogue) (g : ProfileGroup) (place : Slot) : Prop :=
  ∃ s, c.source? place.source = some s ∧ s.isStatic = false ∧ s.covers g place.user = true

/-- There is no report, or it says nothing, or all in it have keys of their own. -/
def Proper (report : Option Report) : Prop :=
  ∀ r, report = some r → (r.status = none ∧ r.issues = []) ∨ r.Valid

/-- Why a report is turned down. Each reason leaves the ones before it out. -/
inductive TurnedDown (c : Catalogue) (g : ProfileGroup) (place : Slot) (report : Option Report) :
    Error → Prop where
  | unknownSource (unknown : c.source? place.source = none) :
      TurnedDown c g place report (.unknownSource place.source)
  | staticSource {s : Source} (declared : c.source? place.source = some s)
      (static : s.isStatic = true) : TurnedDown c g place report (.staticSource place.source)
  | sourceOutOfScope {s : Source} (declared : c.source? place.source = some s)
      (reports : s.isStatic = false) (outside : s.covers g place.user = false) :
      TurnedDown c g place report (.sourceOutOfScope place.source place.user)
  | invalidReport {r : Report} {d : Report.Defect} (allowed : MaySpeak c g place)
      (given : report = some r) (defect : r.FirstDefect d) :
      TurnedDown c g place report (.invalidReport place.source d.message)

variable {c : Catalogue} {g : ProfileGroup} {place : Slot} {report : Option Report}

theorem bind_defect?_eq_none_iff : report.bind Report.defect? = none ↔ Proper report := by
  rw [Option.bind_eq_none_iff]
  refine forall₂_congr fun r _ => ?_
  rw [Report.defect?_eq_none_iff]
  refine ⟨Or.inr, fun proper => ?_⟩
  rcases proper with ⟨-, issues⟩ | valid
  · refine (Report.defect?_eq_none_iff r).mp ?_
    rw [Report.defect?, issues, Report.issueDefect?]
  · exact valid

/-- There is no reason exactly for a report of a source that may speak with keys of their own. -/
theorem rejection?_eq_none_iff :
    rejection? c g place report = none ↔ MaySpeak c g place ∧ Proper report := by
  rw [MaySpeak, ← refusal?_eq_none_iff, ← bind_defect?_eq_none_iff, ← bind_kept, rejection?]
  cases refusal? c g place with
  | some e => simp
  | none => simp

/-- A source that may not speak is not declared, or static, or does not cover the user. -/
theorem turnedDown_of_refusal? {e : Error} (refused : refusal? c g place = some e) :
    TurnedDown c g place report e := by
  unfold refusal? at refused
  cases declared : c.source? place.source with
  | none =>
    simp only [declared] at refused
    cases refused
    exact .unknownSource declared
  | some s =>
    cases static : s.isStatic with
    | true =>
      simp only [declared, static, if_pos] at refused
      cases refused
      exact .staticSource declared static
    | false =>
      cases covered : s.covers g place.user with
      | true => simp [declared, static, covered] at refused
      | false =>
        simp only [declared, static, covered, Bool.false_eq_true, if_false] at refused
        cases refused
        exact .sourceOutOfScope declared static covered

theorem rejection?_eq_some_iff {e : Error} :
    rejection? c g place report = some e ↔ TurnedDown c g place report e := by
  constructor
  · intro rejected
    unfold rejection? at rejected
    cases verdict : refusal? c g place with
    | some found =>
      simp only [verdict] at rejected
      cases rejected
      exact turnedDown_of_refusal? verdict
    | none =>
      simp only [verdict, bind_kept] at rejected
      obtain ⟨d, found, rfl⟩ := Option.map_eq_some_iff.mp rejected
      obtain ⟨r, given, defect⟩ := Option.bind_eq_some_iff.mp found
      exact .invalidReport (refusal?_eq_none_iff.mp verdict) given
        ((Report.defect?_eq_some_iff r d).mp defect)
  · intro turnedDown
    cases turnedDown with
    | unknownSource unknown => simp [rejection?, refusal?, unknown]
    | staticSource declared static => simp [rejection?, refusal?, declared, static]
    | sourceOutOfScope declared reports outside =>
      simp [rejection?, refusal?, declared, reports, outside]
    | invalidReport allowed given defect =>
      have met := (Report.defect?_eq_some_iff _ _).mpr defect
      simp only [rejection?, refusal?_eq_none_iff.mpr allowed, bind_kept, given, Option.bind_some,
        met, Option.map_some]

/-- Exactly the reports of sources that may speak are taken, if their keys are their own. The others
are turned down for the first reason there is. In the keys of a report, nothing after the first
defect makes a difference. -/
theorem takes_proper (l : Ledger) (c : Catalogue) (g : ProfileGroup) (place : Slot) :
    (∀ report, (∃ changed, (l.submit c g place report).answer = .ok changed) ↔
      MaySpeak c g place ∧ Proper report) ∧
    (∀ report e, (l.submit c g place report).answer = .error e ↔
      TurnedDown c g place report e) ∧
    ∀ (before : List Report.Key) (k : Report.Key) (d : Report.Defect) (r r' : Report),
      Report.Flawless before → k.defect? before = some d →
      before ++ [k] <+: r.reading → before ++ [k] <+: r'.reading →
      (l.submit c g place (some r)).answer = (l.submit c g place (some r')).answer := by
  refine ⟨fun report => (submit_ok_iff l).trans rejection?_eq_none_iff,
    fun report e => (submit_error_iff l).trans rejection?_eq_some_iff,
    fun before k d r r' flawless wrong leading leading' => ?_⟩
  have found := Report.defect?_of_prefix flawless wrong leading
  have found' := Report.defect?_of_prefix flawless wrong leading'
  have alike : rejection? c g place (some r) = rejection? c g place (some r') := by
    simp only [rejection?, bind_kept, Option.bind_some, found, found']
  cases verdict : rejection? c g place (some r) with
  | some e =>
    rw [(submit_error_iff l).mpr verdict, (submit_error_iff l).mpr (alike.symm.trans verdict)]
  | none =>
    have proper := (rejection?_eq_none_iff.mp verdict).2
    rw [← bind_defect?_eq_none_iff, Option.bind_some, found] at proper
    cases proper

/-- In two issues, actions with the same key are taken. An issue's key that comes up again is not,
whether or not the next issue has one. -/
theorem takes_proper_of_locks :
    let c : Catalogue := ⟨[{ id := ⟨"lock"⟩ }]⟩
    let g : ProfileGroup := .single ⟨1⟩
    let place : Slot := ⟨⟨"lock"⟩, ⟨1⟩⟩
    let fix : Action := ⟨"fix", "Fix", true, "fix"⟩
    let pin : Issue := { key := "pin", severity := .information, actions := [fix] }
    let age : Issue := { key := "age", severity := .information, actions := [fix] }
    let fine : Report := { session := "first", issues := [pin, age] }
    let twice : Report := fine.withIssue pin
    let worse : Report := twice.withIssue { key := "", severity := .information }
    let before : List Report.Key :=
      [.issue "pin", .action "pin" "fix", .issue "age", .action "age" "fix"]
    (∃ changed, ((∅ : Ledger).submit c g place (some fine)).answer = .ok changed) ∧
      ((∅ : Ledger).submit c g place (some twice)).answer =
        .error (.invalidReport ⟨"lock"⟩ "duplicate issue key pin") ∧
      Report.Flawless before ∧
      (Report.Key.issue "pin").defect? before = some (.duplicateIssueKey "pin") ∧
      before ++ [.issue "pin"] <+: twice.reading ∧ before ++ [.issue "pin"] <+: worse.reading ∧
      ((∅ : Ledger).submit c g place (some twice)).answer =
        ((∅ : Ledger).submit c g place (some worse)).answer := by
  intro c g place fix pin age fine twice worse before
  obtain ⟨taken, turnedDown, alike⟩ := takes_proper ∅ c g place
  have allowed : MaySpeak c g place := ⟨_, rfl, rfl, rfl⟩
  have valid : fine.Valid := (Report.defect?_eq_none_iff fine).mp (by decide)
  have flawless : Report.Flawless before := ⟨by decide, by decide⟩
  have wrong : (Report.Key.issue "pin").defect? before = some (.duplicateIssueKey "pin") := by decide
  have leading : before ++ [.issue "pin"] <+: twice.reading := by decide
  have leading' : before ++ [.issue "pin"] <+: worse.reading := by decide
  refine ⟨(taken (some fine)).mpr ⟨allowed, ?_⟩, (turnedDown (some twice) _).mpr ?_, flawless, wrong,
    leading, leading', alike before _ _ twice worse flawless wrong leading leading'⟩
  · rintro r ⟨⟩
    exact .inr valid
  · exact .invalidReport allowed rfl ⟨before, _, leading, flawless, wrong⟩

end SafetyCenter.Ledger
