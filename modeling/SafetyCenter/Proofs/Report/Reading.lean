import SafetyCenter.Report

/-!
The keys of a report in the order in which they are read, each issue's before those of its actions.
The first key that is empty or was read before decides what is wrong with the report, and what comes
after it has no say. An action's key is read together with that of its issue, so two issues may well
have actions with the same key.
-/

set_option autoImplicit false

namespace SafetyCenter.Report

/-- A key that a report is read to have. -/
inductive Key where
  | issue (text : String)
  | action (issue text : String)
  deriving Repr, DecidableEq

namespace Key

def text : Key → String
  | .issue text => text
  | .action _ text => text

def whenEmpty : Key → Defect
  | .issue _ => .emptyIssueKey
  | .action owner _ => .emptyActionKey owner

def whenTwice : Key → Defect
  | .issue text => .duplicateIssueKey text
  | .action owner text => .duplicateActionKey text owner

/-- What is wrong with a key that is read after others. -/
def defect? (before : List Key) (k : Key) : Option Defect :=
  if k.text = "" then some k.whenEmpty
  else if k ∈ before then some k.whenTwice
  else none

end Key

def issueKeys (i : Issue) : List Key :=
  .issue i.key :: i.actions.map fun a => .action i.key a.key

/-- The keys of a report as they are read. -/
def reading (r : Report) : List Key :=
  r.issues.flatMap issueKeys

/-- No key is empty, and none is read twice. -/
structure Flawless (keys : List Key) : Prop where
  nonempty : ∀ k ∈ keys, k.text ≠ ""
  distinct : keys.Nodup

/-- Up to a key nothing is wrong, and what is wrong with that key is the defect. -/
def FirstDefect (r : Report) (d : Defect) : Prop :=
  ∃ before k, before ++ [k] <+: r.reading ∧ Flawless before ∧ k.defect? before = some d

/-- What is wrong with the first of these keys with which anything is, after others. -/
def firstDefect? (before : List Key) : List Key → Option Defect
  | [] => none
  | k :: keys =>
    match k.defect? before with
    | some d => some d
    | none => firstDefect? (before ++ [k]) keys

theorem flawless_nil : Flawless [] :=
  ⟨List.forall_mem_nil _, List.nodup_nil⟩

theorem flawless_concat_iff {before : List Key} {k : Key} :
    Flawless (before ++ [k]) ↔ Flawless before ∧ k.defect? before = none := by
  have sound : k.defect? before = none ↔ k.text ≠ "" ∧ k ∉ before := by
    unfold Key.defect?
    split
    · rename_i empty
      simp [empty]
    · rename_i nonempty
      simp [nonempty]
  rw [sound]
  constructor
  · intro given
    obtain ⟨nonempty, distinct⟩ := given
    rw [List.forall_mem_append, List.forall_mem_singleton] at nonempty
    obtain ⟨distinct, -, apart⟩ := List.nodup_append.mp distinct
    exact ⟨⟨nonempty.1, distinct⟩, nonempty.2,
      fun member => apart k member k List.mem_cons_self rfl⟩
  · intro given
    obtain ⟨⟨nonempty, distinct⟩, last, fresh⟩ := given
    constructor
    · rw [List.forall_mem_append, List.forall_mem_singleton]
      exact ⟨nonempty, last⟩
    · refine List.nodup_append.mpr ⟨distinct, List.pairwise_singleton _ k, fun earlier member => ?_⟩
      exact List.forall_mem_singleton.mpr (ne_of_mem_of_not_mem member fresh)

theorem Flawless.of_append {before after : List Key} (flawless : Flawless (before ++ after)) :
    Flawless before :=
  ⟨fun k member => flawless.nonempty k (List.mem_append_left after member),
    flawless.distinct.sublist (List.sublist_append_left before after)⟩

theorem firstDefect?_append (before first second : List Key) :
    firstDefect? before (first ++ second) =
      (firstDefect? before first).or (firstDefect? (before ++ first) second) := by
  induction first generalizing before with
  | nil => rw [List.nil_append, List.append_nil, firstDefect?, Option.none_or]
  | cons k first ih =>
    rw [List.cons_append, firstDefect?, firstDefect?]
    cases k.defect? before with
    | some d => rfl
    | none => rw [ih, List.append_assoc, List.singleton_append]

/-- A scan stops at the first key with which anything is wrong. -/
theorem firstDefect?_eq_some_iff {before : List Key} (flawless : Flawless before)
    (keys : List Key) (d : Defect) :
    firstDefect? before keys = some d ↔
      ∃ first k, first ++ [k] <+: keys ∧ Flawless (before ++ first) ∧
        k.defect? (before ++ first) = some d := by
  induction keys generalizing before with
  | nil => simp [firstDefect?]
  | cons key keys ih =>
    rw [firstDefect?]
    cases verdict : key.defect? before with
    | some found =>
      constructor
      · rintro ⟨⟩
        exact ⟨[], key, ⟨keys, rfl⟩, by rwa [List.append_nil], by rwa [List.append_nil]⟩
      · intro given
        obtain ⟨first, k, leading, flawless', wrong⟩ := given
        cases first with
        | nil =>
          obtain ⟨rfl, -⟩ := List.cons_prefix_cons.mp leading
          rw [List.append_nil, verdict] at wrong
          exact wrong
        | cons key' first =>
          obtain ⟨rfl, -⟩ := List.cons_prefix_cons.mp leading
          rw [← List.singleton_append, ← List.append_assoc] at flawless'
          have clean := (flawless_concat_iff.mp flawless'.of_append).2
          rw [verdict] at clean
          cases clean
    | none =>
      show firstDefect? (before ++ [key]) keys = some d ↔ _
      rw [ih (flawless_concat_iff.mpr ⟨flawless, verdict⟩)]
      simp only [List.append_assoc, List.singleton_append]
      constructor
      · intro given
        obtain ⟨first, k, leading, rest⟩ := given
        exact ⟨key :: first, k, List.cons_prefix_cons.mpr ⟨rfl, leading⟩, rest⟩
      · intro given
        obtain ⟨first, k, leading, flawless', wrong⟩ := given
        cases first with
        | nil =>
          obtain ⟨rfl, -⟩ := List.cons_prefix_cons.mp leading
          rw [List.append_nil, verdict] at wrong
          cases wrong
        | cons key' first =>
          obtain ⟨rfl, later⟩ := List.cons_prefix_cons.mp leading
          exact ⟨first, k, later, flawless', wrong⟩

/-- To read the actions of an issue it is enough to remember the keys of its actions. -/
theorem actionDefect?_eq {issue : String} {seen : List String} {before : List Key}
    (remembered : ∀ text, text ∈ seen ↔ .action issue text ∈ before) (as : List Action) :
    actionDefect? issue seen as = firstDefect? before (as.map fun a => .action issue a.key) := by
  induction as generalizing seen before with
  | nil => rfl
  | cons a as ih =>
    have later : ∀ text, text ∈ a.key :: seen ↔
        Key.action issue text ∈ before ++ [.action issue a.key] := by
      intro text
      simp [remembered, or_comm]
    simp only [List.map_cons, firstDefect?, actionDefect?, ih later, Key.defect?, ← remembered]
    by_cases empty : a.key = ""
    · simp [empty, Key.text, Key.whenEmpty]
    · by_cases twice : a.key ∈ seen
      · simp [empty, twice, Key.text, Key.whenTwice]
      · simp [empty, twice, Key.text]

/-- To read issues it is enough to remember the keys of issues: in an issue with another key, its
actions are others. -/
theorem issueDefect?_eq {seen : List String} {before : List Key}
    (remembered : ∀ text, text ∈ seen ↔ .issue text ∈ before)
    (owned : ∀ issue text, .action issue text ∈ before → .issue issue ∈ before)
    (is : List Issue) : issueDefect? seen is = firstDefect? before (is.flatMap issueKeys) := by
  induction is generalizing seen before with
  | nil => rfl
  | cons i is ih =>
    have later : ∀ text, text ∈ i.key :: seen ↔ Key.issue text ∈ before ++ issueKeys i := by
      intro text
      simp [remembered, issueKeys, or_comm]
    have owned' : ∀ issue text, .action issue text ∈ before ++ issueKeys i →
        .issue issue ∈ before ++ issueKeys i := by
      intro issue text member
      rcases List.mem_append.mp member with earlier | own
      · exact List.mem_append_left _ (owned issue text earlier)
      · rw [issueKeys, List.mem_cons, List.mem_map] at own
        rcases own with same | ⟨a, -, same⟩
        · cases same
        · cases same
          exact List.mem_append_right _ List.mem_cons_self
    rw [List.flatMap_cons, firstDefect?_append, ← ih later owned', issueDefect?, issueKeys,
      firstDefect?]
    simp only [Key.defect?, ← remembered]
    by_cases empty : i.key = ""
    · simp [empty, Key.text, Key.whenEmpty]
    · by_cases twice : i.key ∈ seen
      · simp [empty, twice, Key.text, Key.whenTwice]
      · have unread : ∀ text, text ∈ [] ↔ Key.action i.key text ∈ before ++ [.issue i.key] := by
          intro text
          have fresh : Key.action i.key text ∉ before := fun member =>
            twice ((remembered i.key).mpr (owned i.key text member))
          simp [fresh]
        rw [actionDefect?_eq unread]
        simp only [empty, twice, Key.text, if_false]
        cases firstDefect? _ (i.actions.map fun a => Key.action i.key a.key) with
        | some d => rfl
        | none => rfl

/-- A report is turned down for the first defect met in reading its keys. -/
theorem defect?_eq_some_iff (r : Report) (d : Defect) : r.defect? = some d ↔ r.FirstDefect d := by
  have read : r.defect? = firstDefect? [] r.reading :=
    issueDefect?_eq (by simp) (by simp) r.issues
  rw [read, firstDefect?_eq_some_iff flawless_nil]
  exact Iff.rfl

/-- Another report that is read alike up to the first defect has the same one. -/
theorem defect?_of_prefix {r : Report} {before : List Key} {k : Key} {d : Defect}
    (flawless : Flawless before) (wrong : k.defect? before = some d)
    (leading : before ++ [k] <+: r.reading) : r.defect? = some d :=
  (defect?_eq_some_iff r d).mpr ⟨before, k, leading, flawless, wrong⟩

end SafetyCenter.Report
