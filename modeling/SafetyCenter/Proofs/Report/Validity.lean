import SafetyCenter.Report

set_option autoImplicit false

namespace SafetyCenter

theorem find?_key_eq_some_iff {α κ : Type} [DecidableEq κ] {key : α → κ} {xs : List α} {k : κ}
    {x : α} (distinct : (xs.map key).Nodup) :
    xs.find? (key · = k) = some x ↔ x ∈ xs ∧ key x = k := by
  induction xs with
  | nil => simp
  | cons y ys ih =>
    rw [List.map_cons, List.nodup_cons] at distinct
    by_cases here : key y = k
    · rw [List.find?_cons_of_pos (by simpa using here), Option.some.injEq]
      constructor
      · rintro rfl
        exact ⟨List.mem_cons_self, here⟩
      · intro given
        obtain ⟨member, same⟩ := given
        rcases List.mem_cons.mp member with rfl | later
        · rfl
        · refine absurd ?_ distinct.1
          rw [here, ← same]
          exact List.mem_map_of_mem later
    · rw [List.find?_cons_of_neg (by simpa using here), ih distinct.2, List.mem_cons]
      constructor
      · intro given
        obtain ⟨member, same⟩ := given
        exact ⟨Or.inr member, same⟩
      · intro given
        obtain ⟨rfl | member, same⟩ := given
        · exact absurd same here
        · exact ⟨member, same⟩

namespace Report

/-- Keys are not empty and not used twice. -/
structure Keyed {α : Type} (key : α → String) (xs : List α) : Prop where
  nonempty : ∀ x ∈ xs, key x ≠ ""
  distinct : (xs.map key).Nodup

/-- Issues and the actions of each issue have keys of their own. -/
structure Valid (r : Report) : Prop where
  issues : Keyed Issue.key r.issues
  actions : ∀ i ∈ r.issues, Keyed Action.key i.actions

theorem keyed_nil {α : Type} (key : α → String) : Keyed key [] :=
  ⟨by simp, List.nodup_nil⟩

/-- What a reader of keys has to know of the first one, if it remembers the keys before it. -/
theorem keyed_cons_iff {α : Type} {key : α → String} {x : α} {xs : List α} {seen : List String} :
    (Keyed key (x :: xs) ∧ ∀ y ∈ x :: xs, key y ∉ seen) ↔
      key x ≠ "" ∧ key x ∉ seen ∧ Keyed key xs ∧ ∀ y ∈ xs, key y ∉ key x :: seen := by
  constructor
  · intro given
    obtain ⟨⟨nonempty, distinct⟩, fresh⟩ := given
    rw [List.forall_mem_cons] at nonempty fresh
    rw [List.map_cons, List.nodup_cons] at distinct
    refine ⟨nonempty.1, fresh.1, ⟨nonempty.2, distinct.2⟩, fun y member => ?_⟩
    have other : key y ≠ key x := fun same => distinct.1 (same ▸ List.mem_map_of_mem member)
    exact List.not_mem_cons_of_ne_of_not_mem other (fresh.2 y member)
  · intro given
    obtain ⟨first, fresh, ⟨nonempty, distinct⟩, later⟩ := given
    have apart : key x ∉ xs.map key := by
      intro member
      obtain ⟨y, inside, same⟩ := List.mem_map.mp member
      exact List.ne_of_not_mem_cons (later y inside) same
    refine ⟨⟨List.forall_mem_cons.mpr ⟨first, nonempty⟩, ?_⟩,
      List.forall_mem_cons.mpr ⟨fresh, fun y member => ?_⟩⟩
    · rw [List.map_cons, List.nodup_cons]
      exact ⟨apart, distinct⟩
    · exact List.not_mem_of_not_mem_cons (later y member)

theorem actionDefect?_eq_none_iff (issue : String) (seen : List String) (as : List Action) :
    actionDefect? issue seen as = none ↔ Keyed Action.key as ∧ ∀ a ∈ as, a.key ∉ seen := by
  induction as generalizing seen with
  | nil => simp [actionDefect?, keyed_nil]
  | cons a as ih =>
    rw [keyed_cons_iff]
    unfold actionDefect?
    split
    · rename_i empty
      simp [empty]
    · rename_i nonempty
      split
      · rename_i twice
        simp [twice]
      · rename_i fresh
        rw [ih]
        simp [nonempty, fresh]

theorem issueDefect?_eq_none_iff (seen : List String) (is : List Issue) :
    issueDefect? seen is = none ↔
      (Keyed Issue.key is ∧ ∀ i ∈ is, i.key ∉ seen) ∧ ∀ i ∈ is, Keyed Action.key i.actions := by
  induction is generalizing seen with
  | nil => simp [issueDefect?, keyed_nil]
  | cons i is ih =>
    rw [keyed_cons_iff, List.forall_mem_cons]
    unfold issueDefect?
    split
    · rename_i empty
      simp [empty]
    · rename_i nonempty
      split
      · rename_i twice
        simp [twice]
      · rename_i fresh
        have own := actionDefect?_eq_none_iff i.key [] i.actions
        split
        · rename_i defect found
          rw [found] at own
          simpa using fun _ _ _ _ keyed => absurd (own.mpr ⟨keyed, by simp⟩) (by simp)
        · rename_i found
          rw [ih]
          have keyed := (own.mp found).1
          simp [nonempty, fresh, keyed, and_assoc]

/-- Exactly the reports with keys of their own have no defect. -/
theorem defect?_eq_none_iff (r : Report) : r.defect? = none ↔ r.Valid := by
  rw [defect?, issueDefect?_eq_none_iff]
  constructor
  · intro given
    obtain ⟨⟨issues, -⟩, actions⟩ := given
    exact ⟨issues, actions⟩
  · intro given
    obtain ⟨issues, actions⟩ := given
    exact ⟨⟨issues, by simp⟩, actions⟩

/-- The issue that an id means is the one with its key, if session and type agree. -/
theorem Valid.lookup?_eq_some_iff {r : Report} (valid : r.Valid) {id : IssueId} {i : Issue} :
    r.lookup? id = some i ↔
      r.session = id.session ∧ i ∈ r.issues ∧ i.key = id.issueKey ∧ i.issueType = id.issueType := by
  unfold lookup? issue?
  by_cases session : r.session = id.session
  · rw [if_pos session, Option.filter_eq_some_iff, find?_key_eq_some_iff valid.issues.distinct]
    simp [session, and_assoc]
  · simp [session]

/-- The action of an issue with a key. -/
theorem Valid.action?_eq_some_iff {r : Report} (valid : r.Valid) {i : Issue} (member : i ∈ r.issues)
    {key : String} {a : Action} : i.action? key = some a ↔ a ∈ i.actions ∧ a.key = key :=
  find?_key_eq_some_iff (valid.actions i member).distinct

end Report

end SafetyCenter
