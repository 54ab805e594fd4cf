import SafetyCenter.View

set_option autoImplicit false

namespace SafetyCenter

namespace View

theorem keepFirst_sublist (is : List View.Issue) : (keepFirst is).Sublist is := by
  induction is with
  | nil => exact List.Sublist.refl []
  | cons i is ih => exact (List.filter_sublist.trans ih).cons_cons i

/-- No id is kept twice. -/
theorem nodup_keepFirst (is : List View.Issue) : ((keepFirst is).map (·.id)).Nodup := by
  induction is with
  | nil => exact List.nodup_nil
  | cons i is ih =>
    rw [keepFirst, List.map_cons, List.nodup_cons]
    constructor
    · intro again
      obtain ⟨j, kept, same⟩ := List.mem_map.mp again
      have other : j.id ≠ i.id := by simpa using (List.mem_filter.mp kept).2
      exact other same
    · exact ih.sublist (List.filter_sublist.map _)

/-- No id is lost. -/
theorem exists_mem_keepFirst {is : List View.Issue} {id : IssueId} :
    (∃ i ∈ keepFirst is, i.id = id) ↔ ∃ i ∈ is, i.id = id := by
  constructor
  · intro given
    obtain ⟨i, kept, same⟩ := given
    exact ⟨i, (keepFirst_sublist is).mem kept, same⟩
  · intro given
    induction is with
    | nil => exact given
    | cons i is ih =>
      by_cases first : i.id = id
      · exact ⟨i, List.mem_cons_self, first⟩
      · obtain ⟨j, member, same⟩ := given
        have later : j ∈ is := by
          rcases List.mem_cons.mp member with rfl | later
          · exact absurd same first
          · exact later
        obtain ⟨k, kept, meant⟩ := ih ⟨j, later, same⟩
        have other : k.id ≠ i.id := by
          rw [meant]
          exact Ne.symm first
        exact ⟨k, List.mem_cons_of_mem i (List.mem_filter.mpr ⟨kept, by simpa using other⟩), meant⟩

/-- Issues with ids of their own are all kept. -/
theorem keepFirst_of_nodup {is : List View.Issue} (distinct : (is.map (·.id)).Nodup) :
    keepFirst is = is := by
  induction is with
  | nil => rfl
  | cons i is ih =>
    rw [List.map_cons, List.nodup_cons] at distinct
    have others : ∀ j ∈ is, j.id ≠ i.id := by
      intro j member same
      exact distinct.1 (same ▸ List.mem_map_of_mem member)
    rw [keepFirst, ih distinct.2, List.filter_eq_self.mpr]
    intro j member
    simpa using others j member

/-- Issues of one severity keep their order. -/
theorem filter_rankIssues (is : List View.Issue) (severity : Severity) :
    (rankIssues is).filter (·.severity = severity) = is.filter (·.severity = severity) := by
  have own : ∀ s : Severity,
      (is.filter (·.severity = s)).filter (·.severity = severity) =
        if s = severity then is.filter (·.severity = severity) else [] := by
    intro s
    split
    · rename_i same
      rw [same, List.filter_filter]
      simp
    · rename_i other
      rw [List.filter_filter, List.filter_eq_nil_iff]
      intro i member
      simp only [Bool.and_eq_true, decide_eq_true_eq, not_and]
      intro first second
      exact other (second.symm.trans first)
  rw [rankIssues, List.filter_flatMap]
  simp only [own]
  cases severity <;> simp [Severity.descending]

/-- Leaving issues out before ranking or after it comes to the same. -/
theorem rankIssues_filter (p : View.Issue → Bool) (is : List View.Issue) :
    rankIssues (is.filter p) = (rankIssues is).filter p := by
  have own : ∀ severity : Severity, (is.filter p).filter (·.severity = severity) =
      (is.filter (·.severity = severity)).filter p := by
    intro severity
    rw [List.filter_filter, List.filter_filter]
    exact List.filter_congr fun i _ => Bool.and_comm _ _
  simp only [rankIssues, List.filter_flatMap, own]

/-- What leaves severities alone can be done before ranking or after it. -/
theorem rankIssues_map {f : View.Issue → View.Issue} (keeps : ∀ i, (f i).severity = i.severity)
    (is : List View.Issue) : rankIssues (is.map f) = (rankIssues is).map f := by
  simp only [rankIssues, List.map_flatMap, List.filter_map, Function.comp_def, keeps]

/-- Ranking loses no issue and repeats none. -/
theorem rankIssues_perm (is : List View.Issue) : (rankIssues is).Perm is := by
  rw [List.perm_iff_count]
  intro i
  have counted : ∀ js : List View.Issue,
      js.count i = (js.filter (·.severity = i.severity)).count i := by
    intro js
    rw [List.count_filter (by simp)]
  rw [counted, counted is, filter_rankIssues]

/-- No issue comes before a graver one. -/
theorem pairwise_rankIssues (is : List View.Issue) :
    (rankIssues is).Pairwise fun a b => b.severity ≤ a.severity := by
  rw [rankIssues, List.pairwise_flatMap]
  constructor
  · intro severity member
    apply List.pairwise_of_forall_mem_list
    intro a first b second
    have left : a.severity = severity := by simpa using (List.mem_filter.mp first).2
    have right : b.severity = severity := by simpa using (List.mem_filter.mp second).2
    rw [left, right]
    exact Nat.le_refl severity.rank
  · have falling : Severity.descending.Pairwise fun s t => t ≤ s := by decide
    refine falling.imp ?_
    intro s t less a first b second
    have left : a.severity = s := by simpa using (List.mem_filter.mp first).2
    have right : b.severity = t := by simpa using (List.mem_filter.mp second).2
    rw [left, right]
    exact less

end View

namespace Overall

theorem le_max_left (a b : Overall) : a ≤ a.max b := by
  show a.rank ≤ (a.max b).rank
  rw [rank_max]
  exact Nat.le_max_left a.rank b.rank

theorem le_max_right (a b : Overall) : b ≤ a.max b := by
  show b.rank ≤ (a.max b).rank
  rw [rank_max]
  exact Nat.le_max_right a.rank b.rank

theorem max_cases (a b : Overall) : a.max b = a ∨ a.max b = b := by
  unfold max
  split
  · exact Or.inr rfl
  · exact Or.inl rfl

/-- The gravest is the least that was asked for, or one of the list. -/
theorem gravest_cases (least : Overall) (l : List Overall) :
    gravest least l = least ∨ gravest least l ∈ l := by
  induction l generalizing least with
  | nil => exact Or.inl rfl
  | cons x l ih =>
    rcases ih (least.max x) with same | member
    · rcases max_cases least x with left | right
      · exact Or.inl (same.trans left)
      · refine Or.inr (List.mem_cons.mpr (Or.inl ?_))
        exact same.trans right
    · exact Or.inr (List.mem_cons_of_mem x member)

/-- Nothing asked for and nothing in the list is graver than the gravest. -/
theorem le_gravest (least : Overall) (l : List Overall) :
    least ≤ gravest least l ∧ ∀ x ∈ l, x ≤ gravest least l := by
  induction l generalizing least with
  | nil => exact ⟨Nat.le_refl least.rank, by simp⟩
  | cons x l ih =>
    obtain ⟨least_le, all_le⟩ := ih (least.max x)
    refine ⟨Nat.le_trans (le_max_left least x) least_le, ?_⟩
    intro y member
    rcases List.mem_cons.mp member with rfl | later
    · exact Nat.le_trans (le_max_right least y) least_le
    · exact all_le y later

end Overall

end SafetyCenter
