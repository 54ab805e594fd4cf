import Mathlib.Algebra.GroupWithZero.Nat
import SafetyCenter.Proofs.Center.Journal
import SafetyCenter.Proofs.Center.Progress

set_option autoImplicit false

namespace SafetyCenter

namespace Task

/-- How many steps a stage may take. A round takes one more than its calls and its end, to get the
right to broadcast. -/
def stepsOf : Stage → Nat
  | .deliver _ _ observers => observers.length + 1
  | .dispatch .. => 1
  | .round r => (r.calls 0).length + 2

def left (t : Task) : Nat :=
  if t.stages = [] then 0 else (t.stages.map stepsOf).sum + if t.broadcasts then 0 else 1

variable {t t' : Task} {refreshId : Nat} {c : Call}

theorem left_of_nil (ended : t.stages = []) : t.left = 0 :=
  if_pos ended

theorem left_cons (group : Option ProfileGroup) (stage : Stage) (stages : List Stage) (b : Bool) :
    left ⟨group, stage :: stages, b⟩ =
      stepsOf stage + (stages.map stepsOf).sum + if b then 0 else 1 := by
  simp [left]

theorem left_le (t : Task) : t.left ≤ (t.stages.map stepsOf).sum + if t.broadcasts then 0 else 1 := by
  unfold left
  split
  · exact Nat.zero_le _
  · exact Nat.le_refl _

theorem Makes.left_lt (makes : t.Makes refreshId c t') : t'.left < t.left := by
  cases makes with
  | deliver group view error before after o stages b =>
    simp only [left_cons, stepsOf, List.length_append, List.length_cons]
    omega
  | dispatch group target user kind stages b =>
    have rest := left_le ⟨group, stages, b⟩
    simp only [left_cons, stepsOf] at rest ⊢
    omega
  | refresh group reason source user targets stages =>
    simp only [left_cons, stepsOf, Round.calls, List.length_map, List.length_cons]
    omega
  | announce group value source sources stages =>
    simp only [left_cons, stepsOf, Round.calls, List.length_map, List.length_cons]
    omega

theorem Passes.left_lt (passes : t.Passes t') : t'.left < t.left := by
  cases passes with
  | delivered group view error stages b =>
    have rest := left_le ⟨group, stages, b⟩
    simp only [left_cons, stepsOf] at rest ⊢
    omega
  | refreshed group reason stages =>
    have rest := left_le ⟨group, stages, false⟩
    simp only [left_cons, stepsOf, Bool.false_eq_true, if_false, if_true] at rest ⊢
    omega
  | announced group value stages =>
    have rest := left_le ⟨group, stages, false⟩
    simp only [left_cons, stepsOf, Bool.false_eq_true, if_false, if_true] at rest ⊢
    omega

/-- A task goes on unless it is at a round without the right to broadcast. -/
theorem exists_makes_or_passes (refreshId : Nat) {stage : Stage} {rest : List Stage}
    (ahead : t.stages = stage :: rest) (able : stage.isRound = true → t.broadcasts = true) :
    ∃ t', (∃ c, t.Makes refreshId c t') ∨ t.Passes t' := by
  obtain ⟨group, stages, b⟩ := t
  cases ahead
  cases stage with
  | deliver view error observers =>
    cases observers with
    | nil => exact ⟨_, Or.inr (.delivered group view error rest b)⟩
    | cons o others => exact ⟨_, Or.inl ⟨_, .deliver group view error [] others o rest b⟩⟩
  | dispatch target user kind => exact ⟨_, Or.inl ⟨_, .dispatch group target user kind rest b⟩⟩
  | round r =>
    cases able rfl
    cases r with
    | refresh reason targets =>
      cases targets with
      | nil => exact ⟨_, Or.inr (.refreshed group reason rest)⟩
      | cons target targets =>
        exact ⟨_, Or.inl ⟨_, .refresh group reason target.1 target.2 targets rest⟩⟩
    | announce value sources =>
      cases sources with
      | nil => exact ⟨_, Or.inr (.announced group value rest)⟩
      | cons source sources => exact ⟨_, Or.inl ⟨_, .announce group value source sources rest⟩⟩

theorem left_pos (underway : t.stages ≠ []) : 0 < t.left := by
  obtain ⟨group, stages, b⟩ := t
  obtain ⟨stage, rest, rfl⟩ := List.exists_cons_of_ne_nil underway
  rw [left_cons]
  have own : 0 < stepsOf stage := by cases stage <;> simp [stepsOf]
  omega

theorem left_granted (underway : t.stages ≠ []) (without : t.broadcasts = false) :
    left { t with broadcasts := true } < t.left := by
  simp [left, underway, without]

end Task

namespace Journal

/-- An operation under way makes a call, whatever the answer, goes on behind a stage, or gets the
right to broadcast. None begins, and none is cancelled. -/
def Goes (j j' : Journal) : Prop :=
  j.Step j' ∧ j'.visits = j.visits ∧
    j'.entries.map (·.cancelled) = j.entries.map (·.cancelled)

/-- Whatever the operations under way do, they come to the end of their tails, and until then one of
them can always go on. -/
inductive Ends : Journal → Prop where
  | returned (j : Journal) (ended : ∀ e ∈ j.entries, e.task.stages = []) : Ends j
  | goesOn (j : Journal) (able : ∃ j', j.Goes j') (always : ∀ j', j.Goes j' → Ends j') : Ends j

def left (j : Journal) : Nat :=
  (j.entries.map (·.task.left)).sum

variable {j j' : Journal}

theorem left_replace {before after : List Entry} {e e' : Entry}
    (entries : j.entries = before ++ e :: after) (entries' : j'.entries = before ++ e' :: after)
    (fewer : e'.task.left < e.task.left) : j'.left < j.left := by
  simp only [left, entries, entries', List.map_append, List.map_cons, List.sum_append,
    List.sum_cons]
  omega

/-- Every step but the beginning of an operation brings the end nearer. -/
theorem Step.left_lt (next : j.Step j') (begun : j'.visits = j.visits) : j'.left < j.left := by
  obtain ⟨k, k', next, rfl, rfl⟩ := next
  cases next with
  | enter groups op => simp [visits_enter] at begun
  | call before after e c t ok entries makes => exact left_replace entries rfl makes.left_lt
  | pass before after e t entries passes => exact left_replace entries rfl passes.left_lt
  | acquire before after e round rest refreshId entries waits free =>
    have underway : e.task.stages ≠ [] := by simp [waits]
    exact left_replace entries rfl (Task.left_granted underway (free e (by simp [entries])))
  | cancel before after e entries underway =>
    refine left_replace entries rfl ?_
    rw [Task.left_of_nil (t := e.cancel.task) rfl]
    exact Task.left_pos underway

/-- A task that can go on is a step of the journal. -/
theorem goes_of_task {before after : List Entry} {e : Entry}
    (entries : j.entries = before ++ e :: after)
    (able : ∃ t', (∃ c, e.task.Makes e.refreshId c t') ∨ e.task.Passes t') : ∃ j', j.Goes j' := by
  obtain ⟨t', ⟨c, makes⟩ | passes⟩ := able
  · exact ⟨_, .call j before after e c t' true entries makes, by simp [visits, entries],
      by simp [entries]⟩
  · exact ⟨_, .pass j before after e t' entries passes, by simp [visits, entries],
      by simp [entries]⟩

/-- While an operation is under way, one can go on: whoever has the right to broadcast, or any, if
nobody has it. -/
theorem Reachable.exists_goes (reachable : j.Reachable) {e : Entry} (member : e ∈ j.entries)
    (underway : e.task.stages ≠ []) : ∃ j', j.Goes j' := by
  by_cases free : ∀ other ∈ j.entries, other.task.broadcasts = false
  · obtain ⟨before, after, entries⟩ := List.append_of_mem member
    obtain ⟨stage, rest, ahead⟩ := List.exists_cons_of_ne_nil underway
    cases round : stage.isRound with
    | false => exact goes_of_task entries (Task.exists_makes_or_passes _ ahead (by simp [round]))
    | true =>
      cases stage with
      | round r =>
        exact ⟨_, .acquire j before after e r rest 0 entries ahead free,
          by simp [visits, entries, Entry.granted], by simp [entries, Entry.granted]⟩
      | deliver view error observers => cases round
      | dispatch target user kind => cases round
  · push Not at free
    obtain ⟨holder, inside, has⟩ := free
    rw [ne_eq, Bool.not_eq_false] at has
    obtain ⟨before, after, entries⟩ := List.append_of_mem inside
    obtain ⟨round, rest, ahead⟩ := reachable.rightful holder inside has
    exact goes_of_task entries (Task.exists_makes_or_passes _ ahead fun _ => has)

/-- All operations come to their end. The induction is on how many steps they may take. -/
theorem Reachable.ends (reachable : j.Reachable) : j.Ends := by
  induction steps : j.left using Nat.strongRecOn generalizing j with
  | ind n ih =>
    by_cases ended : ∀ e ∈ j.entries, e.task.stages = []
    · exact .returned j ended
    · push Not at ended
      obtain ⟨e, member, underway⟩ := ended
      refine .goesOn j (reachable.exists_goes member underway) fun j' goes => ?_
      have fewer : j'.left < n := steps ▸ goes.1.left_lt goes.2.1
      exact ih j'.left fewer (reachable.step goes.1) rfl

end Journal

end SafetyCenter
