import SafetyCenter.Proofs.Center.Journal
import SafetyCenter.Proofs.Center.Rounds

set_option autoImplicit false

namespace SafetyCenter

theorem getElem?_concat_eq_some {α : Type} {l : List α} {a b : α} {n : Nat} :
    (l ++ [a])[n]? = some b ↔ l[n]? = some b ∨ n = l.length ∧ a = b := by
  rcases Nat.lt_trichotomy n l.length with front | rfl | back
  · rw [List.getElem?_append_left front]
    simp [Nat.ne_of_lt front]
  · simp
  · have none : l[n]? = .none := List.getElem?_eq_none (Nat.le_of_lt back)
    have outside : (l ++ [a])[n]? = .none := List.getElem?_eq_none (by simp; omega)
    simp [none, outside, Nat.ne_of_gt back]

theorem getElem?_replace {α : Type} {before after l l' : List α} {a b : α}
    (split : l = before ++ a :: after) (split' : l' = before ++ b :: after) (n : Nat) :
    l'[n]? = if n = before.length then some b else l[n]? := by
  subst split split'
  rcases Nat.lt_trichotomy n before.length with front | rfl | back
  · rw [List.getElem?_append_left front, List.getElem?_append_left front,
      if_neg (Nat.ne_of_lt front)]
  · simp
  · obtain ⟨m, rfl⟩ := Nat.exists_eq_add_of_lt back
    simp [List.getElem?_append_right, Nat.add_assoc]

def Visit.round? (v : Visit) : Option Round :=
  v.op.round? v.groups v.center

def Stage.told (refreshId : Nat) : Stage → List Call
  | .round r => r.calls refreshId
  | .deliver .. | .dispatch .. => []

def Task.toTell (refreshId : Nat) (t : Task) : List Call :=
  t.stages.flatMap (·.told refreshId)

/-- All that an operation is to tell sources, in order. -/
def Visit.toTell (refreshId : Nat) (v : Visit) : List Call :=
  v.round?.toList.flatMap (·.calls refreshId)

def Entry.told (e : Entry) : List Call :=
  e.calls.filter (·.isToSource)

namespace Task

variable {t t' : Task} {refreshId : Nat} {c : Call}

/-- A call to a source is the first of those that the task had still to make. -/
theorem Makes.toTell (makes : t.Makes refreshId c t') :
    t.toTell refreshId = [c].filter (·.isToSource) ++ t'.toTell refreshId := by
  cases makes with
  | deliver group view error before after o stages b => rfl
  | dispatch group target user kind stages b => rfl
  | refresh group reason source user targets stages => rfl
  | announce group value source sources stages => rfl

theorem Makes.toTell_of_outward (makes : t.Makes refreshId c t') (outward : c.isToSource = false)
    (id : Nat) : t'.toTell id = t.toTell id := by
  cases makes with
  | deliver group view error before after o stages b => rfl
  | dispatch group target user kind stages b => rfl
  | refresh group reason source user targets stages => cases outward
  | announce group value source sources stages => cases outward

theorem Passes.toTell (passes : t.Passes t') (refreshId : Nat) :
    t'.toTell refreshId = t.toTell refreshId := by
  cases passes <;> rfl

theorem Prompt.toTell (prompt : t.Prompt) (refreshId : Nat) : t.toTell refreshId = [] := by
  refine List.flatMap_eq_nil_iff.mpr fun stage member => ?_
  have other := prompt stage member
  cases stage with
  | round round => cases other
  | deliver view error observers => rfl
  | dispatch target user kind => rfl

/-- The right to broadcast does not change while calls are made. -/
theorem Makes.broadcasts_eq (makes : t.Makes refreshId c t') : t'.broadcasts = t.broadcasts := by
  cases makes <;> rfl

/-- Sources are called only with the right to broadcast. -/
theorem Makes.isToSource_eq_false (makes : t.Makes refreshId c t') (without : t.broadcasts = false) :
    c.isToSource = false := by
  cases makes with
  | deliver group view error before after o stages b => rfl
  | dispatch group target user kind stages b => rfl
  | refresh group reason source user targets stages => cases without
  | announce group value source sources stages => cases without

/-- A call that is made at a round belongs to it. -/
theorem Makes.of_round {round : Round} {rest : List Stage} (makes : t.Makes refreshId c t')
    (waits : t.stages = .round round :: rest) :
    t.broadcasts = true ∧ ∃ left, t'.stages = .round left :: rest := by
  cases makes with
  | deliver group view error before after o stages b => cases waits
  | dispatch group target user kind stages b => cases waits
  | refresh group reason source user targets stages =>
    cases waits
    exact ⟨rfl, _, rfl⟩
  | announce group value source sources stages =>
    cases waits
    exact ⟨rfl, _, rfl⟩

/-- The right to broadcast is given back behind a round. -/
theorem Passes.of_round {round : Round} {rest : List Stage} (passes : t.Passes t')
    (waits : t.stages = .round round :: rest) :
    t.broadcasts = true ∧ t'.broadcasts = false ∧ t'.stages = rest := by
  cases passes with
  | delivered group view error stages b => cases waits
  | refreshed group reason stages =>
    cases waits
    exact ⟨rfl, rfl, rfl⟩
  | announced group value stages =>
    cases waits
    exact ⟨rfl, rfl, rfl⟩

/-- The right to broadcast is not got behind any other stage. -/
theorem Passes.broadcasts_eq_false (passes : t.Passes t') (without : t.broadcasts = false) :
    t'.broadcasts = false := by
  cases passes with
  | delivered group view error stages b => exact without
  | refreshed group reason stages => rfl
  | announced group value stages => rfl

end Task

theorem Visit.toTell_task (v : Visit) (refreshId : Nat) :
    v.task.toTell refreshId = v.toTell refreshId := by
  rw [toTell]
  cases opens : v.round? with
  | none =>
    have prompt : v.task.Prompt := v.op.prompt_of_round?_eq_none opens
    exact prompt.toTell refreshId
  | some round =>
    rw [Task.toTell, task, outcome, Operation.stages_of_round? opens]
    simp [Stage.told]

namespace Entry

/-- What the operation has told sources and what it has still to tell them is its round, under the id
that it was given. A cancelled one has told them a part of it. -/
structure HoldsRound (e : Entry) : Prop where
  whole : e.cancelled = false →
    e.told ++ e.task.toTell e.refreshId = e.visit.toTell e.refreshId
  part : e.told <+: e.visit.toTell e.refreshId
  ended : e.cancelled = true → e.task.stages = []
  /-- before it gets the right to broadcast, all of the round is before it -/
  ahead : e.task.broadcasts = false → e.task.stages ≠ [] →
    e.told = [] ∧ ∀ refreshId, e.task.toTell refreshId = e.visit.toTell refreshId

/-- An operation that opens a round has nothing else in its tail, and no other operation comes to a
round. -/
def KeepsToRound (e : Entry) : Prop :=
  if e.visit.round?.isSome then e.task.stages = [] ∨ ∃ round, e.task.stages = [.round round]
  else e.task.Prompt

variable {e e' : Entry}

theorem keepsToRound_begun (v : Visit) : (begun v).KeepsToRound := by
  unfold KeepsToRound
  split
  · rename_i opens
    obtain ⟨round, opened⟩ := Option.isSome_iff_exists.mp opens
    exact Or.inr ⟨round, Operation.stages_of_round? opened⟩
  · rename_i opens
    exact Operation.prompt_of_round?_eq_none (Option.not_isSome_iff_eq_none.mp opens)

theorem KeepsToRound.of_isSome (keeps : e.KeepsToRound) (opens : e.visit.round?.isSome = true) :
    e.task.stages = [] ∨ ∃ round, e.task.stages = [.round round] := by
  rwa [KeepsToRound, if_pos opens] at keeps

theorem KeepsToRound.of_isNone (keeps : e.KeepsToRound) (opens : ¬ e.visit.round?.isSome = true) :
    e.task.Prompt := by
  rwa [KeepsToRound, if_neg opens] at keeps

/-- An operation that has nothing left to do makes no more calls. -/
theorem Moves.of_ended (moves : e.Moves e') (ended : e.task.stages = []) :
    e'.task.stages = [] ∧ e'.calls = e.calls := by
  cases moves with
  | call c t makes => exact absurd ended makes.stages_ne_nil
  | pass t passes => exact absurd ended passes.stages_ne_nil
  | acquire => exact ⟨ended, rfl⟩
  | cancel => exact ⟨rfl, rfl⟩

theorem KeepsToRound.moves (keeps : e.KeepsToRound) (moves : e.Moves e') : e'.KeepsToRound := by
  unfold KeepsToRound
  rw [moves.visit]
  split
  · rename_i opens
    rcases keeps.of_isSome opens with ended | ⟨round, waits⟩
    · exact Or.inl (moves.of_ended ended).1
    · cases moves with
      | call c t makes =>
        obtain ⟨-, left, stages⟩ := makes.of_round waits
        exact Or.inr ⟨left, stages⟩
      | pass t passes => exact Or.inl (passes.of_round waits).2.2
      | acquire => exact Or.inr ⟨round, waits⟩
      | cancel => exact Or.inl rfl
  · rename_i opens
    have prompt := keeps.of_isNone opens
    cases moves with
    | call c t makes => exact prompt.makes makes
    | pass t passes => exact prompt.passes passes
    | acquire => exact prompt
    | cancel => simp [Task.Prompt, cancel]

/-- The right to broadcast is given back at the end of the tail. -/
theorem KeepsToRound.ended_of_passes (keeps : e.KeepsToRound) {t : Task} (passes : e.task.Passes t)
    (right : e.task.broadcasts = true) (without : t.broadcasts = false) : t.stages = [] := by
  unfold KeepsToRound at keeps
  split at keeps
  · rcases keeps with ended | ⟨round, waits⟩
    · exact absurd ended passes.stages_ne_nil
    · exact (passes.of_round waits).2.2
  · rename_i opens
    obtain ⟨visit, task, calls, refreshId, cancelled⟩ := e
    cases passes with
    | delivered group view error stages b =>
      exact absurd (without.symm.trans right) Bool.false_ne_true
    | refreshed group reason stages => cases keeps _ List.mem_cons_self
    | announced group value stages => cases keeps _ List.mem_cons_self

theorem holdsRound_begun (v : Visit) : (begun v).HoldsRound where
  whole := fun _ => v.toTell_task _
  part := List.nil_prefix
  ended := nofun
  ahead := fun _ _ => ⟨rfl, v.toTell_task⟩

theorem HoldsRound.call (holds : e.HoldsRound) {c : Call} {t : Task}
    (makes : e.task.Makes e.refreshId c t) :
    HoldsRound { e with task := t, calls := e.calls ++ [c] } := by
  have uncancelled : e.cancelled = false := by
    by_contra cancelled
    exact makes.stages_ne_nil (holds.ended (Bool.not_eq_false _ ▸ cancelled))
  have whole := holds.whole uncancelled
  have told : Entry.told { e with task := t, calls := e.calls ++ [c] } =
      e.told ++ [c].filter (·.isToSource) := List.filter_append ..
  rw [makes.toTell, ← List.append_assoc] at whole
  refine ⟨fun _ => told ▸ whole, ⟨t.toTell e.refreshId, told ▸ whole⟩, ?_, fun without left => ?_⟩
  · exact fun cancelled => absurd (uncancelled.symm.trans cancelled) Bool.false_ne_true
  · have without : e.task.broadcasts = false := makes.broadcasts_eq ▸ without
    obtain ⟨silent, same⟩ := holds.ahead without makes.stages_ne_nil
    have outward := makes.isToSource_eq_false without
    refine ⟨by simp [told, silent, outward], fun refreshId => ?_⟩
    exact (makes.toTell_of_outward outward refreshId).trans (same refreshId)

theorem HoldsRound.pass (holds : e.HoldsRound) (keeps : e.KeepsToRound) {t : Task}
    (passes : e.task.Passes t) : HoldsRound { e with task := t } := by
  refine ⟨fun uncancelled => ?_, holds.part, fun cancelled => ?_, fun without left => ?_⟩
  · rw [← holds.whole uncancelled, ← passes.toTell e.refreshId]
    rfl
  · exact absurd (holds.ended cancelled) passes.stages_ne_nil
  · cases right : e.task.broadcasts with
    | false =>
      obtain ⟨silent, same⟩ := holds.ahead right passes.stages_ne_nil
      exact ⟨silent, fun refreshId => (passes.toTell refreshId).trans (same refreshId)⟩
    | true => exact absurd (keeps.ended_of_passes passes right without) left

theorem HoldsRound.granted (holds : e.HoldsRound) {round : Round} {rest : List Stage}
    (waits : e.task.stages = .round round :: rest) (without : e.task.broadcasts = false)
    (refreshId : Nat) : (e.granted refreshId).HoldsRound := by
  obtain ⟨silent, same⟩ := holds.ahead without (by simp [waits])
  have whole : e.told ++ e.task.toTell refreshId = e.visit.toTell refreshId := by
    rw [silent, List.nil_append, same]
  exact ⟨fun _ => whole, ⟨_, whole⟩, holds.ended, nofun⟩

theorem HoldsRound.moves (holds : e.HoldsRound) (keeps : e.KeepsToRound) (moves : e.Moves e') :
    e'.HoldsRound := by
  cases moves with
  | call c t makes => exact holds.call makes
  | pass t passes => exact holds.pass keeps passes
  | acquire round rest refreshId waits without => exact holds.granted waits without refreshId
  | cancel => exact ⟨nofun, holds.part, fun _ => rfl, fun _ left => absurd rfl left⟩

theorem HoldsRound.of_returned (holds : e.HoldsRound) (returned : e.HasReturned) :
    e.told = e.visit.toTell e.refreshId := by
  rw [← holds.whole returned.2, Task.toTell, returned.1]
  simp

end Entry

namespace Timeline

variable {k : Timeline}

theorem Reachable.journal (reachable : k.Reachable) : k.journal.Reachable :=
  ⟨k, reachable, rfl⟩

theorem Reachable.holdsRound (reachable : k.Reachable) : ∀ e ∈ k.entries, e.HoldsRound := by
  have both := reachable.journal.entries (P := fun e => e.KeepsToRound ∧ e.HoldsRound)
    (fun v => ⟨Entry.keepsToRound_begun v, Entry.holdsRound_begun v⟩)
    fun _ _ ⟨keeps, holds⟩ moves => ⟨keeps.moves moves, holds.moves keeps moves⟩
  exact fun e member => (both e member).2

end Timeline

end SafetyCenter
