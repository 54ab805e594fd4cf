import Mathlib.Data.List.Forall2
import Mathlib.Data.List.Perm.Subperm
import SafetyCenter.Proofs.Center.Notification
import SafetyCenter.Proofs.Center.SinkDiscipline
import SafetyCenter.Proofs.Center.Submission
import SafetyCenter.Scenario.Play

set_option autoImplicit false

namespace SafetyCenter

/-- Whether an operation is one of a member of the group, or concerns the center as a whole. -/
def Operation.concerns (A : ProfileGroup) (op : Operation) : Bool :=
  op.actor?.all fun u => u ∈ A

/-- What a critical section settles: the answer, the tail that is to come, and the registrations that
its deliveries go through. -/
structure Sight where
  op : Operation
  answer : Except Error Reply
  task : Task
  addressed : List Registration

namespace Visit

def addressed (v : Visit) : List Registration :=
  v.op.addressed v.groups v.center

def sight (v : Visit) : Sight :=
  { op := v.op, answer := v.outcome.answer, task := v.task, addressed := v.addressed }

end Visit

/-- An operation in two courses of events, in either of which it may have been cut off. -/
structure Entry.Matches (e e' : Entry) : Prop where
  sight : e'.visit.sight = e.visit.sight
  /-- if it has returned in both of them, it has done the same -/
  whole : e.HasReturned → e'.HasReturned → e'.made.Perm e.made ∧ e'.sent = e.sent
  /-- if it has returned in one of them, it has done no more in the other -/
  part : e.HasReturned → e'.made.Subperm e.made ∧ e'.sent <+: e.sent
  part' : e'.HasReturned → e.made.Subperm e'.made ∧ e.sent <+: e'.sent

/-- How far an operation has come. -/
structure Progress where
  task : Task
  calls : List Call
  refreshId : Nat
  cancelled : Bool

def Entry.progress (e : Entry) : Progress :=
  { task := e.task, calls := e.calls, refreshId := e.refreshId, cancelled := e.cancelled }

/-- Deliveries are made through registrations of their own, and these are of members of the group only
if the operation is one of a member. -/
structure Entry.Reaches (A : ProfileGroup) (e : Entry) : Prop where
  through : (e.made.map (·.observer)).Subperm (e.visit.addressed.map (·.observer))
  users : ∀ r ∈ e.visit.addressed, r.user ∈ A ↔ e.visit.op.concerns A = true

variable {groups : Resolver} {A : ProfileGroup}

namespace Operation

variable {op : Operation}

theorem inside_of_concerns (concerned : op.concerns A = true) :
    ∀ u, op.actor? = some u → u ∈ A := by
  intro u acts
  rw [concerns, acts] at concerned
  simpa using concerned

theorem outside_of_concerns (foreign : op.concerns A = false) :
    ∃ u, op.actor? = some u ∧ u ∉ A := by
  unfold concerns at foreign
  cases acts : op.actor? with
  | none => simp [acts] at foreign
  | some u => exact ⟨u, rfl, by simpa [acts] using foreign⟩

/-- A member's operation goes through the same registrations where the centers agree. -/
theorem addressed_agree (apart : groups.SetsApart A) {s t : Center} (agree : s.AgreeFor A t)
    (op : Operation) (inside : ∀ u, op.actor? = some u → u ∈ A) :
    op.addressed groups s = op.addressed groups t := by
  unfold addressed
  split
  · rfl
  · cases acts : op.actor? with
    | none => rfl
    | some u =>
      rw [Option.bind_some, apart.inside u (inside u acts)]
      refine List.flatMap_congr fun v member => ?_
      rw [agree.subscriptions v member]

/-- A member's operation goes through registrations of members. -/
theorem addressed_inside (apart : groups.SetsApart A) (s : Center)
    (inside : ∀ u, op.actor? = some u → u ∈ A) : ∀ r ∈ op.addressed groups s, r.user ∈ A := by
  intro r through
  unfold addressed at through
  split at through
  · rename_i o v
    rw [List.mem_singleton.mp through]
    exact inside v rfl
  · cases acts : op.actor? with
    | none => simp [acts] at through
    | some u =>
      rw [acts, Option.bind_some, apart.inside u (inside u acts)] at through
      exact (Subscriptions.mem_registrations.mp through).1

/-- Nobody else's operation goes through a member's registration. -/
theorem addressed_outside (apart : groups.SetsApart A) (s : Center) {u : UserId}
    (acts : op.actor? = some u) (outside : u ∉ A) :
    ∀ r ∈ op.addressed groups s, r.user ∉ A := by
  intro r through
  unfold addressed at through
  split at through
  · rename_i o v
    cases acts
    rw [List.mem_singleton.mp through]
    exact outside
  · rw [acts, Option.bind_some] at through
    split at through
    · simp at through
    · rename_i g found
      exact apart.outside u g found outside r.user (Subscriptions.mem_registrations.mp through).1

end Operation

namespace Visit

variable {v w : Visit}

/-- An operation has at most one round of deliveries to make. -/
theorem deliveries_cases (v : Visit) :
    v.outcome.deliveries = [] ∨
      ∃ view error observers, v.outcome.deliveries = [.deliver view error observers] := by
  have notified := v.notified
  cases tracks : v.op.tracking? with
  | some user =>
    by_cases due : v.Due
    · obtain ⟨g, view, error, -, -, told, -⟩ := notified.told user tracks due
      exact Or.inr ⟨view, error, _, told⟩
    · exact Or.inl (notified.quiet user tracks due)
  | none =>
    by_cases registers : ∃ observer user, v.Registers observer user
    · obtain ⟨observer, user, new⟩ := registers
      obtain ⟨view, -, welcomed⟩ := notified.welcomed observer user new
      exact Or.inr ⟨view, none, _, welcomed⟩
    · exact Or.inl (notified.silent tracks fun o u new => registers ⟨o, u, new⟩)

/-- The observers that an operation is to show its view are those of the registrations that it
addresses. -/
theorem observers_posts (v : Visit) :
    v.posts = [] ∨ v.posts.map (·.observer) = v.addressed.map (·.observer) := by
  rcases v.deliveries_cases with none | ⟨view, error, observers, one⟩
  · exact Or.inl (by rw [posts, none, List.flatMap_nil])
  · have told : Stage.deliver view error observers ∈ v.outcome.stages :=
      List.mem_of_mem_filter (one ▸ List.mem_singleton.mpr rfl)
    rw [addressed, ← Operation.observers_of_delivery v.center told]
    exact Or.inr (by simp [posts, one, Stage.posts, Function.comp_def])

theorem posts_of_sight (same : w.sight = v.sight) : w.posts = v.posts := by
  rw [← posts_task, ← posts_task]
  exact congrArg (fun s => s.task.posts) same

theorem due_of_sight (same : w.sight = v.sight) : w.due = v.due := by
  have all : ∀ v : Visit, v.task.dispatches = v.due :=
    fun v => (v.op.perform_follows v.center).dispatches
  rw [← all, ← all]
  exact congrArg (fun s => s.task.dispatches) same

/-- A member's operation settles the same where the centers agree. -/
theorem sight_agree (apart : groups.SetsApart A) {s t : Center} (agree : s.AgreeFor A t)
    {op : Operation} (concerned : op.concerns A = true) :
    (Visit.mk groups op s).sight = (Visit.mk groups op t).sight := by
  have inside := Operation.inside_of_concerns concerned
  have outcomes := op.perform_agree apart agree inside
  simp only [sight, task, outcome, addressed, outcomes.answer, outcomes.stages,
    Operation.addressed_agree apart agree op inside]

end Visit

namespace Entry

variable {e e' : Entry}

theorem Delivers.part (delivers : e.Delivers) : e.made.Subperm e.visit.posts := by
  obtain ⟨dropped, same, -⟩ := delivers
  rw [List.append_assoc] at same
  exact (List.sublist_append_left _ _).subperm.trans same.subperm

/-- What was delivered went through registrations that the operation addresses. -/
theorem Delivers.through (delivers : e.Delivers) :
    (e.made.map (·.observer)).Subperm (e.visit.addressed.map (·.observer)) := by
  obtain ⟨dropped, same, -⟩ := delivers
  rcases e.visit.observers_posts with none | observers
  · rw [none, List.append_assoc, List.perm_nil, List.append_eq_nil_iff] at same
    rw [same.1]
    exact List.nil_subperm
  · have all := same.map (·.observer)
    rw [List.append_assoc, List.map_append, observers] at all
    exact (List.sublist_append_left _ _).subperm.trans all.subperm

theorem reaches (apart : groups.SetsApart A) (own : e.visit.groups = groups)
    (delivers : e.Delivers) : e.Reaches A := by
  refine ⟨delivers.through, fun r through => ?_⟩
  rw [Visit.addressed, own] at through
  cases concerned : e.visit.op.concerns A with
  | true =>
    have inside := Operation.inside_of_concerns concerned
    exact iff_of_true (Operation.addressed_inside apart _ inside r through) rfl
  | false =>
    obtain ⟨u, acts, outside⟩ := Operation.outside_of_concerns concerned
    exact iff_of_false (Operation.addressed_outside apart _ acts outside r through) nofun

/-- What was done of what is due, in either course of events, is the same as far as it goes. -/
theorem matches_of_sight (same : e'.visit.sight = e.visit.sight) (delivers : e.Delivers)
    (delivers' : e'.Delivers) (sends : e.Sends e.visit.due) (sends' : e'.Sends e'.visit.due) :
    e.Matches e' := by
  have posts := Visit.posts_of_sight same
  have due := Visit.due_of_sight same
  refine ⟨same, fun returned returned' => ⟨?_, ?_⟩, fun returned => ⟨?_, ?_⟩,
    fun returned => ⟨?_, ?_⟩⟩
  · exact (posts ▸ delivers'.of_returned returned').trans (delivers.of_returned returned).symm
  · rw [sends.whole returned, sends'.whole returned', due]
  · exact (posts ▸ delivers'.part).trans (delivers.of_returned returned).symm.subperm
  · rw [sends.whole returned, ← due]
    exact sends'.part
  · exact (posts ▸ delivers.part).trans (delivers'.of_returned returned).symm.subperm
  · rw [sends'.whole returned, due]
    exact sends.part

end Entry

namespace Center

/-- The critical sections of operations that come one after the other. -/
def course (groups : Resolver) (s : Center) : List Operation → List Visit
  | [] => []
  | op :: ops => ⟨groups, op, s⟩ :: course groups (op.perform groups s).center ops

theorem course_concat (groups : Resolver) (s : Center) (ops : List Operation) (op : Operation) :
    s.course groups (ops ++ [op]) =
      s.course groups ops ++ [⟨groups, op, (s.performAll groups ops).1⟩] := by
  induction ops generalizing s with
  | nil => rfl
  | cons first ops ih => rw [List.cons_append, course, ih, course, List.cons_append, performAll]

theorem performAll_concat (groups : Resolver) (s : Center) (ops : List Operation)
    (op : Operation) :
    (s.performAll groups (ops ++ [op])).1 =
      (op.perform groups (s.performAll groups ops).1).center := by
  rw [performAll_append]
  rfl

theorem AgreeFor.withMetrics {s t : Center} (agree : s.AgreeFor A t) (m m' : Metrics) :
    AgreeFor A { s with metrics := m } { t with metrics := m' } :=
  ⟨agree.enabled, agree.declarations, agree.ledger, agree.subscriptions⟩

end Center

theorem forall₂_of_map_eq {α β γ : Type} {R : α → β → Prop} {f : α → γ} {g : β → γ} {l : List α}
    {l' : List β} (same : l'.map g = l.map f) (all : ∀ a ∈ l, ∀ b ∈ l', g b = f a → R a b) :
    List.Forall₂ R l l' := by
  induction l generalizing l' with
  | nil =>
    rw [List.map_nil, List.map_eq_nil_iff] at same
    exact same ▸ .nil
  | cons a l ih =>
    obtain ⟨b, l', rfl, first, rest⟩ := List.map_eq_cons_iff.mp same
    refine .cons (all a List.mem_cons_self b List.mem_cons_self first) (ih rest ?_)
    intro x inside y inside'
    exact all x (List.mem_cons_of_mem a inside) y (List.mem_cons_of_mem b inside')

namespace Timeline

def operations (k : Timeline) : List Operation :=
  k.journal.visits.map (·.op)

def ActsUnder (groups : Resolver) (k : Timeline) : Prop :=
  ∀ v ∈ k.journal.visits, v.groups = groups

/-- The records of the members' operations, and of those that concern the center as a whole. -/
def concerning (A : ProfileGroup) (k : Timeline) : List Entry :=
  k.entries.filter (·.visit.op.concerns A)

variable {s : Center} {k k' : Timeline} {resolver : Resolver} {op : Operation}

theorem operations_enter (entered : k'.journal = k.journal.enter resolver op) :
    k'.operations = k.operations ++ [op] := by
  rw [operations, entered, Journal.visits_enter, List.map_append, operations]
  rfl

theorem actsUnder_enter_iff (entered : k'.journal = k.journal.enter resolver op) :
    k'.ActsUnder groups ↔ k.ActsUnder groups ∧ resolver = groups := by
  rw [ActsUnder, entered, Journal.visits_enter, List.forall_mem_append,
    List.forall_mem_singleton, ActsUnder]

/-- Whatever others do, the members' operations settle what they settle one after the other. -/
theorem Run.sights (apart : groups.SetsApart A) (run : k.Run s) (fixed : k.ActsUnder groups) :
    (k.journal.visits.filter (·.op.concerns A)).map (·.sight) =
        (s.course groups (k.operations.filter (·.concerns A))).map (·.sight) ∧
      k.journal.center.AgreeFor A
        (s.performAll groups (k.operations.filter (·.concerns A))).1 := by
  induction run with
  | begun => exact ⟨rfl, Center.AgreeFor.refl A s⟩
  | @step k k' before next ih =>
    rcases next.center_cases with ⟨resolver, op, entered⟩ | ⟨same, metrics, center⟩
    · obtain ⟨earlier, rfl⟩ := (actsUnder_enter_iff entered).mp fixed
      obtain ⟨sights, agree⟩ := ih earlier
      rw [operations_enter entered, entered, Journal.visits_enter, Journal.center_enter,
        List.filter_append, List.filter_append, List.filter_singleton, List.filter_singleton]
      cases concerned : op.concerns A with
      | true =>
        rw [cond_true, cond_true, Center.course_concat, Center.performAll_concat, List.map_append,
          List.map_append, sights]
        refine ⟨?_, (op.perform_agree apart agree (Operation.inside_of_concerns concerned)).center⟩
        exact congrArg (_ ++ [·]) (Visit.sight_agree apart agree concerned)
      | false =>
        obtain ⟨u, acts, outside⟩ := Operation.outside_of_concerns concerned
        rw [cond_false, cond_false, List.append_nil, List.append_nil]
        exact ⟨sights, (op.perform_frame apart _ acts outside).trans agree⟩
    · rw [operations, same, center]
      rw [ActsUnder, same] at fixed
      obtain ⟨sights, agree⟩ := ih fixed
      exact ⟨sights, agree.withMetrics metrics _⟩

/-- In two courses of events with the same operations of members, these match. -/
theorem Run.matches_of_operations (apart : groups.SetsApart A) (run : k.Run s) (run' : k'.Run s)
    (fixed : k.ActsUnder groups) (fixed' : k'.ActsUnder groups)
    (same : k'.operations = k.operations.filter (·.concerns A)) :
    List.Forall₂ Entry.Matches (k.concerning A) k'.entries := by
  have all : k'.operations.filter (·.concerns A) = k.operations.filter (·.concerns A) := by
    rw [same, List.filter_filter]
    simp
  have every : k'.journal.visits.filter (·.op.concerns A) = k'.journal.visits := by
    rw [List.filter_eq_self]
    intro v member
    have own : v.op ∈ k'.operations := List.mem_map_of_mem member
    rw [same] at own
    exact (List.mem_filter.mp own).2
  have sights : k'.entries.map (·.visit.sight) = (k.concerning A).map (·.visit.sight) := by
    have alone := (run'.sights apart fixed').1
    rw [all, ← (run.sights apart fixed).1, every] at alone
    simpa [Journal.visits, concerning, List.filter_map, Function.comp_def, Timeline.entries]
      using alone
  have delivers {k : Timeline} (run : k.Run s) : ∀ e ∈ k.entries, e.Delivers :=
    run.entries Entry.delivers_begun fun _ _ before => before.moves
  have sends {k : Timeline} (run : k.Run s) : ∀ e ∈ k.entries, e.Sends e.visit.due :=
    fun e member =>
      (run.entries Entry.accounted_begun (fun _ _ before => before.moves) e member).sends
  refine forall₂_of_map_eq sights fun e member e' member' same => ?_
  have old := List.mem_of_mem_filter member
  exact Entry.matches_of_sight same (delivers run e old) (delivers run' e' member')
    (sends run e old) (sends run' e' member')

/-- All records of a course of events have come as far as some record of another one. -/
def Mirrors (k k' : Timeline) : Prop :=
  ∀ e' ∈ k'.entries, ∃ e ∈ k.entries, e'.progress = e.progress

/-- What takes a record from `e` to `e₁` takes any other that has come as far there too, in whatever
course of events, if nobody has come further there than in `k`. -/
def Repeats (k : Timeline) (e e₁ : Entry) : Prop :=
  ∀ (k' : Timeline) (front back : List Entry) (f : Entry),
    k.Mirrors k' → k'.entries = front ++ f :: back → f.progress = e.progress →
    ∃ k'₁ f₁, k'.Step k'₁ ∧ k'₁.entries = front ++ f₁ :: back ∧ f₁.visit = f.visit ∧
      f₁.progress = e₁.progress

theorem Step.repeats {k₁ : Timeline} (next : k.Step k₁) :
    (∃ groups op, k₁ = { k with journal := k.journal.enter groups op }) ∨
    ∃ before e e₁ after, k.entries = before ++ e :: after ∧ k₁.entries = before ++ e₁ :: after ∧
      e₁.visit = e.visit ∧ k.Repeats e e₁ := by
  cases next with
  | enter groups op => exact Or.inl ⟨groups, op, rfl⟩
  | call before after e c t ok entries makes =>
    refine Or.inr ⟨before, e, _, after, entries, rfl, rfl, ?_⟩
    rintro k' front back ⟨visit, task, calls, refreshId, cancelled⟩ - split same
    cases same
    exact ⟨_, _, .call k' front back _ c t ok split makes, rfl, rfl, rfl⟩
  | pass before after e t entries passes =>
    refine Or.inr ⟨before, e, _, after, entries, rfl, rfl, ?_⟩
    rintro k' front back ⟨visit, task, calls, refreshId, cancelled⟩ - split same
    cases same
    exact ⟨_, _, .pass k' front back _ t split passes, rfl, rfl, rfl⟩
  | acquire before after e round rest refreshId entries waits free =>
    refine Or.inr ⟨before, e, _, after, entries, rfl, rfl, ?_⟩
    rintro k' front back ⟨visit, task, calls, id, cancelled⟩ mirrors split same
    cases same
    -- whoever had the right to broadcast there would have it here
    refine ⟨_, _, .acquire k' front back _ round rest refreshId split waits fun other member => ?_,
      rfl, rfl, rfl⟩
    obtain ⟨origin, found, progress⟩ := mirrors other member
    rw [show other.task = origin.task from congrArg Progress.task progress]
    exact free origin found
  | cancel before after e entries underway =>
    refine Or.inr ⟨before, e, _, after, entries, rfl, rfl, ?_⟩
    rintro k' front back ⟨visit, task, calls, refreshId, cancelled⟩ - split same
    cases same
    exact ⟨_, _, .cancel k' front back _ split underway, rfl, rfl, rfl⟩

/-- A course of events that has come as far as another one, without the operations of others. -/
structure Without (groups : Resolver) (A : ProfileGroup) (s : Center) (k k' : Timeline) : Prop where
  run : k'.Run s
  fixed : k'.ActsUnder groups
  operations : k'.operations = k.operations.filter (·.concerns A)
  progress : k'.entries.map (·.progress) = (k.concerning A).map (·.progress)

section Without

variable {before after : List Entry} {e e₁ : Entry} {k₁ : Timeline}

theorem Without.mirrors (without : Without groups A s k k') : k.Mirrors k' := by
  intro e' member
  have inside := List.mem_map_of_mem (f := Entry.progress) member
  rw [without.progress] at inside
  obtain ⟨e, found, same⟩ := List.mem_map.mp inside
  exact ⟨e, List.mem_of_mem_filter found, same.symm⟩

/-- Only what a member's operation does is to be repeated. -/
theorem Without.replace (without : Without groups A s k k')
    (entries : k.entries = before ++ e :: after) (entries₁ : k₁.entries = before ++ e₁ :: after)
    (visit : e₁.visit = e.visit) (repeats : k.Repeats e e₁) :
    ∃ k'₁, Without groups A s k₁ k'₁ := by
  have operations : k₁.operations = k.operations :=
    congrArg (List.map Visit.op) (Journal.visits_replace entries entries₁ visit)
  cases concerned : e.visit.op.concerns A with
  | false =>
    refine ⟨k', without.run, without.fixed, operations ▸ without.operations, ?_⟩
    rw [without.progress, concerning, concerning, entries, entries₁]
    simp [visit, concerned]
  | true =>
    have progress := without.progress
    rw [concerning, entries, List.filter_append, List.filter_cons, if_pos concerned,
      List.map_append, List.map_cons] at progress
    obtain ⟨front, rest, split, first, later⟩ := List.map_eq_append_iff.mp progress
    obtain ⟨f, back, rfl, own, last⟩ := List.map_eq_cons_iff.mp later
    obtain ⟨k'₁, f₁, next, entries'₁, visit', own₁⟩ :=
      repeats k' front back f without.mirrors split own
    have visits : k'₁.journal.visits = k'.journal.visits :=
      Journal.visits_replace split entries'₁ visit'
    refine ⟨k'₁, without.run.step next, ?_, ?_, ?_⟩
    · rw [ActsUnder, visits]
      exact without.fixed
    · rw [operations, ← without.operations, Timeline.operations, visits, Timeline.operations]
    · rw [entries'₁, concerning, entries₁, List.filter_append, List.filter_cons, visit,
        if_pos concerned]
      simp [first, last, own₁]

/-- The members cannot tell the two centers apart. -/
theorem Without.agree (without : Without groups A s k k') (apart : groups.SetsApart A)
    (run : k.Run s) (fixed : k.ActsUnder groups) :
    k.journal.center.AgreeFor A k'.journal.center := by
  have alone := (without.run.sights apart without.fixed).2
  rw [without.operations, List.filter_filter, funext fun op => Bool.and_self _] at alone
  exact (run.sights apart fixed).2.trans alone.symm

theorem Without.enter (without : Without groups A s k k') (apart : groups.SetsApart A)
    (run : k.Run s) (fixed : k.ActsUnder groups) (op : Operation) :
    ∃ k'₁, Without groups A s { k with journal := k.journal.enter groups op } k'₁ := by
  have operations : Timeline.operations { k with journal := k.journal.enter groups op } =
      k.operations ++ [op] := operations_enter rfl
  have entered : concerning A { k with journal := k.journal.enter groups op } =
      k.concerning A ++ if op.concerns A then [.begun ⟨groups, op, k.journal.center⟩] else [] := by
    simp only [concerning, Timeline.entries, Journal.enter, Entry.begun, List.filter_append,
      List.filter_cons, List.filter_nil]
  cases concerned : op.concerns A with
  | false =>
    refine ⟨k', without.run, without.fixed, ?_, ?_⟩
    · rw [operations, List.filter_append, List.filter_singleton, concerned, without.operations]
      simp
    · rw [entered, concerned, without.progress]
      simp
  | true =>
    refine ⟨_, without.run.step (.enter k' groups op),
      (actsUnder_enter_iff rfl).mpr ⟨without.fixed, rfl⟩, ?_, ?_⟩
    · rw [operations, List.filter_append, List.filter_singleton, concerned, ← without.operations]
      exact operations_enter rfl
    · have settled := Visit.sight_agree apart (without.agree apart run fixed) concerned
      have begun : Entry.progress (.begun ⟨groups, op, k.journal.center⟩) =
          Entry.progress (.begun ⟨groups, op, k'.journal.center⟩) :=
        congrArg (fun sight => Progress.mk sight.task [] 0 false) settled
      rw [entered, concerned, if_pos rfl, List.map_append, ← without.progress, List.map_singleton,
        begun, Timeline.entries, Journal.enter, List.map_append]
      rfl

end Without

/-- What the members' operations have done so far they can do without the others. -/
theorem Run.exists_without (apart : groups.SetsApart A) (run : k.Run s)
    (fixed : k.ActsUnder groups) : ∃ k', Without groups A s k k' := by
  induction run with
  | begun => exact ⟨{ journal := { center := s } }, .begun, fixed, rfl, rfl⟩
  | @step k k₁ before next ih =>
    rcases next.repeats with ⟨resolver, op, rfl⟩ |
      ⟨front, e, e₁, back, entries, entries₁, visit, repeats⟩
    · obtain ⟨earlier, rfl⟩ := (actsUnder_enter_iff rfl).mp fixed
      obtain ⟨k', without⟩ := ih earlier
      exact without.enter apart before earlier op
    · rw [ActsUnder, Journal.visits_replace entries entries₁ visit] at fixed
      obtain ⟨k', without⟩ := ih fixed
      exact without.replace entries entries₁ visit repeats

/-- If the resolver keeps the groups apart, nothing is delivered through registrations of members but
by their own operations. These settle the same with and without the operations of others. They do the
same too, unless they are cut off, and then they do a part of it. -/
theorem noninterference (partitions : groups.Partitions) {u : UserId} (acts : groups u = some A)
    (run : k.Run s) (fixed : k.ActsUnder groups) :
    (∀ e ∈ k.entries, e.Reaches A) ∧
    (∃ k', Without groups A s k k') ∧
    ∀ k' : Timeline, k'.Run s → k'.ActsUnder groups →
      k'.operations = k.operations.filter (·.concerns A) →
      List.Forall₂ Entry.Matches (k.concerning A) k'.entries := by
  have apart := partitions.setsApart acts
  refine ⟨fun e member => ?_, run.exists_without apart fixed,
    fun k' run' fixed' same => run.matches_of_operations apart run' fixed fixed' same⟩
  have own : e.visit.groups = groups := fixed e.visit (List.mem_map_of_mem member)
  exact Entry.reaches apart own
    (run.entries Entry.delivers_begun (fun _ _ before => before.moves) e member)

/-- A source that is asked for somebody else's report registers an observer for a user, and its call
is given up before the registration returns. The user then looks at the view. -/
theorem noninterference_of_cut_off :
    let groups : Resolver := fun u => some (.single u)
    let A : ProfileGroup := .single ⟨1⟩
    groups.Partitions ∧ groups ⟨1⟩ = some A ∧
    ∃ k : Timeline, k.Run {} ∧ k.ActsUnder groups ∧
      k.operations = [.start (.ok ⟨[{ id := ⟨"lock"⟩ }]⟩), .requestRefresh .other ⟨2⟩,
        .subscribe ⟨"page"⟩ ⟨1⟩, .showView ⟨1⟩] ∧
      k.calls.map (·.operation) = [1, 2] ∧
      k.entries.map (·.cancelled) = [false, false, true, false] ∧
      (k.concerning A).length = 3 ∧
      (∀ e ∈ k.entries, e.Reaches A) ∧
      (∃ k', Without groups A {} k k') ∧
      ∀ k' : Timeline, k'.Run {} → k'.ActsUnder groups →
        k'.operations = k.operations.filter (·.concerns A) →
        List.Forall₂ Entry.Matches (k.concerning A) k'.entries := by
  intro groups A
  have partitions : groups.Partitions := Resolver.partitions_single
  have started : Run {} _ := (Run.begun (s := {})).step
    (.enter _ groups (.start (.ok ⟨[{ id := ⟨"lock"⟩ }]⟩)))
  have entered := ((started.step (.enter _ groups (.requestRefresh .other ⟨2⟩))).step
    (.enter _ groups (.subscribe ⟨"page"⟩ ⟨1⟩))).step (.enter _ groups (.showView ⟨1⟩))
  have held := entered.step (.acquire _ [_] [_, _] _ _ [] 1 rfl rfl (by decide))
  have asked := held.step
    (.call _ [_] [_, _] _ _ _ false rfl (.refresh _ .other ⟨"lock"⟩ ⟨2⟩ [] []))
  have shown := asked.step
    (.call _ [_, _] [_] _ _ _ true rfl (.deliver _ _ _ [] [] ⟨"page"⟩ [] false))
  have cut := shown.step (.cancel _ [_, _] [_] _ rfl (by decide))
  obtain ⟨k, run, visited, operations, calls, cancelled, three⟩ : ∃ k : Timeline, k.Run {} ∧
      k.journal.visits.map (·.groups) = List.replicate 4 groups ∧
      k.operations = [.start (.ok ⟨[{ id := ⟨"lock"⟩ }]⟩), .requestRefresh .other ⟨2⟩,
        .subscribe ⟨"page"⟩ ⟨1⟩, .showView ⟨1⟩] ∧
      k.calls.map (·.operation) = [1, 2] ∧
      k.entries.map (·.cancelled) = [false, false, true, false] ∧
      (k.concerning A).length = 3 := ⟨_, cut, rfl, rfl, rfl, rfl, by decide⟩
  have fixed : k.ActsUnder groups := fun v member =>
    List.eq_of_mem_replicate (visited ▸ List.mem_map_of_mem member)
  exact ⟨partitions, rfl, k, run, fixed, operations, calls, cancelled, three,
    noninterference partitions rfl run fixed⟩

end Timeline

namespace Scenario

def Step.answer? (user : UserId) : Step → Result → Option (Except Error Reply)
  | .operation op, .answer answer _ => if op.actor? = some user then some answer else none
  | _, _ => none

/-- The answers to what a user asks for in a scenario, or a collaborator on the user's behalf. -/
def answersTo (user : UserId) (w : World) (steps : List Step) : List (Except Error Reply) :=
  (steps.zip (playAll w steps)).flatMap fun (step, result, events) =>
    events.filterMap (fun
      | .nested step result => step.answer? user result
      | .call _ => none) ++ (step.answer? user result).toList

def sinkCallsFor (user : UserId) (w : World) (steps : List Step) : List Call :=
  (playAll w steps).flatMap fun (_, events) => events.filterMap fun
    | .call (.dispatch target u kind) =>
      if u = user then some (.dispatch target u kind) else none
    | _ => none

/-- What a source asks for on behalf of a user need not be answered while somebody else keeps the
source busy. An execution waits for an observer that never answers, and the source's time is up first,
so that its target is not handed over either. A refresh waits for the refresh that the source is in. -/
theorem answers_depend_on_others :
    let fix : Action := { key := "fix", label := "Fix", resolves := true, target := "lock/fix" }
    let weak : Issue := { key := "weak", severity := .recommendation, actions := [fix] }
    let report : Report := { session := "first", issues := [weak] }
    let id : ActionId := ⟨⟨⟨"lock"⟩, ⟨1⟩, "weak", "", "first"⟩, "fix"⟩
    let execute : Operation := .executeAction id.issue.encode id.encode ⟨1⟩
    let refresh : Operation := .requestRefresh .pageOpen ⟨1⟩
    let stranger : Step := .operation (.requestRefresh .other ⟨2⟩)
    let groups : ProfileGroup.Directory := [.single ⟨1⟩, .single ⟨2⟩]
    let w (asks : Operation) : World :=
      { center := { declarations := .loaded ⟨[{ id := ⟨"lock"⟩ }]⟩ none }
        settings := { sourceTimeout := 5000, observerTimeout := 10000 }
        groups
        behaviours := .ofList [("refresh:lock/2", { steps := [.operation asks] }, 0),
          ("observer:page", { manner := .hang }, 0)] }
    let before : List Step :=
      [.operation (.submitReport ⟨"lock"⟩ (some report) ⟨.deviceRebooted, none⟩ ⟨1⟩),
        .operation (.subscribe ⟨"page"⟩ ⟨1⟩)]
    Resolver.Partitions groups.find? ∧
    (answersTo ⟨1⟩ (w execute) (before ++ [stranger]) = [.ok .done, .ok (.flag true)] ∧
      answersTo ⟨1⟩ (w execute) (before ++ [.operation execute]) =
        [.ok .done, .ok (.flag true), .ok .done]) ∧
    (sinkCallsFor ⟨1⟩ (w execute) (before ++ [stranger]) = [] ∧
      sinkCallsFor ⟨1⟩ (w execute) (before ++ [.operation execute]) =
        [.dispatch "lock/fix" ⟨1⟩ .action]) ∧
    answersTo ⟨1⟩ (w refresh) [stranger] = [] ∧
      answersTo ⟨1⟩ (w refresh) [.operation refresh] = [.ok .refreshId] :=
  ⟨ProfileGroup.Directory.partitions_find? (by decide), by decide +kernel⟩

end Scenario

end SafetyCenter
