import SafetyCenter.Center.Call
import SafetyCenter.Proofs.Center.Delivery

/-!
Operations side by side. Critical sections come one after the other, and between any two of them the
operations under way make the calls of their tails, in any order among each other. There is one step
relation, on timelines, which tell the most; journals and what observers are shown are read off them.
-/

set_option autoImplicit false

namespace SafetyCenter

/-- A view for one observer, on behalf of the group that the operation was made for. -/
structure Post where
  group : Option ProfileGroup
  observer : Observer
  view : View
  error : Option String

def Stage.posts (group : Option ProfileGroup) : Stage → List Post
  | .deliver view error observers => observers.map fun o => ⟨group, o, view, error⟩
  | .dispatch .. => []
  | .round _ => []

def Call.posts (group : Option ProfileGroup) : Call → List Post
  | .deliver observer view error => [⟨group, observer, view, error⟩]
  | .refresh .. => []
  | .announce .. => []
  | .dispatch .. => []

def Call.isDelivery : Call → Bool
  | .deliver .. => true
  | .refresh .. | .announce .. | .dispatch .. => false

/-- An operation under way: what is left of its tail, and whether it has the right to broadcast. -/
structure Task where
  group : Option ProfileGroup
  stages : List Stage
  broadcasts : Bool := false

def Task.posts (t : Task) : List Post :=
  t.stages.flatMap (·.posts t.group)

/-- Makes a call of the foremost stage. Deliveries are made in any order, the calls of a round one
after the other, with the id of the round, and only with the right to broadcast. -/
inductive Task.Makes (refreshId : Nat) : Task → Call → Task → Prop where
  | deliver (group : Option ProfileGroup) (view : View) (error : Option String)
      (before after : List Observer) (o : Observer) (stages : List Stage) (b : Bool) :
      Makes refreshId ⟨group, .deliver view error (before ++ o :: after) :: stages, b⟩
        (.deliver o view error) ⟨group, .deliver view error (before ++ after) :: stages, b⟩
  | dispatch (group : Option ProfileGroup) (target : String) (user : UserId) (kind : CallKind)
      (stages : List Stage) (b : Bool) :
      Makes refreshId ⟨group, .dispatch target user kind :: stages, b⟩ (.dispatch target user kind)
        ⟨group, stages, b⟩
  | refresh (group : Option ProfileGroup) (reason : RefreshReason) (source : SourceId)
      (user : UserId) (targets : List (SourceId × UserId)) (stages : List Stage) :
      Makes refreshId ⟨group, .round (.refresh reason ((source, user) :: targets)) :: stages, true⟩
        (.refresh source user reason refreshId)
        ⟨group, .round (.refresh reason targets) :: stages, true⟩
  | announce (group : Option ProfileGroup) (value : Bool) (source : SourceId)
      (sources : List SourceId) (stages : List Stage) :
      Makes refreshId ⟨group, .round (.announce value (source :: sources)) :: stages, true⟩
        (.announce source value) ⟨group, .round (.announce value sources) :: stages, true⟩

/-- Goes on behind a stage without calls. The right to broadcast is given back after a round. -/
inductive Task.Passes : Task → Task → Prop where
  | delivered (group : Option ProfileGroup) (view : View) (error : Option String)
      (stages : List Stage) (b : Bool) :
      Passes ⟨group, .deliver view error [] :: stages, b⟩ ⟨group, stages, b⟩
  | refreshed (group : Option ProfileGroup) (reason : RefreshReason) (stages : List Stage) :
      Passes ⟨group, .round (.refresh reason []) :: stages, true⟩ ⟨group, stages, false⟩
  | announced (group : Option ProfileGroup) (value : Bool) (stages : List Stage) :
      Passes ⟨group, .round (.announce value []) :: stages, true⟩ ⟨group, stages, false⟩

theorem Task.Passes.posts_eq {t t' : Task} (passes : t.Passes t') : t'.posts = t.posts := by
  cases passes with
  | delivered group view error stages b => simp [Task.posts, Stage.posts]
  | refreshed group reason stages => simp [Task.posts, Stage.posts]
  | announced group value stages => simp [Task.posts, Stage.posts]

/-- A critical section in the course of events: the operation, and the center that it met. -/
structure Visit where
  groups : Resolver
  op : Operation
  center : Center

namespace Visit

def outcome (v : Visit) : Outcome :=
  v.op.perform v.groups v.center

/-- The operation under way, with all of its tail before it. -/
def task (v : Visit) : Task :=
  ⟨v.op.actor?.bind v.groups, v.outcome.stages, false⟩

end Visit

/-- The record of an operation. A cancelled one has dropped what was left of its tail. -/
structure Entry where
  visit : Visit
  task : Task
  calls : List Call := []
  /-- drawn when the operation gets the right to broadcast -/
  refreshId : Nat := 0
  cancelled : Bool := false

namespace Entry

def begun (v : Visit) : Entry :=
  { visit := v, task := v.task }

/-- The operation gets the right to broadcast, and an id for its round. -/
def granted (e : Entry) (refreshId : Nat) : Entry :=
  { e with task := { e.task with broadcasts := true }, refreshId }

def cancel (e : Entry) : Entry :=
  { e with task := { e.task with stages := [], broadcasts := false }, cancelled := true }

def HasReturned (e : Entry) : Prop :=
  e.task.stages = [] ∧ e.cancelled = false

instance (e : Entry) : Decidable e.HasReturned :=
  inferInstanceAs (Decidable (e.task.stages = [] ∧ e.cancelled = false))

/-- What a single step does to the record of an operation under way. -/
inductive Moves : Entry → Entry → Prop where
  | call (e : Entry) (c : Call) (t : Task) (makes : e.task.Makes e.refreshId c t) :
      Moves e { e with task := t, calls := e.calls ++ [c] }
  | pass (e : Entry) (t : Task) (passes : e.task.Passes t) : Moves e { e with task := t }
  | acquire (e : Entry) (round : Round) (rest : List Stage) (refreshId : Nat)
      (waits : e.task.stages = .round round :: rest) (without : e.task.broadcasts = false) :
      Moves e (e.granted refreshId)
  | cancel (e : Entry) : Moves e e.cancel

theorem Moves.visit {e e' : Entry} (moves : e.Moves e') : e'.visit = e.visit := by
  cases moves <;> rfl

end Entry

/-- A center with the records of all operations on it, in the order of their critical sections. -/
structure Journal where
  center : Center
  entries : List Entry := []

namespace Journal

def visits (j : Journal) : List Visit :=
  j.entries.map (·.visit)

def enter (j : Journal) (groups : Resolver) (op : Operation) : Journal :=
  let v : Visit := ⟨groups, op, j.center⟩
  { center := v.outcome.center, entries := j.entries ++ [.begun v] }

theorem center_enter (j : Journal) (groups : Resolver) (op : Operation) :
    (j.enter groups op).center = (op.perform groups j.center).center := rfl

theorem visits_enter (j : Journal) (groups : Resolver) (op : Operation) :
    (j.enter groups op).visits = j.visits ++ [⟨groups, op, j.center⟩] := by
  simp [visits, enter, Entry.begun]

/-- A record that is replaced by one of the same critical section. -/
theorem visits_replace {j j' : Journal} {before after : List Entry} {e e' : Entry}
    (entries : j.entries = before ++ e :: after) (entries' : j'.entries = before ++ e' :: after)
    (visit : e'.visit = e.visit) : j'.visits = j.visits := by
  simp [visits, entries, entries', visit]

end Journal

/-- A call was answered. A failure, or an answer that took too long, is counted. -/
def Center.answered (s : Center) (c : Call) (ok : Bool) : Center :=
  if ok then s else { s with metrics := s.metrics.record c.failure }

theorem Center.answered_eq (s : Center) (c : Call) (ok : Bool) :
    ∃ metrics, s.answered c ok = { s with metrics } := by
  cases ok with
  | true => exact ⟨s.metrics, rfl⟩
  | false => exact ⟨_, rfl⟩

/-- A call with the operation that made it. Operations are numbered in the order of their critical
sections. -/
structure Contact where
  operation : Nat
  call : Call
  deriving Repr, DecidableEq

/-- A journal, the calls of its operations in order and whether they succeeded, and the operations in
the order in which they got the right to broadcast. -/
structure Timeline where
  journal : Journal
  log : List (Contact × Bool) := []
  turns : List Nat := []

namespace Timeline

def entries (k : Timeline) : List Entry :=
  k.journal.entries

def calls (k : Timeline) : List Contact :=
  k.log.map (·.1)

/-- Any operation begins, or one that is under way makes a call, whatever the answer, goes on behind
a stage, gets the right to broadcast, or is cancelled. -/
inductive Step : Timeline → Timeline → Prop where
  | enter (k : Timeline) (groups : Resolver) (op : Operation) :
      Step k { k with journal := k.journal.enter groups op }
  | call (k : Timeline) (before after : List Entry) (e : Entry) (c : Call) (t : Task) (ok : Bool)
      (entries : k.entries = before ++ e :: after) (makes : e.task.Makes e.refreshId c t) :
      Step k
        { k with
          journal :=
            { center := k.journal.center.answered c ok
              entries := before ++ { e with task := t, calls := e.calls ++ [c] } :: after }
          log := k.log ++ [(⟨before.length, c⟩, ok)] }
  | pass (k : Timeline) (before after : List Entry) (e : Entry) (t : Task)
      (entries : k.entries = before ++ e :: after) (passes : e.task.Passes t) :
      Step k
        { k with
          journal := { k.journal with entries := before ++ { e with task := t } :: after } }
  | acquire (k : Timeline) (before after : List Entry) (e : Entry) (round : Round)
      (rest : List Stage) (refreshId : Nat) (entries : k.entries = before ++ e :: after)
      (waits : e.task.stages = .round round :: rest)
      (free : ∀ other ∈ k.entries, other.task.broadcasts = false) :
      Step k
        { k with
          journal := { k.journal with entries := before ++ e.granted refreshId :: after }
          turns := k.turns ++ [before.length] }
  | cancel (k : Timeline) (before after : List Entry) (e : Entry)
      (entries : k.entries = before ++ e :: after) (underway : e.task.stages ≠ []) :
      Step k
        { k with journal := { k.journal with entries := before ++ e.cancel :: after } }

/-- What can come about on a center. -/
inductive Run (s : Center) : Timeline → Prop where
  | begun : Run s { journal := { center := s } }
  | step {k k' : Timeline} (before : Run s k) (next : Step k k') : Run s k'

/-- What can come about after a center was built with either value of the toggle. -/
def Reachable (k : Timeline) : Prop :=
  ∃ enabled, k.Run { enabled }

variable {s : Center} {k k' : Timeline}

theorem Reachable.built (enabled : Bool) : Reachable { journal := { center := { enabled } } } :=
  ⟨enabled, .begun⟩

theorem Reachable.step (before : k.Reachable) (next : k.Step k') : k'.Reachable := by
  obtain ⟨enabled, run⟩ := before
  exact ⟨enabled, run.step next⟩

@[induction_eliminator]
theorem Reachable.induct {motive : (k : Timeline) → k.Reachable → Prop}
    (built : ∀ enabled, motive { journal := { center := { enabled } } } (.built enabled))
    (step : ∀ {k k' : Timeline} (before : k.Reachable) (next : k.Step k'),
      motive k before → motive k' (before.step next))
    {k : Timeline} (reachable : k.Reachable) : motive k reachable := by
  obtain ⟨enabled, run⟩ := reachable
  induction run with
  | begun => exact built enabled
  | step before next ih => exact step ⟨enabled, before⟩ next ih

/-- A step is a critical section, or it changes a single record, and the calls that were made with it
are put on the log and counted. -/
theorem Step.cases (next : k.Step k') :
    (∃ groups op, k' = { k with journal := k.journal.enter groups op }) ∨
    (∃ before e e' after, ∃ made : List (Call × Bool), k.entries = before ++ e :: after ∧
      k'.entries = before ++ e' :: after ∧ e.Moves e' ∧ e'.calls = e.calls ++ made.map (·.1) ∧
      k'.log = k.log ++ made.map (fun x => (⟨before.length, x.1⟩, x.2)) ∧
      k'.journal.center = made.foldl (fun s x => s.answered x.1 x.2) k.journal.center) := by
  cases next with
  | enter groups op => exact Or.inl ⟨groups, op, rfl⟩
  | call before after e c t ok entries makes =>
    exact Or.inr ⟨before, e, _, after, [(c, ok)], entries, rfl, .call e c t makes, rfl, rfl, rfl⟩
  | pass before after e t entries passes =>
    exact Or.inr ⟨before, e, _, after, [], entries, rfl, .pass e t passes,
      (List.append_nil _).symm, (List.append_nil _).symm, rfl⟩
  | acquire before after e round rest refreshId entries waits free =>
    exact Or.inr ⟨before, e, _, after, [], entries, rfl,
      .acquire e round rest refreshId waits (free e (by simp [entries])),
      (List.append_nil _).symm, (List.append_nil _).symm, rfl⟩
  | cancel before after e entries underway =>
    exact Or.inr ⟨before, e, _, after, [], entries, rfl, .cancel e,
      (List.append_nil _).symm, (List.append_nil _).symm, rfl⟩

/-- Calls leave everything but the counters as it is. -/
theorem foldl_answered (s : Center) (made : List (Call × Bool)) :
    ∃ metrics, made.foldl (fun s x => s.answered x.1 x.2) s = { s with metrics } := by
  induction made generalizing s with
  | nil => exact ⟨s.metrics, rfl⟩
  | cons x made ih =>
    obtain ⟨counted, first⟩ := s.answered_eq x.1 x.2
    obtain ⟨metrics, rest⟩ := ih (s.answered x.1 x.2)
    exact ⟨metrics, by rw [List.foldl_cons, rest, first]⟩

/-- A step is a critical section, or it leaves the critical sections, and the center but for the
counters, as they are. -/
theorem Step.center_cases (next : k.Step k') :
    (∃ groups op, k'.journal = k.journal.enter groups op) ∨
    (k'.journal.visits = k.journal.visits ∧
      ∃ metrics, k'.journal.center = { k.journal.center with metrics }) := by
  rcases next.cases with ⟨groups, op, rfl⟩ |
    ⟨before, e, e', after, made, entries, entries', moves, -, -, center⟩
  · exact Or.inl ⟨groups, op, rfl⟩
  · refine Or.inr ⟨Journal.visits_replace entries entries' moves.visit, ?_⟩
    rw [center]
    exact foldl_answered k.journal.center made

/-- What holds of every operation when it begins, and of every record after a move that it made,
holds of all records. -/
theorem Run.entries {P : Entry → Prop} (begun : ∀ v, P (.begun v))
    (moves : ∀ e e', P e → e.Moves e' → P e') (run : k.Run s) : ∀ e ∈ k.entries, P e := by
  induction run with
  | begun => simp [Timeline.entries]
  | step before next ih =>
    rcases next.cases with ⟨groups, op, rfl⟩ |
      ⟨front, e, e', back, made, entries, entries', move, -⟩
    · intro e member
      rcases List.mem_append.mp member with old | new
      · exact ih e old
      · rw [List.mem_singleton.mp new]
        exact begun _
    · intro other member
      rw [entries'] at member
      rw [entries] at ih
      rcases List.mem_append.mp member with old | rest
      · exact ih other (List.mem_append_left _ old)
      · rcases List.mem_cons.mp rest with rfl | old
        · exact moves e other (ih e (by simp)) move
        · exact ih other (by simp [old])

end Timeline

namespace Journal

/-- A step of a timeline, as far as the journal shows it. -/
def Step (j j' : Journal) : Prop :=
  ∃ k k' : Timeline, k.Step k' ∧ k.journal = j ∧ k'.journal = j'

def Reachable (j : Journal) : Prop :=
  ∃ k : Timeline, k.Reachable ∧ k.journal = j

variable {j j' : Journal}

theorem Reachable.built (enabled : Bool) : Reachable { center := { enabled } } :=
  ⟨_, .built enabled, rfl⟩

/-- What a timeline does next does not depend on what is not in its journal. -/
theorem Reachable.step (before : j.Reachable) (next : j.Step j') : j'.Reachable := by
  obtain ⟨k, reachable, rfl⟩ := before
  obtain ⟨other, other', next, same, rfl⟩ := next
  obtain ⟨journal, log, turns⟩ := other
  cases same
  cases next with
  | enter groups op => exact ⟨_, reachable.step (.enter k groups op), rfl⟩
  | call before after e c t ok entries makes =>
    exact ⟨_, reachable.step (.call k before after e c t ok entries makes), rfl⟩
  | pass before after e t entries passes =>
    exact ⟨_, reachable.step (.pass k before after e t entries passes), rfl⟩
  | acquire before after e round rest refreshId entries waits free =>
    exact ⟨_, reachable.step (.acquire k before after e round rest refreshId entries waits free),
      rfl⟩
  | cancel before after e entries underway =>
    exact ⟨_, reachable.step (.cancel k before after e entries underway), rfl⟩

@[induction_eliminator]
theorem Reachable.induct {motive : (j : Journal) → j.Reachable → Prop}
    (built : ∀ enabled, motive { center := { enabled } } (.built enabled))
    (step : ∀ {j j' : Journal} (before : j.Reachable) (next : j.Step j'),
      motive j before → motive j' (before.step next))
    {j : Journal} (reachable : j.Reachable) : motive j reachable := by
  obtain ⟨k, ⟨enabled, run⟩, rfl⟩ := reachable
  induction run with
  | begun => exact built enabled
  | @step k k' before next ih => exact step ⟨k, ⟨enabled, before⟩, rfl⟩ ⟨k, k', next, rfl, rfl⟩ ih

/-- What holds of every operation when it begins, and of every record after a move that it made,
holds of all records. -/
theorem Reachable.entries {P : Entry → Prop} (begun : ∀ v, P (.begun v))
    (moves : ∀ e e', P e → e.Moves e' → P e') (reachable : j.Reachable) :
    ∀ e ∈ j.entries, P e := by
  obtain ⟨k, ⟨enabled, run⟩, rfl⟩ := reachable
  exact run.entries begun moves

namespace Step

theorem enter (j : Journal) (groups : Resolver) (op : Operation) : j.Step (j.enter groups op) :=
  ⟨{ journal := j }, _, .enter _ groups op, rfl, rfl⟩

theorem call (j : Journal) (before after : List Entry) (e : Entry) (c : Call) (t : Task) (ok : Bool)
    (entries : j.entries = before ++ e :: after) (makes : e.task.Makes e.refreshId c t) :
    j.Step
      { center := j.center.answered c ok
        entries := before ++ { e with task := t, calls := e.calls ++ [c] } :: after } :=
  ⟨{ journal := j }, _, .call _ before after e c t ok entries makes, rfl, rfl⟩

theorem pass (j : Journal) (before after : List Entry) (e : Entry) (t : Task)
    (entries : j.entries = before ++ e :: after) (passes : e.task.Passes t) :
    j.Step { j with entries := before ++ { e with task := t } :: after } :=
  ⟨{ journal := j }, _, .pass _ before after e t entries passes, rfl, rfl⟩

theorem acquire (j : Journal) (before after : List Entry) (e : Entry) (round : Round)
    (rest : List Stage) (refreshId : Nat) (entries : j.entries = before ++ e :: after)
    (waits : e.task.stages = .round round :: rest)
    (free : ∀ other ∈ j.entries, other.task.broadcasts = false) :
    j.Step { j with entries := before ++ e.granted refreshId :: after } :=
  ⟨{ journal := j }, _, .acquire _ before after e round rest refreshId entries waits free, rfl, rfl⟩

/-- A step is a critical section, or it changes a single record and leaves the ledger alone. -/
theorem cases (next : j.Step j') :
    (∃ groups op, j' = j.enter groups op) ∨
    (∃ before e e' after, j.entries = before ++ e :: after ∧
      j'.entries = before ++ e' :: after ∧ e.Moves e' ∧ j'.center.ledger = j.center.ledger) := by
  obtain ⟨k, k', next, rfl, rfl⟩ := next
  rcases next.cases with ⟨groups, op, rfl⟩ |
    ⟨before, e, e', after, made, entries, entries', moves, -, -, center⟩
  · exact Or.inl ⟨groups, op, rfl⟩
  · obtain ⟨metrics, counted⟩ := Timeline.foldl_answered k.journal.center made
    exact Or.inr ⟨before, e, e', after, entries, entries', moves, by rw [center, counted]⟩

/-- A step is a critical section, or it leaves the center as it is but for the counters. -/
theorem center_cases (next : j.Step j') :
    (∃ groups op, j' = j.enter groups op) ∨
    (j'.visits = j.visits ∧ ∃ metrics, j'.center = { j.center with metrics }) := by
  obtain ⟨k, k', next, rfl, rfl⟩ := next
  exact next.center_cases

end Step

end Journal

end SafetyCenter
