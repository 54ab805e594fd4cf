import SafetyCenter.Proofs.Center.Interleaving
import SafetyCenter.Proofs.Center.LedgerOperation
import SafetyCenter.Proofs.Ledger.History

set_option autoImplicit false

namespace SafetyCenter

namespace Visit

def asked? (v : Visit) : Option Ledger.Operation :=
  v.op.onLedger? v.groups v.center

def deeds (v : Visit) : List Ledger.Deed :=
  v.center.ledger.log v.asked?.toList

/-- What the operation is to hand to the dispatch sink. -/
def due (v : Visit) : List Call :=
  v.asked?.toList.flatMap v.center.ledger.due

end Visit

def Call.isDispatch : Call → Bool
  | .dispatch .. => true
  | _ => false

def Task.dispatches (t : Task) : List Call :=
  t.stages.flatMap (·.dispatches)

/-- What the operation has handed to the dispatch sink, in order. -/
def Entry.sent (e : Entry) : List Call :=
  e.calls.filter (·.isDispatch)

theorem Center.answered_ledger (s : Center) (c : Call) (ok : Bool) :
    (s.answered c ok).ledger = s.ledger := by
  cases ok with
  | true => rfl
  | false => rfl

/-- A call to the dispatch sink is the first of those that the task had still to make. -/
theorem Task.Makes.dispatches {t t' : Task} {refreshId : Nat} {c : Call}
    (makes : t.Makes refreshId c t') :
    t.dispatches = [c].filter (·.isDispatch) ++ t'.dispatches := by
  cases makes with
  | deliver group view error before after o stages b => rfl
  | dispatch group target user kind stages b => rfl
  | refresh group reason source user targets stages => rfl
  | announce group value source sources stages => rfl

theorem Task.Passes.dispatches {t t' : Task} (passes : t.Passes t') :
    t'.dispatches = t.dispatches := by
  cases passes with
  | delivered group view error stages b => rfl
  | refreshed group reason stages => rfl
  | announced group value stages => rfl

namespace Entry

/-- What the operation has sent, what it has still to send and what it has dropped is what was due.
Only a cancelled operation has dropped anything. -/
def Accounted (e : Entry) : Prop :=
  ∃ dropped, e.sent ++ e.task.dispatches ++ dropped = e.visit.due ∧
    (e.cancelled = false → dropped = [])

theorem accounted_begun (v : Visit) : (begun v).Accounted := by
  refine ⟨[], ?_, fun _ => rfl⟩
  rw [List.append_nil]
  exact (v.op.perform_follows v.center).dispatches

theorem Accounted.moves {e e' : Entry} (accounted : e.Accounted) (moves : e.Moves e') :
    e'.Accounted := by
  obtain ⟨dropped, same, whole⟩ := accounted
  cases moves with
  | call c t makes =>
    refine ⟨dropped, ?_, whole⟩
    rw [makes.dispatches] at same
    simpa [sent] using same
  | pass t passes =>
    refine ⟨dropped, ?_, whole⟩
    rw [← passes.dispatches] at same
    exact same
  | acquire round rest refreshId waits without => exact ⟨dropped, same, whole⟩
  | cancel =>
    refine ⟨e.task.dispatches ++ dropped, ?_, fun kept => ?_⟩
    · simpa [cancel, sent, Task.dispatches] using same
    · cases kept

end Entry

namespace Journal

def deeds (visits : List Visit) : List Ledger.Deed :=
  visits.flatMap (·.deeds)

/-- The ledger holds what all critical sections account for, and each of them met a ledger with what
the ones before it account for. -/
structure Chronicled (j : Journal) : Prop where
  sound : j.center.ledger.Sound
  present : j.center.ledger.Chronicled (deeds j.visits)
  past : ∀ before v after, j.visits = before ++ v :: after →
    v.center.ledger.Chronicled (deeds before)

theorem Chronicled.enter {j : Journal} (chronicled : j.Chronicled) (groups : Resolver)
    (op : Operation) : (j.enter groups op).Chronicled := by
  let v : Visit := ⟨groups, op, j.center⟩
  have ledger : (j.enter groups op).center.ledger = j.center.ledger.run v.asked?.toList :=
    (op.perform_follows j.center).ledger
  refine ⟨?_, ?_, ?_⟩
  · rw [ledger]
    exact chronicled.sound.run _
  · rw [ledger, visits_enter, deeds, List.flatMap_append, List.flatMap_singleton]
    exact chronicled.present.run chronicled.sound _
  · intro before w after split
    rw [visits_enter] at split
    -- the section in question is the new one, or it was there before
    rcases List.eq_nil_or_concat after with rfl | ⟨earlier, last, rfl⟩
    · obtain ⟨front, same⟩ := List.append_inj' split rfl
      cases same
      rw [← front]
      exact chronicled.present
    · rw [List.concat_eq_append, ← List.cons_append, ← List.append_assoc] at split
      obtain ⟨front, -⟩ := List.append_inj' split rfl
      exact chronicled.past before w earlier front

theorem Chronicled.step {j j' : Journal} (chronicled : j.Chronicled) (next : j.Step j') :
    j'.Chronicled := by
  rcases next.cases with ⟨groups, op, rfl⟩ | ⟨front, e, e', back, entries, entries', moves, ledger⟩
  · exact chronicled.enter groups op
  · have visits := visits_replace entries entries' moves.visit
    refine ⟨?_, ?_, ?_⟩
    · rw [ledger]
      exact chronicled.sound
    · rw [ledger, visits]
      exact chronicled.present
    · rw [visits]
      exact chronicled.past

theorem Reachable.chronicled {j : Journal} (reachable : j.Reachable) : j.Chronicled := by
  induction reachable with
  | built enabled => exact ⟨Ledger.sound_empty, Ledger.chronicled_empty, by simp [visits]⟩
  | step before next ih => exact ih.step next

/-- What holds of a center as built, whatever the counters, and is kept by the critical sections that
came about, holds of the center now and of each center that a critical section met. -/
theorem Reachable.visited {P : Center → Prop} {Q : Visit → Prop}
    (built : ∀ enabled, P { enabled }) (counted : ∀ s metrics, P s → P { s with metrics })
    (performed : ∀ v, Q v → P v.center → P v.outcome.center) {j : Journal}
    (reachable : j.Reachable) (permitted : ∀ v ∈ j.visits, Q v) :
    P j.center ∧ ∀ v ∈ j.visits, P v.center := by
  induction reachable with
  | built enabled => exact ⟨built enabled, by simp [visits]⟩
  | step before next ih =>
    rcases next.center_cases with ⟨groups, op, rfl⟩ | ⟨same, metrics, center⟩
    · simp only [visits_enter, List.forall_mem_append, List.forall_mem_singleton] at permitted ⊢
      obtain ⟨now, past⟩ := ih permitted.1
      exact ⟨performed ⟨groups, op, _⟩ permitted.2 now, past, now⟩
    · rw [same] at permitted ⊢
      obtain ⟨now, past⟩ := ih permitted
      rw [center]
      exact ⟨counted _ metrics now, past⟩

/-- What any resolver and the operations that came about keep. -/
theorem Reachable.centers {P : Center → Prop} {Q : Operation → Prop}
    (built : ∀ enabled, P { enabled }) (counted : ∀ s metrics, P s → P { s with metrics })
    (performed : ∀ groups s op, Q op → P s → P (op.perform groups s).center) {j : Journal}
    (reachable : j.Reachable) (permitted : ∀ v ∈ j.visits, Q v.op) :
    P j.center ∧ ∀ v ∈ j.visits, P v.center :=
  reachable.visited (Q := fun v => Q v.op) built counted
    (fun v allowed before => performed v.groups v.center v.op allowed before) permitted

end Journal

def Task.Rightful (t : Task) : Prop :=
  t.broadcasts = true → ∃ round rest, t.stages = .round round :: rest

namespace Task

variable {t t' : Task} {refreshId : Nat} {c : Call}

theorem Makes.stages_ne_nil (makes : t.Makes refreshId c t') : t.stages ≠ [] := by
  cases makes <;> exact List.cons_ne_nil _ _

theorem Passes.stages_ne_nil (passes : t.Passes t') : t.stages ≠ [] := by
  cases passes <;> exact List.cons_ne_nil _ _

theorem Rightful.makes (rightful : t.Rightful) (makes : t.Makes refreshId c t') :
    t'.Rightful := by
  cases makes with
  | deliver group view error before after o stages b =>
    intro right
    obtain ⟨round, rest, same⟩ := rightful right
    cases same
  | dispatch group target user kind stages b =>
    intro right
    obtain ⟨round, rest, same⟩ := rightful right
    cases same
  | refresh group reason source user targets stages => exact fun _ => ⟨_, _, rfl⟩
  | announce group value source sources stages => exact fun _ => ⟨_, _, rfl⟩

theorem Rightful.passes (rightful : t.Rightful) (passes : t.Passes t') : t'.Rightful := by
  cases passes with
  | delivered group view error stages b =>
    intro right
    obtain ⟨round, rest, same⟩ := rightful right
    cases same
  | refreshed group reason stages => exact nofun
  | announced group value stages => exact nofun

end Task

theorem Entry.rightful_moves {e e' : Entry} (rightful : e.task.Rightful) (moves : e.Moves e') :
    e'.task.Rightful := by
  cases moves with
  | call c t makes => exact rightful.makes makes
  | pass t passes => exact rightful.passes passes
  | acquire round rest refreshId waits without => exact fun _ => ⟨round, rest, waits⟩
  | cancel => exact nofun

namespace Journal

theorem Reachable.rightful {j : Journal} (reachable : j.Reachable) :
    ∀ e ∈ j.entries, e.task.Rightful :=
  reachable.entries (fun _ => nofun) fun _ _ before => Entry.rightful_moves before

end Journal

end SafetyCenter
