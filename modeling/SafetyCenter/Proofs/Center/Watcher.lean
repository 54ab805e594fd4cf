import Mathlib.Data.List.Destutter
import SafetyCenter.Proofs.Center.Toggle

set_option autoImplicit false

namespace SafetyCenter

theorem destutter'_concat {α : Type} [DecidableEq α] (first : α) (l : List α) (a : α) :
    (l ++ [a]).destutter' (· ≠ ·) first =
      l.destutter' (· ≠ ·) first ++ if (first :: l).getLast? = some a then [] else [a] := by
  induction l generalizing first with
  | nil =>
    by_cases same : first = a
    · simp [same]
    · simp [same]
  | cons b l ih =>
    have last : (first :: b :: l).getLast? = (b :: l).getLast? := List.getLast?_cons_cons
    rw [List.cons_append, last]
    by_cases same : first = b
    · subst same
      rw [List.destutter'_cons_neg _ (by simp), List.destutter'_cons_neg _ (by simp), ih]
    · rw [List.destutter'_cons_pos _ same, List.destutter'_cons_pos _ same, ih, List.cons_append]

/-- One more value makes a difference unless it repeats the last one. -/
theorem destutter_concat {α : Type} [DecidableEq α] (l : List α) (a : α) :
    (l ++ [a]).destutter (· ≠ ·) =
      l.destutter (· ≠ ·) ++ if l.getLast? = some a then [] else [a] := by
  cases l with
  | nil => rfl
  | cons first l => exact destutter'_concat first l a

theorem flatMap_filter {α β : Type} (p : α → Bool) (f : α → List β) (l : List α) :
    (l.filter p).flatMap f = l.flatMap fun a => if p a then f a else [] := by
  induction l with
  | nil => rfl
  | cons a l ih => cases holds : p a <;> simp [holds, ih]

/-- What a watcher asks of the center for one more value. The first value is applied as it is. -/
def Operation.watching (earlier : List Bool) (value : Bool) : Operation :=
  if earlier = [] then .applyInitial value else .followToggle value

/-- A value is applied after earlier ones. -/
structure Visit.Applies (earlier : List Bool) (value : Bool) (v : Visit) : Prop where
  op : v.op = .watching earlier value
  /-- for a later value, the answer tells whether it is new -/
  answer : v.outcome.answer =
    .ok (if earlier = [] then .done else .flag (earlier.getLast? ≠ some value))
  /-- sources are told unless the value repeats the one before -/
  announced : v.changesToggle = decide (earlier.getLast? ≠ some value)
  enabled : v.outcome.center.enabled = value
  /-- switching off forgets everything -/
  cleared : v.changesToggle = true → value = false → v.outcome.center.HoldsNothing
  /-- nothing else forgets anything -/
  kept : v.changesToggle = false ∨ value = true →
    v.outcome.center.ledger = v.center.ledger ∧
      v.outcome.center.subscriptions = v.center.subscriptions

theorem Operation.toggles_watching (earlier : List Bool) (value : Bool) :
    (watching earlier value).toggles = true := by
  unfold watching
  split <;> rfl

theorem Center.holdsNothing_setEnabled (s : Center) : (s.setEnabled false).HoldsNothing :=
  ⟨rfl, rfl⟩

/-- The first value is applied whatever the toggle was. -/
theorem applies_first (groups : Resolver) (s : Center) (value : Bool) :
    Visit.Applies [] value ⟨groups, .applyInitial value, s⟩ where
  op := rfl
  answer := rfl
  announced := rfl
  enabled := s.enabled_setEnabled value
  cleared := by
    rintro - rfl
    exact s.holdsNothing_setEnabled
  kept := by
    rintro (same | rfl)
    · cases same
    · exact ⟨rfl, rfl⟩

/-- A later value is applied as it should be if the toggle has the value before it. -/
theorem applies_later (groups : Resolver) (s : Center) {earlier : List Bool}
    (before : earlier.getLast? = some s.enabled) (value : Bool) :
    Visit.Applies earlier value ⟨groups, .followToggle value, s⟩ := by
  have some : earlier ≠ [] := by
    rintro rfl
    cases before
  by_cases same : s.enabled = value
  · have repeated : earlier.getLast? = .some value := by rw [before, same]
    have outcome : (Visit.mk groups (.followToggle value) s).outcome = s.ignore (.flag false) :=
      if_pos same
    have round : (Visit.mk groups (.followToggle value) s).round? = none := if_pos same
    refine ⟨?_, ?_, ?_, ?_, ?_, ?_⟩
    · rw [Operation.watching, if_neg some]
    · simp [outcome, some, repeated, Center.ignore]
    · simp [Visit.changesToggle, round, repeated]
    · simpa [outcome, Center.ignore] using same
    · simp [Visit.changesToggle, round]
    · simp [outcome, Center.ignore]
  · have new : earlier.getLast? ≠ .some value := by simpa [before] using same
    have outcome : (Visit.mk groups (.followToggle value) s).outcome =
        { center := s.setEnabled value, answer := .ok (.flag true)
          stages := [s.announcement value] } := if_neg same
    have changes : (Visit.mk groups (.followToggle value) s).changesToggle = true := by
      simp [Visit.changesToggle, Operation.toggles, Visit.round?, Operation.round?, same]
    refine ⟨?_, ?_, ?_, ?_, ?_, ?_⟩
    · rw [Operation.watching, if_neg some]
    · simp [outcome, some, new]
    · simp [changes, new]
    · rw [outcome, s.enabled_setEnabled]
    · rintro - rfl
      rw [outcome]
      exact s.holdsNothing_setEnabled
    · rintro (unchanged | rfl)
      · rw [changes] at unchanged
        cases unchanged
      · rw [outcome]
        exact ⟨rfl, rfl⟩

/-- Each value is applied as it should be if the toggle has the value before it. -/
theorem applies_watching (groups : Resolver) (s : Center) {earlier : List Bool}
    (before : ∀ last, earlier.getLast? = some last → s.enabled = last) (value : Bool) :
    Visit.Applies earlier value ⟨groups, .watching earlier value, s⟩ := by
  rcases List.eq_nil_or_concat earlier with rfl | ⟨front, last, rfl⟩
  · exact applies_first groups s value
  · rw [List.concat_eq_append] at before ⊢
    have toggle : s.enabled = last := before last List.getLast?_concat
    have later : Operation.watching (front ++ [last]) value = .followToggle value :=
      if_neg (by simp)
    rw [later]
    exact applies_later groups s (by rw [List.getLast?_concat, toggle]) value

def Entry.announced (e : Entry) : List Call :=
  e.calls.filter (·.isAnnouncement)

namespace Entry

theorem announced_eq (e : Entry) : e.announced = e.told.filter (·.isAnnouncement) := by
  rw [announced, told, List.filter_filter]
  refine List.filter_congr fun c _ => ?_
  cases c <;> rfl

variable {e : Entry}

theorem HoldsRound.announced_of_not (holds : e.HoldsRound)
    (other : e.visit.changesToggle = false) : e.announced = [] := by
  rw [announced_eq, List.filter_eq_nil_iff]
  intro c member
  simp [Visit.isAnnouncement_of_not_changesToggle other e.refreshId c (holds.part.mem member)]

theorem HoldsRound.announced_of_returned (holds : e.HoldsRound)
    (returned : e.HasReturned) (changes : e.visit.changesToggle = true) :
    e.announced = e.visit.announcements := by
  rw [announced_eq, holds.of_returned returned, List.filter_eq_self.mpr
    (Visit.isAnnouncement_of_changesToggle changes e.refreshId),
    Visit.toTell_of_changesToggle changes]

end Entry

namespace Journal

def togglings (j : Journal) : List Visit :=
  j.visits.filter (·.op.toggles)

def changes (j : Journal) : List Visit :=
  j.visits.filter (·.changesToggle)

structure Follows (values : List Bool) (j : Journal) : Prop where
  /-- each value is applied once, in order -/
  applied : ∀ n value, values[n]? = some value →
    ∃ v : Visit, j.togglings[n]? = some v ∧ v.Applies (values.take n) value
  length : j.togglings.length = values.length
  /-- the values of the changes are all values but for the repeats -/
  changes : j.changes.map (·.outcome.center.enabled) = values.destutter (· ≠ ·)
  toggle : ∀ value, values.getLast? = some value → j.center.enabled = value

variable {values : List Bool} {j j' : Journal}

theorem togglings_enter (j : Journal) (groups : Resolver) (op : Operation) :
    (j.enter groups op).togglings =
      j.togglings ++ if op.toggles then [⟨groups, op, j.center⟩] else [] := by
  simp only [togglings, visits_enter, List.filter_append, List.filter_cons, List.filter_nil]

theorem changes_enter (j : Journal) (groups : Resolver) (op : Operation) :
    (j.enter groups op).changes = j.changes ++
      if (Visit.mk groups op j.center).changesToggle then [⟨groups, op, j.center⟩] else [] := by
  simp only [changes, visits_enter, List.filter_append, List.filter_cons, List.filter_nil]

theorem Follows.other (follows : j.Follows values) (next : j.Step j')
    (apart : j'.togglings = j.togglings) : j'.Follows values := by
  rcases next.center_cases with ⟨groups, op, rfl⟩ | ⟨same, metrics, center⟩
  · have other : op.toggles = false := by
      by_contra sets
      rw [Bool.not_eq_false] at sets
      simp [togglings_enter, sets] at apart
    refine ⟨fun n value there => ?_, ?_, ?_, fun value last => ?_⟩
    · rw [apart]
      exact follows.applied n value there
    · rw [apart, follows.length]
    · simpa [changes_enter, Visit.changesToggle, other] using follows.changes
    · exact (Operation.enabled_of_toggles_eq_false other).trans (follows.toggle value last)
  · have changes : j'.changes = j.changes := by rw [Journal.changes, same, Journal.changes]
    refine ⟨fun n value there => ?_, ?_, ?_, fun value last => ?_⟩
    · rw [apart]
      exact follows.applied n value there
    · rw [apart, follows.length]
    · rw [changes, follows.changes]
    · rw [center]
      exact follows.toggle value last

theorem Follows.apply (follows : j.Follows values) (groups : Resolver) (value : Bool) :
    (j.enter groups (.watching values value)).Follows (values ++ [value]) := by
  let v : Visit := ⟨groups, .watching values value, j.center⟩
  have applies : v.Applies values value := applies_watching groups _ follows.toggle value
  have togglings := j.togglings_enter groups (.watching values value)
  rw [Operation.toggles_watching, if_pos rfl] at togglings
  refine ⟨fun n earlier there => ?_, ?_, ?_, fun last there => ?_⟩
  · rcases getElem?_concat_eq_some.mp there with old | ⟨rfl, rfl⟩
    · obtain ⟨w, applied, before⟩ := follows.applied n earlier old
      have inside := (List.getElem?_eq_some_iff.mp old).1
      refine ⟨w, ?_, ?_⟩
      · rw [togglings, getElem?_concat_eq_some]
        exact Or.inl applied
      · rw [List.take_append_of_le_length (Nat.le_of_lt inside)]
        exact before
    · refine ⟨v, ?_, by simpa using applies⟩
      rw [togglings, getElem?_concat_eq_some]
      exact Or.inr ⟨follows.length.symm, rfl⟩
  · simp [togglings, follows.length]
  · rw [changes_enter, List.map_append, follows.changes, destutter_concat, applies.announced]
    by_cases repeated : values.getLast? = some value
    · simp [repeated]
    · have enabled := applies.enabled
      simp [repeated, v] at enabled ⊢
      exact enabled
  · rw [List.getLast?_concat, Option.some.injEq] at there
    rw [← there]
    exact applies.enabled

end Journal

namespace Timeline

def announced (k : Timeline) : List Call :=
  (k.calls.map (·.call)).filter (·.isAnnouncement)

/-- One watcher has applied values, each when the operation for the one before had returned. Any
other operations came about, but none of them sets the toggle. -/
inductive Watches : List Bool → Timeline → Prop where
  | built (enabled : Bool) : Watches [] { journal := { center := { enabled } } }
  | other {values : List Bool} {k k' : Timeline} (before : Watches values k)
      (next : Step k k') (apart : k'.journal.togglings = k.journal.togglings) :
      Watches values k'
  | apply {values : List Bool} {k : Timeline} (before : Watches values k)
      (returned : ∀ e ∈ k.entries, e.visit.op.toggles = true → e.HasReturned) (groups : Resolver)
      (value : Bool) :
      Watches (values ++ [value])
        { k with journal := k.journal.enter groups (.watching values value) }

/-- Sources were told of the toggle what the operations told them, in order, and all operations that
set the toggle but the last have nothing left to do. -/
structure InTurn (k : Timeline) : Prop where
  announced : k.announced = k.entries.flatMap (·.announced)
  idle : k.entries.Pairwise fun e later =>
    e.visit.op.toggles = true → later.visit.op.toggles = true → e.task.stages = []

variable {values : List Bool} {k k' : Timeline}

theorem Watches.reachable (watches : Watches values k) : k.Reachable := by
  induction watches with
  | built enabled => exact .built enabled
  | other before next apart ih => exact ih.step next
  | apply before returned groups value ih => exact ih.step (.enter _ groups _)

theorem Watches.follows (watches : Watches values k) : k.journal.Follows values := by
  induction watches with
  | built enabled => exact ⟨by simp, rfl, rfl, by simp⟩
  | other before next apart ih => exact ih.other ⟨_, _, next, rfl, rfl⟩ apart
  | apply before returned groups value ih => exact ih.apply groups value

theorem InTurn.enter (inTurn : k.InTurn) (groups : Resolver) (op : Operation)
    (alone : op.toggles = true →
      ∀ e ∈ k.entries, e.visit.op.toggles = true → e.task.stages = []) :
    InTurn { k with journal := k.journal.enter groups op } := by
  refine ⟨?_, ?_⟩
  · have entries : entries { k with journal := k.journal.enter groups op } =
        k.entries ++ [.begun ⟨groups, op, k.journal.center⟩] := rfl
    rw [entries, List.flatMap_append, ← inTurn.announced]
    exact (List.append_nil _).symm
  · refine List.pairwise_append.mpr ⟨inTurn.idle, List.pairwise_singleton _ _, ?_⟩
    intro e member later new sets setsToo
    rw [List.mem_singleton.mp new] at setsToo
    exact alone setsToo e member sets

/-- An operation goes on. If it tells a source of the toggle, it is the last one that does. -/
theorem InTurn.replace (inTurn : k.InTurn) {before after : List Entry} {e e' : Entry}
    {made : List Call} (entries : k.entries = before ++ e :: after)
    (entries' : k'.entries = before ++ e' :: after) (visit : e'.visit = e.visit)
    (calls : e'.calls = e.calls ++ made)
    (log : k'.calls = k.calls ++ made.map (⟨before.length, ·⟩))
    (ended : e.task.stages = [] → e'.task.stages = [])
    (telling : made.filter (·.isAnnouncement) ≠ [] →
      e.visit.op.toggles = true ∧ e.task.stages ≠ [])
    (quiet : ∀ other ∈ after, other.visit.op.toggles = false → other.announced = []) :
    k'.InTurn := by
  have idle := inTurn.idle
  rw [entries, List.pairwise_append, List.pairwise_cons] at idle
  obtain ⟨front, ⟨own, back⟩, across⟩ := idle
  refine ⟨?_, ?_⟩
  · have added : k'.announced = k.announced ++ made.filter (·.isAnnouncement) := by
      simp [Timeline.announced, log, Function.comp_def]
    have each : e'.announced = e.announced ++ made.filter (·.isAnnouncement) := by
      simp [Entry.announced, calls]
    rw [added, inTurn.announced, entries, entries', List.flatMap_append, List.flatMap_append,
      List.flatMap_cons, List.flatMap_cons, each]
    by_cases silent : made.filter (·.isAnnouncement) = []
    · simp [silent]
    · -- those behind it that set the toggle would have had to wait for it
      obtain ⟨sets, left⟩ := telling silent
      have none : after.flatMap (·.announced) = [] := by
        refine List.flatMap_eq_nil_iff.mpr fun other member => quiet other member ?_
        by_contra setsToo
        rw [Bool.not_eq_false] at setsToo
        exact left (own other member sets setsToo)
      simp [none]
  · rw [entries', List.pairwise_append, List.pairwise_cons]
    refine ⟨front, ⟨fun other member => ?_, back⟩, fun other member later inside => ?_⟩
    · rw [visit]
      exact fun sets setsToo => ended (own other member sets setsToo)
    · rcases List.mem_cons.mp inside with rfl | rest
      · rw [visit]
        exact across other member e List.mem_cons_self
      · exact across other member later (List.mem_cons_of_mem _ rest)

/-- Operations that do not set the toggle tell sources nothing of it. -/
theorem Reachable.silent (reachable : k.Reachable) :
    ∀ e ∈ k.entries, e.visit.op.toggles = false → e.announced = [] := by
  intro e member other
  exact (reachable.holdsRound e member).announced_of_not (by simp [Visit.changesToggle, other])

theorem InTurn.other (inTurn : k.InTurn) (next : k.Step k') (reachable : k'.Reachable)
    (apart : k'.journal.togglings = k.journal.togglings) : k'.InTurn := by
  rcases next.cases with ⟨groups, op, rfl⟩ |
    ⟨before, e, e', after, made, entries, entries', moves, calls, log, -⟩
  · refine inTurn.enter groups op fun sets => ?_
    simp [Journal.togglings_enter, sets] at apart
  · have silent := reachable.silent
    rw [entries'] at silent
    have added : k'.calls = k.calls ++ (made.map (·.1)).map (⟨before.length, ·⟩) := by
      simp [Timeline.calls, log, Function.comp_def]
    refine inTurn.replace entries entries' moves.visit calls added
      (fun ended => (moves.of_ended ended).1) (fun telling => ⟨?_, fun ended => ?_⟩)
      fun other member => silent other (by simp [member])
    · by_contra other
      have nothing := silent e' (by simp) (by rw [moves.visit]; simpa using other)
      simp only [Entry.announced, calls, List.filter_append, List.append_eq_nil_iff] at nothing
      exact telling nothing.2
    · have same := (moves.of_ended ended).2
      rw [calls, List.append_right_eq_self] at same
      simp [same] at telling

theorem Watches.inTurn (watches : Watches values k) : k.InTurn := by
  induction watches with
  | built enabled => exact ⟨rfl, List.Pairwise.nil⟩
  | other before next apart ih => exact ih.other next (before.reachable.step next) apart
  | apply before returned groups value ih =>
    exact ih.enter groups _ fun _ e member sets => (returned e member sets).1

/-- Whatever the toggle was at first, whatever else goes on, and whatever sources answer: the center
follows the values that a watcher applies, every source that is declared at a change is told of it,
once and in order, and sources are told of nothing else. -/
theorem watcher_coalesces (watches : Watches values k)
    (returned : ∀ e ∈ k.entries, e.visit.op.toggles = true → e.HasReturned) :
    k.journal.Follows values ∧
      k.announced = k.journal.changes.flatMap (·.announcements) ∧ k.journal.Ends := by
  refine ⟨watches.follows, ?_, watches.reachable.journal.ends⟩
  have holds := watches.reachable.holdsRound
  have each : ∀ e ∈ k.entries, e.announced =
      if e.visit.changesToggle then e.visit.announcements else [] := by
    intro e member
    split
    · rename_i changes
      have sets : e.visit.op.toggles = true := ((Bool.and_eq_true _ _).mp changes).1
      exact (holds e member).announced_of_returned (returned e member sets) changes
    · rename_i other
      exact (holds e member).announced_of_not (by simpa using other)
  rw [watches.inTurn.announced, List.flatMap_congr each, Journal.changes, flatMap_filter,
    Journal.visits, List.flatMap_map]
  rfl

/-- Of the values on, on and off, the source is told on and off. The call that tells it off fails. -/
theorem watcher_coalesces_of_three_values :
    ∃ k : Timeline, Watches [true, true, false] k ∧
      (∀ e ∈ k.entries, e.visit.op.toggles = true → e.HasReturned) ∧
      k.announced = [.announce ⟨"lock"⟩ true, .announce ⟨"lock"⟩ false] ∧
      k.journal.Follows [true, true, false] ∧
      k.announced = k.journal.changes.flatMap (·.announcements) ∧ k.journal.Ends := by
  let groups : Resolver := fun u => some (.single u)
  have built : Watches [] { journal := { center := { enabled := false } } } := .built false
  have started := built.other (.enter _ groups (.start (.ok ⟨[{ id := ⟨"lock"⟩ }]⟩))) rfl
  have first := started.apply (by decide) groups true
  have held := first.other (.acquire _ [_] [] _ _ [] 0 rfl rfl (by decide)) rfl
  have on := held.other
    (.call _ [_] [] _ _ _ true rfl (.announce _ true ⟨"lock"⟩ [] [])) rfl
  have passed := on.other (.pass _ [_] [] _ _ rfl (.announced _ true [])) rfl
  have repeated := passed.apply (by decide) groups true
  have last := repeated.apply (by decide) groups false
  have heldAgain := last.other (.acquire _ [_, _, _] [] _ _ [] 0 rfl rfl (by decide)) rfl
  have off := heldAgain.other
    (.call _ [_, _, _] [] _ _ _ false rfl (.announce _ false ⟨"lock"⟩ [] [])) rfl
  have ended := off.other (.pass _ [_, _, _] [] _ _ rfl (.announced _ false [])) rfl
  exact ⟨_, ended, by decide, rfl, watcher_coalesces ended (by decide)⟩

end Timeline

end SafetyCenter
