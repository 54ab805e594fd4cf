import SafetyCenter.Proofs.Center.Completion
import SafetyCenter.Proofs.Center.Timeline

/-!
Rounds do not mix. Sources are told something only by the operation that has the right to broadcast,
and it keeps this right until its round is over. So what sources are told is one round after the
other, in the order in which the operations got the right, and only the last one may be under way.
-/

set_option autoImplicit false

namespace SafetyCenter

namespace Entry

/-- The operation has had the right to broadcast: it has it still, or its round is over. -/
structure Served (e : Entry) : Prop where
  opens : e.visit.round?.isSome = true
  turn : e.task.broadcasts = true ∨ e.task.stages = []

/-- The operation has not had the right to broadcast. If it is not cancelled, its round is before
it. -/
structure Waits (e : Entry) : Prop where
  silent : e.told = []
  without : e.task.broadcasts = false
  ahead : e.visit.round?.isSome = true → e.cancelled = false → e.task.stages ≠ []

def contacts (n : Nat) (e : Entry) : List Contact :=
  e.told.map (⟨n, ·⟩)

variable {e : Entry}

theorem waits_begun (v : Visit) : (begun v).Waits where
  silent := rfl
  without := rfl
  ahead := by
    intro opens _
    obtain ⟨round, opened⟩ := Option.isSome_iff_exists.mp opens
    have waits : (begun v).task.stages = [.round round] := Operation.stages_of_round? opened
    simp [waits]

theorem Served.call (served : e.Served) (keeps : e.KeepsToRound) {c : Call} {t : Task}
    (makes : e.task.Makes e.refreshId c t) :
    Served { e with task := t, calls := e.calls ++ [c] } := by
  refine ⟨served.opens, Or.inl ?_⟩
  rcases keeps.of_isSome served.opens with ended | ⟨round, waits⟩
  · exact absurd ended makes.stages_ne_nil
  · exact makes.broadcasts_eq.trans (makes.of_round waits).1

theorem Served.pass (served : e.Served) (keeps : e.KeepsToRound) {t : Task}
    (passes : e.task.Passes t) : Served { e with task := t } := by
  refine ⟨served.opens, Or.inr ?_⟩
  rcases keeps.of_isSome served.opens with ended | ⟨round, waits⟩
  · exact absurd ended passes.stages_ne_nil
  · exact (passes.of_round waits).2.2

/-- An operation that has not had the right to broadcast and is not at a round calls no source. -/
theorem Waits.call (waits : e.Waits) (keeps : e.KeepsToRound) {c : Call} {t : Task}
    (makes : e.task.Makes e.refreshId c t) :
    Waits { e with task := t, calls := e.calls ++ [c] } := by
  have outward := makes.isToSource_eq_false waits.without
  refine ⟨?_, makes.broadcasts_eq.trans waits.without, fun opens kept => ?_⟩
  · have silent := waits.silent
    simpa [told, outward] using silent
  · rcases keeps.of_isSome opens with ended | ⟨round, ahead⟩
    · exact absurd ended (waits.ahead opens kept)
    · have right := (makes.of_round ahead).1
      rw [waits.without] at right
      cases right

theorem Waits.pass (waits : e.Waits) (keeps : e.KeepsToRound) {t : Task}
    (passes : e.task.Passes t) : Waits { e with task := t } := by
  refine ⟨waits.silent, passes.broadcasts_eq_false waits.without, fun opens kept => ?_⟩
  rcases keeps.of_isSome opens with ended | ⟨round, ahead⟩
  · exact absurd ended (waits.ahead opens kept)
  · have right := (passes.of_round ahead).1
    rw [waits.without] at right
    cases right

theorem KeepsToRound.served (keeps : e.KeepsToRound) {round : Round} {rest : List Stage}
    (ahead : e.task.stages = .round round :: rest) (refreshId : Nat) :
    (e.granted refreshId).Served := by
  refine ⟨?_, Or.inl rfl⟩
  by_contra none
  have other := keeps.of_isNone none (.round round) (by simp [ahead])
  cases other

end Entry

namespace Timeline

def toldBy (k : Timeline) (n : Nat) : List Contact :=
  k.entries[n]?.toList.flatMap (·.contacts n)

def told (k : Timeline) : List Contact :=
  k.calls.filter (·.call.isToSource)

/-- Sources are told what the operations tell them in turn. Only the last one may still have the
right to broadcast. -/
structure Ordered (k : Timeline) : Prop where
  told : k.told = k.turns.flatMap k.toldBy
  once : k.turns.Nodup
  served : ∀ n ∈ k.turns, ∃ e, k.entries[n]? = some e ∧ e.Served
  waiting : ∀ n e, k.entries[n]? = some e → n ∉ k.turns → e.Waits
  last : ∀ n e, k.entries[n]? = some e → e.task.broadcasts = true → k.turns.getLast? = some n

variable {k k' : Timeline}

theorem toldBy_of_getElem? {n : Nat} {e : Entry} (there : k.entries[n]? = some e) :
    k.toldBy n = e.contacts n := by
  simp [toldBy, there]

/-- What the others have told sources does not change when one operation goes on. -/
theorem toldBy_replace {before after : List Entry} {e e' : Entry} {made : List Call}
    (entries : k.entries = before ++ e :: after) (entries' : k'.entries = before ++ e' :: after)
    (calls : e'.calls = e.calls ++ made) (n : Nat) :
    k'.toldBy n = k.toldBy n ++
      if n = before.length then (made.filter (·.isToSource)).map (⟨n, ·⟩) else [] := by
  rw [toldBy, getElem?_replace entries entries']
  split
  · rename_i here
    have there : k.entries[n]? = some e := by simp [entries, here]
    rw [toldBy_of_getElem? there]
    simp [Entry.contacts, Entry.told, calls]
  · rw [List.append_nil, toldBy]

theorem Ordered.enter (ordered : k.Ordered) (groups : Resolver) (op : Operation) :
    Ordered { k with journal := k.journal.enter groups op } := by
  let v : Visit := ⟨groups, op, k.journal.center⟩
  have old : ∀ n e, k.entries[n]? = some e → (k.entries ++ [.begun v])[n]? = some e :=
    fun n e there => getElem?_concat_eq_some.mpr (Or.inl there)
  refine ⟨ordered.told.trans ?_, ordered.once, ?_, ?_, ?_⟩
  · refine List.flatMap_congr fun n turn => ?_
    obtain ⟨e, there, -⟩ := ordered.served n turn
    rw [toldBy_of_getElem? there]
    exact (toldBy_of_getElem? (old n e there)).symm
  · intro n turn
    obtain ⟨e, there, served⟩ := ordered.served n turn
    exact ⟨e, old n e there, served⟩
  · intro n e there turn
    rcases getElem?_concat_eq_some.mp there with before | ⟨-, rfl⟩
    · exact ordered.waiting n e before turn
    · exact Entry.waits_begun v
  · intro n e there has
    rcases getElem?_concat_eq_some.mp there with before | ⟨-, rfl⟩
    · exact ordered.last n e before has
    · cases has

/-- What an operation tells sources comes behind all that they were told before, since nobody but the
last who got the right to broadcast can tell them anything. -/
theorem Ordered.told_replace (ordered : k.Ordered) {before after : List Entry} {e e' : Entry}
    {made : List Call} (entries : k.entries = before ++ e :: after)
    (entries' : k'.entries = before ++ e' :: after) (calls : e'.calls = e.calls ++ made)
    (log : k'.calls = k.calls ++ made.map (⟨before.length, ·⟩))
    (telling : made.filter (·.isToSource) ≠ [] → e.task.broadcasts = true) :
    k'.told = k.turns.flatMap k'.toldBy := by
  have each := toldBy_replace entries entries' calls
  have added : k'.told = k.told ++ (made.filter (·.isToSource)).map (⟨before.length, ·⟩) := by
    simp only [Timeline.told, log, List.filter_append, List.filter_map]
    rfl
  rw [added, ordered.told]
  by_cases quiet : made.filter (·.isToSource) = []
  · have same : k'.toldBy = k.toldBy := funext fun n => by simp [each, quiet]
    simp [quiet, same]
  · -- it has the last turn, so its part is the one at the end
    have here : k.entries[before.length]? = some e := by simp [entries]
    obtain ⟨front, split⟩ :=
      List.getLast?_eq_some_iff.mp (ordered.last before.length e here (telling quiet))
    have once := ordered.once
    rw [split, List.nodup_append] at once
    have others : front.flatMap k'.toldBy = front.flatMap k.toldBy := by
      refine List.flatMap_congr fun n early => ?_
      have other : n ≠ before.length := once.2.2 n early before.length List.mem_cons_self
      rw [each, if_neg other, List.append_nil]
    rw [split, List.flatMap_append, List.flatMap_append, others, List.flatMap_singleton,
      List.flatMap_singleton, each before.length, if_pos rfl, List.append_assoc]

/-- An operation goes on without getting the right to broadcast. -/
theorem Ordered.replace (ordered : k.Ordered) {before after : List Entry} {e e' : Entry}
    {made : List Call} (entries : k.entries = before ++ e :: after)
    (entries' : k'.entries = before ++ e' :: after) (turns : k'.turns = k.turns)
    (calls : e'.calls = e.calls ++ made)
    (log : k'.calls = k.calls ++ made.map (⟨before.length, ·⟩))
    (telling : made.filter (·.isToSource) ≠ [] → e.task.broadcasts = true)
    (right : e'.task.broadcasts = true → e.task.broadcasts = true)
    (served : e.Served → e'.Served) (waits : e.Waits → e'.Waits) : k'.Ordered := by
  have here : k.entries[before.length]? = some e := by simp [entries]
  have others := getElem?_replace entries entries'
  refine ⟨?_, ?_, ?_, ?_, ?_⟩
  · rw [turns]
    exact ordered.told_replace entries entries' calls log telling
  · rw [turns]
    exact ordered.once
  · intro n turn
    rw [turns] at turn
    obtain ⟨other, there, had⟩ := ordered.served n turn
    rw [others]
    split
    · rename_i same
      rw [same, here] at there
      cases there
      exact ⟨e', rfl, served had⟩
    · exact ⟨other, there, had⟩
  · intro n other there turn
    rw [others] at there
    rw [turns] at turn
    split at there
    · rename_i same
      cases there
      exact waits (ordered.waiting n e (same ▸ here) turn)
    · exact ordered.waiting n other there turn
  · intro n other there has
    rw [others] at there
    rw [turns]
    split at there
    · rename_i same
      cases there
      exact ordered.last n e (same ▸ here) (right has)
    · exact ordered.last n other there has

/-- Whoever is before the end of its tail, without the right to broadcast, has not had it. -/
theorem Ordered.not_mem_turns (ordered : k.Ordered) {n : Nat} {e : Entry}
    (there : k.entries[n]? = some e) (without : e.task.broadcasts = false)
    (ahead : e.task.stages ≠ []) : n ∉ k.turns := by
  intro turn
  obtain ⟨other, found, served⟩ := ordered.served n turn
  rw [there] at found
  cases found
  rcases served.turn with has | ended
  · rw [without] at has
    cases has
  · exact ahead ended

/-- The right to broadcast is got by an operation that has not had it, when nobody has it. -/
theorem Ordered.acquire (ordered : k.Ordered) {before after : List Entry} {e : Entry}
    {round : Round} {rest : List Stage} {refreshId : Nat}
    (entries : k.entries = before ++ e :: after)
    (ahead : e.task.stages = .round round :: rest)
    (free : ∀ other ∈ k.entries, other.task.broadcasts = false) (keeps : e.KeepsToRound)
    (entries' : k'.entries = before ++ e.granted refreshId :: after)
    (turns : k'.turns = k.turns ++ [before.length]) (log : k'.calls = k.calls) : k'.Ordered := by
  have here : k.entries[before.length]? = some e := by simp [entries]
  have others := getElem?_replace entries entries'
  have first : before.length ∉ k.turns :=
    ordered.not_mem_turns here (free e (by simp [entries])) (by simp [ahead])
  have waits := ordered.waiting before.length e here first
  refine ⟨?_, ?_, ?_, ?_, ?_⟩
  · have told : k'.told = k.turns.flatMap k'.toldBy :=
      ordered.told_replace entries entries' (List.append_nil _).symm
        (log.trans (List.append_nil _).symm) fun telling => absurd rfl telling
    have own : k'.toldBy before.length = [] := by
      have silent : (e.granted refreshId).told = [] := waits.silent
      rw [toldBy_of_getElem? ((others _).trans (if_pos rfl)), Entry.contacts, silent, List.map_nil]
    rw [told, turns, List.flatMap_append, List.flatMap_singleton, own, List.append_nil]
  · rw [turns]
    exact Distinct.nodup_append_singleton ordered.once first
  · intro n turn
    rw [turns, List.mem_append, List.mem_singleton] at turn
    rcases turn with had | rfl
    · obtain ⟨other, there, served⟩ := ordered.served n had
      have elsewhere : n ≠ before.length := fun same => first (same ▸ had)
      refine ⟨other, ?_, served⟩
      rw [others, if_neg elsewhere, there]
    · exact ⟨_, by rw [others, if_pos rfl], keeps.served ahead refreshId⟩
  · intro n other there turn
    rw [turns, List.mem_append, List.mem_singleton, not_or] at turn
    rw [others, if_neg turn.2] at there
    exact ordered.waiting n other there turn.1
  · intro n other there has
    rw [others] at there
    rw [turns, List.getLast?_concat]
    split at there
    · rename_i same
      rw [same]
    · have without := free other (List.mem_of_getElem? there)
      rw [without] at has
      cases has

theorem Ordered.step (ordered : k.Ordered) (keeps : ∀ e ∈ k.entries, e.KeepsToRound)
    (next : k.Step k') : k'.Ordered := by
  cases next with
  | enter groups op => exact ordered.enter groups op
  | call before after e c t ok entries makes =>
    have own := keeps e (by simp [entries])
    have log : (k.log ++ [((⟨before.length, c⟩ : Contact), ok)]).map Prod.fst =
        k.calls ++ [c].map (⟨before.length, ·⟩) := List.map_append
    refine ordered.replace entries rfl rfl rfl log ?_ ?_ ?_ ?_
    · intro telling
      by_contra without
      have outward := makes.isToSource_eq_false (Bool.not_eq_true _ ▸ without)
      exact telling (by simp [outward])
    · exact fun has => makes.broadcasts_eq ▸ has
    · exact fun served => served.call own makes
    · exact fun waits => waits.call own makes
  | pass before after e t entries passes =>
    have own := keeps e (by simp [entries])
    refine ordered.replace entries rfl rfl (List.append_nil _).symm
      (List.append_nil _).symm (fun telling => absurd rfl telling) ?_ ?_ ?_
    · intro has
      by_contra without
      rw [passes.broadcasts_eq_false (Bool.not_eq_true _ ▸ without)] at has
      cases has
    · exact fun served => served.pass own passes
    · exact fun waits => waits.pass own passes
  | acquire before after e round rest refreshId entries ahead free =>
    exact ordered.acquire entries ahead free (keeps e (by simp [entries])) rfl rfl rfl
  | cancel before after e entries underway =>
    refine ordered.replace entries rfl rfl (List.append_nil _).symm
      (List.append_nil _).symm (fun telling => absurd rfl telling) nofun ?_ ?_
    · exact fun served => ⟨served.opens, Or.inr rfl⟩
    · exact fun waits => ⟨waits.silent, rfl, fun _ => nofun⟩

theorem Reachable.ordered (reachable : k.Reachable) : k.Ordered := by
  induction reachable with
  | built enabled => exact ⟨rfl, List.nodup_nil, by simp, by simp [entries], by simp [entries]⟩
  | step before next ih =>
    have keeps := before.journal.entries Entry.keepsToRound_begun fun _ _ keeps => keeps.moves
    exact ih.step keeps next

/-- The round of the operation with a number: all that it is to tell sources, in order, under the one
id that it was given. -/
def roundOf (k : Timeline) (n : Nat) : List Contact :=
  k.entries[n]?.toList.flatMap fun e => (e.visit.toTell e.refreshId).map (⟨n, ·⟩)

/-- An operation that opened a round and has come to its end, without being cancelled. -/
def HeldRound (k : Timeline) (n : Nat) : Prop :=
  ∃ e, k.entries[n]? = some e ∧ e.visit.round?.isSome = true ∧ e.HasReturned

def IsBroadcasting (k : Timeline) (n : Nat) : Prop :=
  ∃ e, k.entries[n]? = some e ∧ e.task.broadcasts = true

/-- Sources were told whole rounds one after the other, and then the beginning of one more. -/
structure TellsRounds (k : Timeline) (held : List Nat) (begun : List Contact) : Prop where
  told : k.told = held.flatMap k.roundOf ++ begun
  once : held.Nodup
  /-- every operation that opened a round and has returned has held it -/
  held : ∀ n, n ∈ held ↔ k.HeldRound n
  underway : begun = [] ∨ ∃ n, k.IsBroadcasting n ∧ begun <+: k.roundOf n

theorem toldBy_of_returned {n : Nat} {e : Entry} (there : k.entries[n]? = some e)
    (holds : e.HoldsRound) (returned : e.HasReturned) : k.toldBy n = k.roundOf n := by
  simp [toldBy, roundOf, there, Entry.contacts, holds.of_returned returned]

theorem toldBy_prefix {n : Nat} {e : Entry} (there : k.entries[n]? = some e)
    (holds : e.HoldsRound) : k.toldBy n <+: k.roundOf n := by
  simp only [toldBy, roundOf, there, Option.toList_some, List.flatMap_singleton, Entry.contacts]
  exact holds.part.map _

/-- An operation that has come to the end of its round has had the right to broadcast. -/
theorem Ordered.mem_of_heldRound (ordered : k.Ordered) {n : Nat} (held : k.HeldRound n) :
    n ∈ k.turns := by
  obtain ⟨e, there, opens, ended, kept⟩ := held
  by_contra turn
  exact (ordered.waiting n e there turn).ahead opens kept ended

/-- Whoever has had the right to broadcast and has it no more has come to its end. -/
theorem Ordered.heldRound (ordered : k.Ordered)
    (uncancelled : ∀ e ∈ k.entries, e.visit.round?.isSome = true → e.cancelled = false)
    {n : Nat} (turn : n ∈ k.turns) (gone : ¬ k.IsBroadcasting n) : k.HeldRound n := by
  obtain ⟨e, there, served⟩ := ordered.served n turn
  rcases served.turn with has | ended
  · exact absurd ⟨e, there, has⟩ gone
  · exact ⟨e, there, served.opens, ended,
      uncancelled e (List.mem_of_getElem? there) served.opens⟩

theorem flatMap_toldBy {turns : List Nat}
    (holds : ∀ e ∈ k.entries, e.HoldsRound)
    (held : ∀ n ∈ turns, k.HeldRound n) :
    turns.flatMap k.toldBy = turns.flatMap k.roundOf := by
  refine List.flatMap_congr fun n turn => ?_
  obtain ⟨e, there, -, returned⟩ := held n turn
  exact toldBy_of_returned there (holds e (List.mem_of_getElem? there)) returned

/-- While nobody has the right to broadcast, all rounds that were held are whole. -/
theorem Ordered.tellsRounds_of_free (ordered : k.Ordered)
    (holds : ∀ e ∈ k.entries, e.HoldsRound)
    (uncancelled : ∀ e ∈ k.entries, e.visit.round?.isSome = true → e.cancelled = false)
    (free : ∀ n, ¬ k.IsBroadcasting n) : k.TellsRounds k.turns [] := by
  have held : ∀ n ∈ k.turns, k.HeldRound n := fun n turn =>
    ordered.heldRound uncancelled turn (free n)
  refine ⟨?_, ordered.once, fun n => ⟨held n, ordered.mem_of_heldRound⟩, Or.inl rfl⟩
  rw [List.append_nil, ordered.told, flatMap_toldBy holds held]

/-- While an operation has the right to broadcast, its round is the last of those that were begun, and
all others are whole. -/
theorem Ordered.tellsRounds_of_broadcasting (ordered : k.Ordered)
    (holds : ∀ e ∈ k.entries, e.HoldsRound)
    (rightful : ∀ e ∈ k.entries, e.task.Rightful)
    (uncancelled : ∀ e ∈ k.entries, e.visit.round?.isSome = true → e.cancelled = false) {n : Nat}
    (broadcasting : k.IsBroadcasting n) :
    ∃ front, k.TellsRounds front (k.toldBy n) := by
  obtain ⟨e, there, has⟩ := broadcasting
  obtain ⟨front, turns⟩ := List.getLast?_eq_some_iff.mp (ordered.last n e there has)
  have once := ordered.once
  rw [turns, List.nodup_append] at once
  have held : ∀ m ∈ front, k.HeldRound m := by
    intro m early
    refine ordered.heldRound uncancelled (by simp [turns, early]) ?_
    rintro ⟨other, found, hasToo⟩
    have last := ordered.last m other found hasToo
    rw [turns, List.getLast?_concat, Option.some.injEq] at last
    exact once.2.2 m early n List.mem_cons_self last.symm
  refine ⟨front, ?_, once.1, fun m => ⟨held m, ?_⟩,
    Or.inr ⟨n, ⟨e, there, has⟩, toldBy_prefix there (holds e (List.mem_of_getElem? there))⟩⟩
  · rw [ordered.told, turns, List.flatMap_append, List.flatMap_singleton,
      flatMap_toldBy holds held]
  · intro ended
    have turn := ordered.mem_of_heldRound ended
    rw [turns, List.mem_append, List.mem_singleton] at turn
    refine turn.resolve_right fun same => ?_
    obtain ⟨other, found, -, none, -⟩ := ended
    rw [same, there] at found
    cases found
    obtain ⟨round, rest, ahead⟩ := rightful e (List.mem_of_getElem? there) has
    rw [ahead] at none
    cases none

/-- However operations interleave, and whatever is answered to their calls, rounds do not mix and are
not cut short: they are held one by one, and every operation comes to its end. -/
theorem rounds_one_by_one (reachable : k.Reachable)
    (uncancelled : ∀ e ∈ k.entries, e.visit.round?.isSome = true → e.cancelled = false) :
    (∃ held begun, k.TellsRounds held begun) ∧ k.journal.Ends := by
  have ordered := reachable.ordered
  have holds := reachable.holdsRound
  refine ⟨?_, reachable.journal.ends⟩
  by_cases broadcasting : ∃ n, k.IsBroadcasting n
  · obtain ⟨n, has⟩ := broadcasting
    obtain ⟨front, tells⟩ :=
      ordered.tellsRounds_of_broadcasting holds reachable.journal.rightful uncancelled has
    exact ⟨front, _, tells⟩
  · push Not at broadcasting
    exact ⟨_, _, ordered.tellsRounds_of_free holds uncancelled broadcasting⟩

/-- A refresh and the toggle's first value, one source. The center tells the source of the toggle
first, and this call fails. -/
theorem rounds_one_by_one_of_two_operations :
    ∃ k : Timeline, k.Reachable ∧
      k.journal.visits.map (·.op) =
        [.start (.ok ⟨[{ id := ⟨"lock"⟩ }]⟩), .requestRefresh .other ⟨1⟩, .applyInitial true] ∧
      k.told = [⟨2, .announce ⟨"lock"⟩ true⟩, ⟨1, .refresh ⟨"lock"⟩ ⟨1⟩ .other 1⟩] ∧
      (∃ held begun, k.TellsRounds held begun) ∧ k.journal.Ends := by
  let groups : Resolver := fun u => some (.single u)
  have built : Reachable { journal := { center := {} } } := .built true
  have entered := ((built.step
    (.enter _ groups (.start (.ok ⟨[{ id := ⟨"lock"⟩ }]⟩)))).step
    (.enter _ groups (.requestRefresh .other ⟨1⟩))).step (.enter _ groups (.applyInitial true))
  have first := entered.step (.acquire _ [_, _] [] _ _ [] 2 rfl rfl (by decide))
  have told := first.step
    (.call _ [_, _] [] _ _ _ false rfl (.announce _ true ⟨"lock"⟩ [] []))
  have passed := told.step (.pass _ [_, _] [] _ _ rfl (.announced _ true []))
  have second := passed.step (.acquire _ [_] [_] _ _ [] 1 rfl rfl (by decide))
  have asked := second.step
    (.call _ [_] [_] _ _ _ true rfl (.refresh _ .other ⟨"lock"⟩ ⟨1⟩ [] []))
  have returned := asked.step (.pass _ [_] [_] _ _ rfl (.refreshed _ .other []))
  exact ⟨_, returned, rfl, rfl, rounds_one_by_one returned (by decide)⟩

end Timeline

end SafetyCenter
