import SafetyCenter.Proofs.Center.Broadcast
import SafetyCenter.Proofs.Center.Inactivity

/-!
The toggle and what sources are told of it. The toggle is set in a critical section, and the round
that tells sources of it comes later, under a right of its own. So what sources know in the end is
the value of the round that was held last, and the center's toggle is the value that was set last.
-/

set_option autoImplicit false

namespace SafetyCenter

def Operation.toggles : Operation → Bool
  | .followToggle _ | .applyInitial _ => true
  | _ => false

def Call.isAnnouncement : Call → Bool
  | .announce .. => true
  | .refresh .. | .dispatch .. | .deliver .. => false

/-- The value that a call tells a source, if it tells this source of the toggle. -/
def Call.tells? (source : SourceId) : Call → Option Bool
  | .announce other value => if other = source then some value else none
  | .refresh .. | .dispatch .. | .deliver .. => none

namespace Visit

/-- The operation gives the toggle a new value, or its first one. -/
def changesToggle (v : Visit) : Bool :=
  v.op.toggles && v.round?.isSome

/-- Tells every source that was declared when the toggle was set of the value it was set to. -/
def announcements (v : Visit) : List Call :=
  v.center.catalogue.sources.map fun source => .announce source.id v.outcome.center.enabled

end Visit

theorem Center.enabled_setEnabled (s : Center) (value : Bool) :
    (s.setEnabled value).enabled = value := by
  cases value <;> rfl

namespace Operation

variable {groups : Resolver} {s : Center} {op : Operation}

/-- No other operation touches the toggle. -/
theorem enabled_of_toggles_eq_false (other : op.toggles = false) :
    (op.perform groups s).center.enabled = s.enabled := by
  cases acts : op.actor? with
  | some user => exact (perform_setting groups s acts).1
  | none =>
    cases op with
    | showCatalogue => rw [perform, s.showCatalogue_center]
    | overrideCatalogue c =>
      simp only [perform, Center.overrideCatalogue, Center.changeCatalogue]
      split
      · rfl
      · split <;> rfl
    | resetCatalogue =>
      simp only [perform, Center.resetCatalogue, Center.changeCatalogue]
      split <;> rfl
    | start _ | forgetReports | isActive => rfl
    | followToggle _ | applyInitial _ => cases other
    | _ => cases acts

/-- An operation that sets the toggle leaves the center as it is, or all declared sources are to be
told of the value that it gives the toggle. -/
theorem toggle_cases (groups : Resolver) (s : Center) (sets : op.toggles = true) :
    (op.round? groups s = none ∧ (op.perform groups s).center = s) ∨
    (∃ value, op.round? groups s = some (.announce value (s.catalogue.sources.map (·.id))) ∧
      (op.perform groups s).center = s.setEnabled value) := by
  cases op with
  | followToggle value =>
    by_cases same : s.enabled = value
    · refine Or.inl ⟨if_pos same, ?_⟩
      rw [perform, Center.followToggle, if_pos same]
      rfl
    · refine Or.inr ⟨value, if_neg same, ?_⟩
      rw [perform, Center.followToggle, if_neg same]
  | applyInitial value => exact Or.inr ⟨value, rfl, rfl⟩
  | _ => cases sets

/-- Any other round asks for reports. -/
theorem isRefresh_of_toggles_eq_false (other : op.toggles = false) {round : Round}
    (opens : op.round? groups s = some round) : round.isRefresh = true := by
  cases op with
  | requestRefresh reason user =>
    cases active : s.isActive with
    | false => simp [round?, active] at opens
    | true =>
      simp only [round?, active, if_true, Option.map_eq_some_iff] at opens
      obtain ⟨g, -, rfl⟩ := opens
      rfl
  | followToggle value => cases other
  | applyInitial value => cases other
  | _ => cases opens

end Operation

theorem Round.isAnnouncement_of_mem_calls {round : Round} (asks : round.isRefresh = true)
    {refreshId : Nat} {c : Call} (member : c ∈ round.calls refreshId) : c.isAnnouncement = false := by
  cases round with
  | refresh reason targets =>
    obtain ⟨target, -, rfl⟩ := List.mem_map.mp member
    rfl
  | announce value sources => cases asks

namespace Visit

variable {v : Visit}

/-- The toggle stays as it is unless it is given a new value, or its first one. -/
theorem enabled_of_not_changesToggle (other : v.changesToggle = false) :
    v.outcome.center.enabled = v.center.enabled := by
  cases sets : v.op.toggles with
  | false => exact Operation.enabled_of_toggles_eq_false sets
  | true =>
    rcases Operation.toggle_cases v.groups v.center sets with ⟨-, same⟩ | ⟨value, opens, -⟩
    · rw [outcome, same]
    · simp [changesToggle, sets, round?, opens] at other

theorem toTell_of_changesToggle (changes : v.changesToggle = true) (refreshId : Nat) :
    v.toTell refreshId = v.announcements := by
  obtain ⟨sets, opens⟩ := (Bool.and_eq_true _ _).mp changes
  rcases Operation.toggle_cases v.groups v.center sets with ⟨none, -⟩ | ⟨value, round, center⟩
  · rw [round?, none] at opens
    cases opens
  · rw [toTell, round?, round, announcements, outcome, center, Center.enabled_setEnabled]
    simp [Round.calls]

theorem isAnnouncement_of_changesToggle (changes : v.changesToggle = true) (refreshId : Nat) :
    ∀ c ∈ v.toTell refreshId, c.isAnnouncement = true := by
  rw [toTell_of_changesToggle changes, announcements]
  simp [Call.isAnnouncement]

/-- Other operations do not tell sources of the toggle. -/
theorem isAnnouncement_of_not_changesToggle (other : v.changesToggle = false) (refreshId : Nat) :
    ∀ c ∈ v.toTell refreshId, c.isAnnouncement = false := by
  intro c member
  obtain ⟨round, opens, inside⟩ := List.mem_flatMap.mp member
  rw [Option.mem_toList] at opens
  refine Round.isAnnouncement_of_mem_calls ?_ inside
  refine Operation.isRefresh_of_toggles_eq_false ?_ opens
  by_contra sets
  rw [Bool.not_eq_false] at sets
  simp [changesToggle, sets, opens] at other

end Visit

theorem getLast?_of_forall {α : Type} {l : List α} {a : α} (member : a ∈ l)
    (all : ∀ b ∈ l, b = a) : l.getLast? = some a := by
  obtain ⟨front, b, rfl⟩ := (List.eq_nil_or_concat l).resolve_left (List.ne_nil_of_mem member)
  rw [List.concat_eq_append, List.getLast?_concat, all b (by simp)]

/-- There is a last place in a list where something holds, if it holds somewhere. -/
theorem exists_last {α : Type} {p : α → Bool} {l : List α} (some : ∃ a ∈ l, p a = true) :
    ∃ before a after, l = before ++ a :: after ∧ p a = true ∧ ∀ b ∈ after, p b = false := by
  induction l with
  | nil => simp at some
  | cons first rest ih =>
    by_cases later : ∃ a ∈ rest, p a = true
    · obtain ⟨before, a, after, rfl, holds, none⟩ := ih later
      exact ⟨first :: before, a, after, rfl, holds, none⟩
    · obtain ⟨a, member, holds⟩ := some
      push Not at later
      rcases List.mem_cons.mp member with rfl | inside
      · exact ⟨[], a, rest, rfl, holds, fun b behind => Bool.eq_false_iff.mpr (later b behind)⟩
      · exact absurd holds (later a inside)

namespace Journal

/-- The operation with a number gave the toggle a value, and none did after it. -/
structure ChangedLast (j : Journal) (n : Nat) (v : Visit) : Prop where
  there : j.visits[n]? = some v
  changes : v.changesToggle = true
  last : ∀ m w, n < m → j.visits[m]? = some w → w.changesToggle = false

variable {j : Journal}

/-- The toggle has the value that it was given last, if it was given one at all. -/
theorem Reachable.toggle (reachable : j.Reachable) :
    (∀ v ∈ j.visits, v.changesToggle = false) ∨
    ∃ n v, j.ChangedLast n v ∧ j.center.enabled = v.outcome.center.enabled := by
  induction reachable with
  | built enabled => exact Or.inl (by simp [visits])
  | step before next ih =>
    rename_i j j'
    rcases next.center_cases with ⟨groups, op, rfl⟩ | ⟨same, metrics, center⟩
    · let v : Visit := ⟨groups, op, j.center⟩
      have visits : (j.enter groups op).visits = j.visits ++ [v] := j.visits_enter groups op
      have entered : (j.enter groups op).center = v.outcome.center := j.center_enter groups op
      -- the operation that was entered is the new last change, or the last one stays the last
      cases changes : v.changesToggle with
      | true =>
        refine Or.inr ⟨j.visits.length, v, ⟨by simp [visits], changes, ?_⟩, by rw [entered]⟩
        intro m w later there
        rw [visits, getElem?_concat_eq_some] at there
        rcases there with old | ⟨here, -⟩
        · have inside := (List.getElem?_eq_some_iff.mp old).1
          omega
        · omega
      | false =>
        rw [entered, v.enabled_of_not_changesToggle changes]
        rcases ih with none | ⟨n, w, last, value⟩
        · refine Or.inl ?_
          rw [visits, List.forall_mem_append, List.forall_mem_singleton]
          exact ⟨none, changes⟩
        · refine Or.inr ⟨n, w, ⟨?_, last.changes, ?_⟩, value⟩
          · rw [visits, getElem?_concat_eq_some]
            exact Or.inl last.there
          · intro m u later there
            rw [visits, getElem?_concat_eq_some] at there
            rcases there with old | ⟨-, rfl⟩
            · exact last.last m u later old
            · exact changes
    · rw [same, center]
      rcases ih with none | ⟨n, v, last, value⟩
      · exact Or.inl none
      · exact Or.inr ⟨n, v, ⟨same ▸ last.there, last.changes, same ▸ last.last⟩, value⟩

end Journal

namespace Timeline

/-- The round of the operation with a number told sources of the toggle, and none did after it. -/
structure AnnouncedLast (k : Timeline) (n : Nat) (v : Visit) : Prop where
  there : k.journal.visits[n]? = some v
  changes : v.changesToggle = true
  last : ∃ earlier later, k.turns = earlier ++ n :: later ∧
    ∀ m ∈ later, ∀ w, k.journal.visits[m]? = some w → w.changesToggle = false

def lastTold? (k : Timeline) (source : SourceId) : Option Bool :=
  (k.told.filterMap (·.call.tells? source)).getLast?

variable {k : Timeline}

theorem getElem?_visits (k : Timeline) (n : Nat) :
    k.journal.visits[n]? = k.entries[n]?.map (·.visit) :=
  List.getElem?_map

/-- A round that is no announcement tells no source of the toggle. -/
theorem tells?_toldBy_of_not {n : Nat} (holds : ∀ e ∈ k.entries, e.HoldsRound)
    (other : ∀ w, k.journal.visits[n]? = some w → w.changesToggle = false) (source : SourceId) :
    (k.toldBy n).filterMap (·.call.tells? source) = [] := by
  cases there : k.entries[n]? with
  | none => simp [toldBy, there]
  | some e =>
    rw [toldBy_of_getElem? there, Entry.contacts, List.filterMap_map, List.filterMap_eq_nil_iff]
    intro c member
    have quiet := Visit.isAnnouncement_of_not_changesToggle
      (other e.visit (by rw [getElem?_visits, there]; rfl)) e.refreshId c
      ((holds e (List.mem_of_getElem? there)).part.mem member)
    cases c with
    | announce other value => cases quiet
    | _ => rfl

/-- An announcement tells each source that was declared of the value, and of nothing else. -/
theorem tells?_toldBy_of_announced {n : Nat} {e : Entry} (there : k.entries[n]? = some e)
    (holds : e.HoldsRound) (returned : e.HasReturned)
    (changes : e.visit.changesToggle = true) {source : Source}
    (declared : source ∈ e.visit.center.catalogue.sources) :
    ((k.toldBy n).filterMap (·.call.tells? source.id)).getLast? =
      some e.visit.outcome.center.enabled := by
  rw [toldBy_of_getElem? there, Entry.contacts, holds.of_returned returned,
    Visit.toTell_of_changesToggle changes, List.filterMap_map, Visit.announcements,
    List.filterMap_map]
  refine getLast?_of_forall ?_ ?_
  · exact List.mem_filterMap.mpr ⟨source, declared, by simp [Call.tells?]⟩
  · intro value told
    obtain ⟨other, -, tells⟩ := List.mem_filterMap.mp told
    simp only [Function.comp, Call.tells?] at tells
    split at tells
    · exact (Option.some.inj tells).symm
    · cases tells

/-- Whoever announced the toggle has come to its end. -/
def Announced (k : Timeline) : Prop :=
  ∀ e ∈ k.entries, e.visit.changesToggle = true → e.HasReturned

instance (k : Timeline) : Decidable k.Announced :=
  inferInstanceAs (Decidable (∀ e ∈ k.entries, _))

theorem Announced.exists_entry (announced : k.Announced) {n : Nat} {v : Visit}
    (there : k.journal.visits[n]? = some v) (changes : v.changesToggle = true) :
    ∃ e, k.entries[n]? = some e ∧ e.visit = v ∧ e.HasReturned := by
  rw [getElem?_visits, Option.map_eq_some_iff] at there
  obtain ⟨e, there, rfl⟩ := there
  exact ⟨e, there, rfl, announced e (List.mem_of_getElem? there) changes⟩

theorem Ordered.exists_announcedLast (ordered : k.Ordered) (announced : k.Announced) {n : Nat}
    {v : Visit} (there : k.journal.visits[n]? = some v) (changes : v.changesToggle = true) :
    ∃ m w, k.AnnouncedLast m w := by
  obtain ⟨e, at_n, rfl, returned⟩ := announced.exists_entry there changes
  have opens : e.visit.round?.isSome = true := ((Bool.and_eq_true _ _).mp changes).2
  have turn : n ∈ k.turns := ordered.mem_of_heldRound ⟨e, at_n, opens, returned⟩
  let announces (m : Nat) : Bool := (k.journal.visits[m]?).any (·.changesToggle)
  have some : ∃ m ∈ k.turns, announces m = true :=
    ⟨n, turn, by simp [announces, there, changes]⟩
  obtain ⟨earlier, m, later, turns, own, none⟩ := exists_last some
  cases found : k.journal.visits[m]? with
  | none => simp [announces, found] at own
  | some w =>
    refine ⟨m, w, found, by simpa [announces, found] using own, earlier, later, turns, ?_⟩
    intro l behind u at_l
    simpa [announces, at_l] using none l behind

/-- Every source that was declared when the last announcement was captured was told it last. -/
theorem Ordered.lastTold? (ordered : k.Ordered) (announced : k.Announced)
    (holds : ∀ e ∈ k.entries, e.HoldsRound) {n : Nat}
    {v : Visit} (last : k.AnnouncedLast n v) {source : Source}
    (declared : source ∈ v.center.catalogue.sources) :
    k.lastTold? source.id = some v.outcome.center.enabled := by
  obtain ⟨e, there, rfl, returned⟩ := announced.exists_entry last.there last.changes
  obtain ⟨earlier, later, turns, quiet⟩ := last.last
  have own := tells?_toldBy_of_announced there
    (holds e (List.mem_of_getElem? there)) returned last.changes declared
  have after : (later.flatMap k.toldBy).filterMap (·.call.tells? source.id) = [] := by
    rw [List.filterMap_flatMap, List.flatMap_eq_nil_iff]
    exact fun m behind => tells?_toldBy_of_not holds (quiet m behind) source.id
  rw [Timeline.lastTold?, ordered.told, turns, List.flatMap_append, List.flatMap_cons,
    List.filterMap_append, List.filterMap_append, after, List.append_nil, List.getLast?_append,
    own, Option.some_or]

/-- What sources were told last is what the announcement says that was held last, and the toggle is
what it was set to last. These are one and the same if the last change is announced last. -/
theorem last_announcement_counts (reachable : k.Reachable) (announced : k.Announced)
    (changed : ∃ v ∈ k.journal.visits, v.changesToggle = true) :
    ∃ (told set : Nat) (v w : Visit), k.AnnouncedLast told v ∧ k.journal.ChangedLast set w ∧
      (∀ source ∈ v.center.catalogue.sources,
        k.lastTold? source.id = some v.outcome.center.enabled) ∧
      k.journal.center.enabled = w.outcome.center.enabled ∧
      (told = set → ∀ source ∈ v.center.catalogue.sources,
        k.lastTold? source.id = some k.journal.center.enabled) := by
  have ordered := reachable.ordered
  have holds := reachable.holdsRound
  have toggle := reachable.journal.toggle.resolve_left fun none => by
    obtain ⟨v, member, changes⟩ := changed
    rw [none v member] at changes
    cases changes
  obtain ⟨set, w, set_last, value⟩ := toggle
  obtain ⟨told, v, told_last⟩ :=
    ordered.exists_announcedLast announced set_last.there set_last.changes
  have known : ∀ source ∈ v.center.catalogue.sources,
      k.lastTold? source.id = some v.outcome.center.enabled :=
    fun source declared => ordered.lastTold? announced holds told_last declared
  refine ⟨told, set, v, w, told_last, set_last, known, value, ?_⟩
  rintro rfl source declared
  have same : v = w := Option.some.inj (told_last.there.symm.trans set_last.there)
  rw [value, ← same]
  exact known source declared

/-- The center is switched off and on again, and the announcements come in this order. -/
theorem last_announcement_counts_of_two_changes :
    ∃ k : Timeline, k.Reachable ∧
      k.journal.visits.map (·.op) =
        [.start (.ok ⟨[{ id := ⟨"lock"⟩ }]⟩), .followToggle false, .followToggle true] ∧
      k.told = [⟨1, .announce ⟨"lock"⟩ false⟩, ⟨2, .announce ⟨"lock"⟩ true⟩] ∧
      ∃ (told set : Nat) (v w : Visit), k.AnnouncedLast told v ∧ k.journal.ChangedLast set w ∧
        (∀ source ∈ v.center.catalogue.sources,
          k.lastTold? source.id = some v.outcome.center.enabled) ∧
        k.journal.center.enabled = w.outcome.center.enabled ∧
        (told = set → ∀ source ∈ v.center.catalogue.sources,
          k.lastTold? source.id = some k.journal.center.enabled) := by
  let groups : Resolver := fun u => some (.single u)
  have built : Reachable { journal := { center := {} } } := .built true
  have entered := ((built.step
    (.enter _ groups (.start (.ok ⟨[{ id := ⟨"lock"⟩ }]⟩)))).step
    (.enter _ groups (.followToggle false))).step (.enter _ groups (.followToggle true))
  have first := entered.step (.acquire _ [_] [_] _ _ [] 0 rfl rfl (by decide))
  have off := first.step
    (.call _ [_] [_] _ _ _ true rfl (.announce _ false ⟨"lock"⟩ [] []))
  have passed := off.step (.pass _ [_] [_] _ _ rfl (.announced _ false []))
  have second := passed.step (.acquire _ [_, _] [] _ _ [] 0 rfl rfl (by decide))
  have on := second.step
    (.call _ [_, _] [] _ _ _ true rfl (.announce _ true ⟨"lock"⟩ [] []))
  have returned := on.step (.pass _ [_, _] [] _ _ rfl (.announced _ true []))
  exact ⟨_, returned, rfl, rfl, last_announcement_counts returned (by decide) (by decide)⟩

/-- The right to broadcast need not be got in the order in which the toggle was set. Here the center
is switched off and on again, but it is the switching off that is announced last. So the source ends
up with the wrong value, although all calls are answered and all operations return. -/
theorem told_off_while_on :
    ∃ k : Timeline, k.Reachable ∧
      k.journal.visits.map (·.op) =
        [.start (.ok ⟨[{ id := ⟨"lock"⟩ }]⟩), .followToggle false, .followToggle true] ∧
      (∀ e ∈ k.entries, e.HasReturned) ∧
      k.told = [⟨2, .announce ⟨"lock"⟩ true⟩, ⟨1, .announce ⟨"lock"⟩ false⟩] ∧
      k.journal.center.catalogue.sources.map (·.id) = [⟨"lock"⟩] ∧
      k.lastTold? ⟨"lock"⟩ = some false ∧ k.journal.center.enabled = true := by
  let groups : Resolver := fun u => some (.single u)
  have built : Reachable { journal := { center := {} } } := .built true
  have entered := ((built.step
    (.enter _ groups (.start (.ok ⟨[{ id := ⟨"lock"⟩ }]⟩)))).step
    (.enter _ groups (.followToggle false))).step (.enter _ groups (.followToggle true))
  have first := entered.step (.acquire _ [_, _] [] _ _ [] 0 rfl rfl (by decide))
  have on := first.step
    (.call _ [_, _] [] _ _ _ true rfl (.announce _ true ⟨"lock"⟩ [] []))
  have passed := on.step (.pass _ [_, _] [] _ _ rfl (.announced _ true []))
  have second := passed.step (.acquire _ [_] [_] _ _ [] 0 rfl rfl (by decide))
  have off := second.step
    (.call _ [_] [_] _ _ _ true rfl (.announce _ false ⟨"lock"⟩ [] []))
  have returned := off.step (.pass _ [_] [_] _ _ rfl (.announced _ false []))
  exact ⟨_, returned, rfl, by decide, rfl, rfl, rfl, rfl⟩

end Timeline

end SafetyCenter
