import SafetyCenter.Proofs.Center.Notification
import SafetyCenter.Proofs.Center.Rounds

set_option autoImplicit false

namespace SafetyCenter

/-- The user whose group an operation is made for. -/
def Operation.resolved? : Operation → Option UserId
  | .submitReport _ _ _ user => some user
  | .reportFailure _ _ user => some user
  | .requestRefresh _ user => some user
  | .showView user => some user
  | .subscribe _ user => some user
  | .dismissIssue _ user => some user
  | .executeAction _ _ user => some user
  | _ => none

namespace Ledger

variable {c : Catalogue} {g : ProfileGroup} {place : Slot}

/-- No source may speak for a user outside of the group. -/
theorem refusal?_of_outside (outside : place.user ∉ g) : ∃ e, refusal? c g place = some e := by
  cases verdict : refusal? c g place with
  | some e => exact ⟨e, rfl⟩
  | none =>
    obtain ⟨s, -, -, covers⟩ := refusal?_eq_none_iff.mp verdict
    exact absurd (Source.mem_of_covers covers) outside

/-- What is asked for a group: the word of a source about anybody, judged by the group, or something
about an issue of a member. -/
def Operation.StaysIn (g : ProfileGroup) : Operation → Prop
  | .submit _ h _ _ => h = g
  | .reportFailure _ h _ _ => h = g
  | .dismiss id => id.user ∈ g
  | .launch id => id.issue.user ∈ g
  | .clear => False

/-- What is asked for a group leaves the places of others as they are. -/
theorem Operation.StaysIn.frame {op : Operation} (inside : op.StaysIn g) (l : Ledger)
    (outside : place.user ∉ g) : place.SameIn (op.perform l).ledger l := by
  cases op with
  | submit c h k report =>
    cases inside
    by_cases own : place = k
    · subst own
      obtain ⟨e, refused⟩ := refusal?_of_outside (c := c) outside
      have rejected : rejection? c g place report = some e := by simp only [rejection?, refused]
      rw [perform, submit_of_rejection l rejected]
      exact Slot.SameIn.refl place l
    · exact (local_submit c g k report).frame l place own
  | reportFailure c h k event =>
    cases inside
    by_cases own : place = k
    · subst own
      obtain ⟨e, refused⟩ := refusal?_of_outside (c := c) outside
      rw [perform, reportFailure_of_refusal l refused]
      exact Slot.SameIn.refl place l
    · exact (local_reportFailure c g k event).frame l place own
  | dismiss id =>
    refine (local_dismiss id).frame l place ?_
    rintro rfl
    exact outside inside
  | launch id =>
    refine (local_launch id).frame l place ?_
    rintro rfl
    exact outside inside
  | clear => cases inside

end Ledger

/-- The calls that a stage consists of, if a round bears a given number. -/
def Stage.calls (refreshId : Nat) : Stage → List Call
  | .deliver view error observers => observers.map fun o => .deliver o view error
  | .dispatch target user kind => [.dispatch target user kind]
  | .round r => r.calls refreshId

def Task.Holds (t : Task) (c : Call) : Prop :=
  ∃ stage ∈ t.stages, ∃ refreshId, c ∈ stage.calls refreshId

theorem Task.holds_head {group : Option ProfileGroup} {stage : Stage} {stages : List Stage}
    {b : Bool} {c : Call} (refreshId : Nat) (call : c ∈ stage.calls refreshId) :
    Task.Holds ⟨group, stage :: stages, b⟩ c :=
  ⟨stage, List.mem_cons_self, refreshId, call⟩

/-- A stage with fewer calls holds nothing new. -/
theorem Task.Holds.of_fewer {group : Option ProfileGroup} {stage stage' : Stage}
    {stages : List Stage} {b b' : Bool} {c : Call}
    (held : Task.Holds ⟨group, stage' :: stages, b'⟩ c)
    (fewer : ∀ refreshId, ∀ d ∈ stage'.calls refreshId, d ∈ stage.calls refreshId) :
    Task.Holds ⟨group, stage :: stages, b⟩ c := by
  obtain ⟨other, member, refreshId, call⟩ := held
  rcases List.mem_cons.mp member with rfl | later
  · exact Task.holds_head refreshId (fewer refreshId c call)
  · exact ⟨other, List.mem_cons_of_mem _ later, refreshId, call⟩

/-- A call that is made is one of those that the task held, and so are those that are left. -/
theorem Task.Makes.holds {t t' : Task} {refreshId : Nat} {c : Call}
    (makes : t.Makes refreshId c t') :
    t.Holds c ∧ ∀ d, t'.Holds d → t.Holds d := by
  cases makes with
  | deliver group view error before after o stages b =>
    refine ⟨Task.holds_head 0 (by simp [Stage.calls]), fun d later => ?_⟩
    refine later.of_fewer fun refreshId e member => ?_
    obtain ⟨p, inside, rfl⟩ := List.mem_map.mp member
    refine List.mem_map_of_mem ?_
    rcases List.mem_append.mp inside with front | back
    · exact List.mem_append_left _ front
    · exact List.mem_append_right _ (List.mem_cons_of_mem o back)
  | dispatch group target user kind stages b =>
    refine ⟨Task.holds_head 0 (by simp [Stage.calls]), fun d later => ?_⟩
    obtain ⟨stage, member, refreshId, call⟩ := later
    exact ⟨stage, List.mem_cons_of_mem _ member, refreshId, call⟩
  | refresh group reason source user targets stages =>
    refine ⟨Task.holds_head refreshId (by simp [Stage.calls, Round.calls]),
      fun d later => later.of_fewer fun refreshId' e member => ?_⟩
    exact List.mem_cons_of_mem _ member
  | announce group value source sources stages =>
    refine ⟨Task.holds_head 0 (by simp [Stage.calls, Round.calls]),
      fun d later => later.of_fewer fun refreshId' e member => ?_⟩
    exact List.mem_cons_of_mem _ member

theorem Task.Passes.holds {t t' : Task} (passes : t.Passes t') {d : Call} (held : t'.Holds d) :
    t.Holds d := by
  obtain ⟨stage, member, refreshId, call⟩ := held
  refine ⟨stage, ?_, refreshId, call⟩
  cases passes with
  | delivered group view error stages b => exact List.mem_cons_of_mem _ member
  | refreshed group reason stages => exact List.mem_cons_of_mem _ member
  | announced group value stages => exact List.mem_cons_of_mem _ member

/-- The calls made and those left to make are calls that the tail consisted of. -/
structure Entry.KeepsTo (e : Entry) : Prop where
  made : ∀ c ∈ e.calls, e.visit.task.Holds c
  left : ∀ c, e.task.Holds c → e.visit.task.Holds c

theorem Entry.KeepsTo.moves {e e' : Entry} (keeps : e.KeepsTo) (moves : e.Moves e') :
    e'.KeepsTo := by
  cases moves with
  | call c t makes =>
    obtain ⟨held, fewer⟩ := makes.holds
    refine ⟨fun d member => ?_, fun d later => keeps.left d (fewer d later)⟩
    rcases List.mem_append.mp member with old | new
    · exact keeps.made d old
    · rw [List.mem_singleton.mp new]
      exact keeps.left c held
  | pass t passes => exact ⟨keeps.made, fun d later => keeps.left d (passes.holds later)⟩
  | acquire => exact ⟨keeps.made, keeps.left⟩
  | cancel =>
    refine ⟨keeps.made, fun d later => ?_⟩
    obtain ⟨stage, member, -⟩ := later
    cases member

/-- Operations make only calls that their tails consist of. -/
theorem Journal.Reachable.keepsTo {j : Journal} (reachable : j.Reachable) {e : Entry}
    (member : e ∈ j.entries) : e.KeepsTo :=
  reachable.entries (fun _ => ⟨by simp [Entry.begun], fun _ held => held⟩)
    (fun _ _ before moves => before.moves moves) e member

/-- What a user is shown is about members of the user's group. -/
theorem Center.mem_of_shown {groups : Resolver} {s : Center} {user u : UserId} {g : ProfileGroup}
    {view : View} (found : groups user = some g)
    (shows : (s.showView groups user).answer = .ok (.view view)) (mentioned : view.Mentions u) :
    u ∈ g := by
  rw [showView_of_group found] at shows
  cases shows
  split at mentioned
  · exact Ledger.mem_of_mentions mentioned
  · rcases mentioned with ⟨e, member, -⟩ | ⟨i, member, -⟩
    · cases member
    · cases member

def Outcome.Viewless (o : Outcome) : Prop :=
  ∀ view, o.answer ≠ .ok (.view view)

namespace Center

variable {groups : Resolver}

theorem viewless_refuse (s : Center) (e : Error) : (s.refuse e).Viewless := by
  simp [Outcome.Viewless, refuse]

theorem viewless_of_done {o : Outcome} (done : o.answer = .ok .done) : o.Viewless := by
  simp [Outcome.Viewless, done]

theorem viewless_submitReport (s : Center) (source : SourceId) (report : Option Report)
    (user : UserId) : (s.submitReport groups source report user).Viewless := by
  refine forGroup_cases (viewless_refuse s _) fun g _ => ?_
  refine ifActive_cases (fun _ => viewless_of_done rfl) fun _ => ?_
  dsimp only
  split
  · exact viewless_refuse _ _
  · exact viewless_of_done rfl
  · exact viewless_of_done rfl

theorem viewless_reportFailure (s : Center) (source : SourceId) (event : Event) (user : UserId) :
    (s.reportFailure groups source event user).Viewless := by
  refine forGroup_cases (viewless_refuse s _) fun g _ => ?_
  refine ifActive_cases (fun _ => viewless_of_done rfl) fun _ => ?_
  dsimp only
  split
  · exact viewless_refuse _ _
  · split
    · exact viewless_of_done rfl
    · exact viewless_of_done rfl

theorem viewless_requestRefresh (s : Center) (reason : RefreshReason) (user : UserId) :
    (s.requestRefresh groups reason user).Viewless := by
  refine forGroup_cases (viewless_refuse s _) fun g _ => ?_
  exact ifActive_cases (fun _ => by simp [Outcome.Viewless, ignore])
    fun _ => by simp [Outcome.Viewless]

theorem viewless_subscribe (s : Center) (observer : Observer) (user : UserId) :
    (s.subscribe groups observer user).Viewless := by
  refine forGroup_cases (viewless_refuse s _) fun g _ => ?_
  refine ifActive_cases (fun _ => by simp [Outcome.Viewless, ignore]) fun _ => ?_
  split
  · simp [Outcome.Viewless, ignore]
  · simp [Outcome.Viewless]

theorem viewless_dismissIssue (s : Center) (text : String) (user : UserId) :
    (s.dismissIssue groups text user).Viewless := by
  unfold dismissIssue
  split
  · exact viewless_refuse s _
  · refine forOwner_cases (viewless_refuse s _) (viewless_refuse s _) fun g _ _ => ?_
    refine ifActive_cases (fun _ => viewless_of_done rfl) fun _ => ?_
    dsimp only
    split
    · exact viewless_of_done rfl
    · exact viewless_of_done rfl

theorem viewless_executeAction (s : Center) (issueText actionText : String) (user : UserId) :
    (s.executeAction groups issueText actionText user).Viewless := by
  unfold executeAction
  split
  · exact viewless_refuse s _
  · split
    · exact viewless_refuse s _
    · split
      · exact viewless_refuse s _
      · refine forOwner_cases (viewless_refuse s _) (viewless_refuse s _) fun g _ _ => ?_
        refine ifActive_cases (fun _ => viewless_of_done rfl) fun _ => ?_
        split
        · exact viewless_of_done rfl
        · exact viewless_of_done rfl

end Center

namespace Visit

/-- An observer that an operation for a group may tell: one that is registered for a member, or that
is registered by the operation itself. -/
def MayTell (v : Visit) (g : ProfileGroup) (o : Observer) : Prop :=
  (∃ u ∈ g, o ∈ v.center.subscriptions.of u) ∨ ∃ user, v.Registers o user

def Permits (v : Visit) (g : ProfileGroup) : Call → Prop
  | .refresh _ user _ _ => user ∈ g
  | .announce .. => False
  | .dispatch _ user _ => user ∈ g
  | .deliver o view _ => v.MayTell g o ∧ ∀ u, view.Mentions u → u ∈ g

variable {v : Visit} {user : UserId} {g : ProfileGroup}

theorem follows (v : Visit) : v.outcome.Follows v.center v.asked? :=
  v.op.perform_follows v.center

/-- Whoever is registered for a member after an operation may be told by it. -/
theorem mayTell_of_registered {o : Observer} {u : UserId} (member : u ∈ g)
    (registered : o ∈ v.outcome.center.subscriptions.of u) : v.MayTell g o := by
  rcases v.notified.ordered u with fewer | ⟨newcomer, registers, last⟩
  · exact Or.inl ⟨u, member, fewer.subset registered⟩
  · have listed : o ∈ (v.center.subscriptions.of u).toList ++ [newcomer] := last ▸ registered
    rcases List.mem_append.mp listed with old | new
    · exact Or.inl ⟨u, member, old⟩
    · rw [List.mem_singleton.mp new]
      exact Or.inr ⟨u, registers⟩

theorem resolved?_of_tracking {op : Operation} (tracks : op.tracking? = some user) :
    op.resolved? = some user := by
  cases op with
  | submitReport source report event u => exact tracks
  | reportFailure source event u => exact tracks
  | dismissIssue text u => exact tracks
  | executeAction issueText actionText u => exact tracks
  | _ => cases tracks

/-- A view is shown as the caller would be shown it, to observers that may be told. -/
theorem confined_delivery (asks : v.op.resolved? = some user) (found : v.groups user = some g)
    {view : View} {error : Option String} {observers : List Observer}
    (round : .deliver view error observers ∈ v.outcome.deliveries) :
    v.ShowsTo user view ∧ ∀ o ∈ observers, v.MayTell g o := by
  have notified := v.notified
  cases tracks : v.op.tracking? with
  | some caller =>
    have own := (resolved?_of_tracking tracks).symm.trans asks
    cases own
    by_cases due : v.Due
    · obtain ⟨h, view', error', found', shows, deliveries, -⟩ := notified.told user tracks due
      rw [found] at found'
      cases found'
      rw [deliveries] at round
      cases List.mem_singleton.mp round
      refine ⟨shows, fun o listed => ?_⟩
      obtain ⟨r, registered, rfl⟩ := List.mem_map.mp listed
      obtain ⟨member, there⟩ := Subscriptions.mem_registrations.mp registered
      exact mayTell_of_registered member there
    · rw [notified.quiet user tracks due] at round
      cases round
  | none =>
    by_cases registering : ∃ observer u, v.Registers observer u
    · obtain ⟨observer, u, registers⟩ := registering
      obtain ⟨view', shows, deliveries⟩ := notified.welcomed observer u registers
      rw [registers.op] at asks
      cases asks
      rw [deliveries] at round
      cases List.mem_singleton.mp round
      refine ⟨shows, fun o listed => ?_⟩
      rw [List.mem_singleton.mp listed]
      exact Or.inr ⟨user, registers⟩
    · rw [notified.silent tracks fun observer u registers =>
        registering ⟨observer, u, registers⟩] at round
      cases round

/-- What is asked of the ledger for a group stays inside it. -/
theorem confined_asked (asks : v.op.resolved? = some user) (found : v.groups user = some g)
    {ask : Ledger.Operation} (asked : v.asked? = some ask) : ask.StaysIn g := by
  obtain ⟨groups, op, s⟩ := v
  have group : ∀ h, s.admitted? groups user = some h → h = g := by
    intro h admitted
    unfold Center.admitted? at admitted
    split at admitted
    · exact Option.some.inj (admitted.symm.trans found)
    · cases admitted
  have member : ∀ target, s.admits groups user target = true → target ∈ g := by
    intro target admitted
    obtain ⟨-, h, acts, member⟩ := Center.admits_iff.mp admitted
    cases found.symm.trans acts
    exact member
  cases op with
  | submitReport source report event u =>
    cases asks
    obtain ⟨h, admitted, rfl⟩ := Option.map_eq_some_iff.mp asked
    exact group h admitted
  | reportFailure source event u =>
    cases asks
    obtain ⟨h, admitted, rfl⟩ := Option.map_eq_some_iff.mp asked
    exact group h admitted
  | dismissIssue text u =>
    cases asks
    obtain ⟨id, meant, rfl⟩ := Option.map_eq_some_iff.mp asked
    exact member _ (Option.filter_eq_some_iff.mp meant).2
  | executeAction issueText actionText u =>
    cases asks
    obtain ⟨id, meant, rfl⟩ := Option.map_eq_some_iff.mp asked
    exact member _ (Option.filter_eq_some_iff.mp meant).2
  | requestRefresh _ _ | showView _ | subscribe _ _ => cases asked
  | _ => cases asks

/-- An operation for a group leaves the places of others as they are. -/
theorem confined_ledger (asks : v.op.resolved? = some user) (found : v.groups user = some g)
    {place : Slot} (outside : place.user ∉ g) :
    place.SameIn v.outcome.center.ledger v.center.ledger := by
  have ledger := v.follows.ledger
  cases asked : v.asked? with
  | none =>
    rw [ledger, asked]
    exact Slot.SameIn.refl place v.center.ledger
  | some ask =>
    rw [ledger, asked]
    exact (confined_asked asks found asked).frame v.center.ledger outside

/-- What an operation for a group hands to the dispatch sink is for a member. -/
theorem confined_dispatch (asks : v.op.resolved? = some user) (found : v.groups user = some g)
    {target : String} {u : UserId} {kind : CallKind}
    (stage : .dispatch target u kind ∈ v.outcome.stages) : u ∈ g := by
  have call : Call.dispatch target u kind ∈ v.outcome.stages.flatMap (·.dispatches) :=
    List.mem_flatMap.mpr ⟨_, stage, List.mem_singleton.mpr rfl⟩
  rw [v.follows.dispatches] at call
  obtain ⟨ask, asked, due⟩ := List.mem_flatMap.mp call
  have inside := confined_asked asks found (Option.mem_toList.mp asked)
  cases ask with
  | submit _ _ _ _ | reportFailure _ _ _ _ | clear => cases due
  | dismiss id =>
    obtain ⟨target', -, same⟩ := List.mem_map.mp due
    cases same
    exact inside
  | launch id =>
    obtain ⟨a, -, same⟩ := List.mem_map.mp due
    cases same
    exact inside

/-- A round of an operation for a group asks for reports about members. -/
theorem confined_round (asks : v.op.resolved? = some user) (found : v.groups user = some g)
    {r : Round} (stage : .round r ∈ v.outcome.stages) :
    ∃ reason targets, r = .refresh reason targets ∧ ∀ t ∈ targets, t.2 ∈ g := by
  obtain ⟨groups, op, s⟩ := v
  cases opens : op.round? groups s with
  | none =>
    have prompt := Operation.prompt_of_round?_eq_none opens _ stage
    cases prompt
  | some r' =>
    have stages := Operation.stages_of_round? opens
    rw [Visit.outcome, stages] at stage
    cases List.mem_singleton.mp stage
    cases op with
    | requestRefresh reason u =>
      cases asks
      simp only [Operation.round?] at opens
      split at opens
      · have found' : groups user = some g := found
        rw [found', Option.map_some] at opens
        cases opens
        refine ⟨reason, _, rfl, fun t listed => ?_⟩
        obtain ⟨⟨source, u⟩, pair, rfl⟩ := List.mem_map.mp listed
        exact Source.mem_of_covers (Catalogue.mem_reportingPairs.mp pair).2.2
      · cases opens
    | followToggle _ | applyInitial _ => cases asks
    | _ => cases opens

/-- An operation for a group answers with nothing about others. -/
theorem confined_answer (asks : v.op.resolved? = some user) (found : v.groups user = some g)
    {view : View} (answer : v.outcome.answer = .ok (.view view)) {u : UserId}
    (mentioned : view.Mentions u) : u ∈ g := by
  obtain ⟨groups, op, s⟩ := v
  cases op with
  | showView w =>
    cases asks
    exact Center.mem_of_shown found answer mentioned
  | submitReport source report event w =>
    exact absurd answer (s.viewless_submitReport source report w view)
  | reportFailure source event w =>
    exact absurd answer (s.viewless_reportFailure source event w view)
  | requestRefresh reason w => exact absurd answer (s.viewless_requestRefresh reason w view)
  | subscribe observer w => exact absurd answer (s.viewless_subscribe observer w view)
  | dismissIssue text w => exact absurd answer (s.viewless_dismissIssue text w view)
  | executeAction issueText actionText w =>
    exact absurd answer (s.viewless_executeAction issueText actionText w view)
  | _ => cases asks

/-- All calls in the tail of an operation for a group are on behalf of the group. -/
theorem confined_calls (asks : v.op.resolved? = some user) (found : v.groups user = some g)
    {c : Call} (held : v.task.Holds c) : v.Permits g c := by
  obtain ⟨stage, member, refreshId, call⟩ := held
  cases stage with
  | deliver view error observers =>
    obtain ⟨o, listed, rfl⟩ := List.mem_map.mp call
    have round : .deliver view error observers ∈ v.outcome.deliveries :=
      List.mem_filter.mpr ⟨member, rfl⟩
    obtain ⟨shows, told⟩ := confined_delivery asks found round
    exact ⟨told o listed, fun u => Center.mem_of_shown found shows⟩
  | dispatch target u kind =>
    cases List.mem_singleton.mp call
    exact confined_dispatch asks found member
  | round r =>
    obtain ⟨reason, targets, rfl, inside⟩ := confined_round asks found member
    obtain ⟨t, listed, rfl⟩ := List.mem_map.mp call
    exact inside t listed

end Visit

/-- Whatever came about, and whatever the resolver answers, an operation that was made for a group
left what is tracked of others as it was, answered nothing about others, and has made no call on
behalf of others. -/
theorem Journal.Reachable.confined {j : Journal} (reachable : j.Reachable) {e : Entry}
    (member : e ∈ j.entries) {user : UserId} {g : ProfileGroup}
    (asks : e.visit.op.resolved? = some user) (found : e.visit.groups user = some g) :
    (∀ place : Slot, place.user ∉ g →
      place.SameIn e.visit.outcome.center.ledger e.visit.center.ledger) ∧
    (∀ view, e.visit.outcome.answer = .ok (.view view) → ∀ u, view.Mentions u → u ∈ g) ∧
    ∀ c ∈ e.calls, e.visit.Permits g c :=
  ⟨fun _ outside => Visit.confined_ledger asks found outside,
    fun _ answer _ mentioned => Visit.confined_answer asks found answer mentioned,
    fun c made => Visit.confined_calls asks found ((reachable.keepsTo member).made c made)⟩

/-- An observer is registered for a user whose group is that of somebody else, and is shown the view
of that group. -/
theorem Journal.Reachable.confined_of_stranger :
    let g : ProfileGroup := .single ⟨2⟩
    let groups : Resolver := fun _ => some g
    let subscribe : Operation := .subscribe ⟨"page"⟩ ⟨1⟩
    let before : Journal :=
      Journal.enter { center := {} } groups (.start (.ok ⟨[{ id := ⟨"lock"⟩ }]⟩))
    let begun : Entry := .begun ⟨groups, subscribe, before.center⟩
    let call : Call := .deliver ⟨"page"⟩ (before.center.viewOf g) none
    let e : Entry := { begun with
      task := ⟨some g, [.deliver (before.center.viewOf g) none []], false⟩, calls := [call] }
    let j : Journal :=
      { center := (before.enter groups subscribe).center, entries := before.entries ++ [e] }
    (j.Reachable ∧ e ∈ j.entries ∧ e.visit.op.resolved? = some ⟨1⟩ ∧
      e.visit.groups ⟨1⟩ = some g ∧ ⟨1⟩ ∉ g) ∧
    (∀ place : Slot, place.user ∉ g →
      place.SameIn e.visit.outcome.center.ledger e.visit.center.ledger) ∧
    (∀ view, e.visit.outcome.answer = .ok (.view view) → ∀ u, view.Mentions u → u ∈ g) ∧
    ∀ c ∈ e.calls, e.visit.Permits g c := by
  intro g groups subscribe before begun call e j
  have entered : (before.enter groups subscribe).Reachable :=
    ((Reachable.built true).step (.enter _ groups _)).step (.enter _ groups subscribe)
  have makes : begun.task.Makes begun.refreshId call e.task :=
    .deliver (some g) (before.center.viewOf g) none [] [] ⟨"page"⟩ [] false
  have reachable : j.Reachable :=
    entered.step (.call _ before.entries [] begun call _ true rfl makes)
  have member : e ∈ j.entries := List.mem_append_right _ (List.mem_singleton.mpr rfl)
  exact ⟨⟨reachable, member, rfl, rfl, by decide⟩, reachable.confined member rfl rfl⟩

end SafetyCenter
