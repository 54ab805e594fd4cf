import SafetyCenter.Proofs.Center.Interleaving
import SafetyCenter.Proofs.Center.Submission
import SafetyCenter.Proofs.Scenario.Listening

set_option autoImplicit false

namespace SafetyCenter

theorem Stage.isDelivery_of_mem_showings {stage : Stage} {c : Call} (member : c ∈ stage.showings) :
    c.isDelivery = true ∧ c.isToSource = false := by
  cases stage with
  | deliver view error observers =>
    obtain ⟨o, -, rfl⟩ := List.mem_map.mp member
    exact ⟨rfl, rfl⟩
  | dispatch target user kind => cases member
  | round round => cases member

namespace Scenario

/-- What each source does when it is asked to report for a user: it reports, or reports that there
is nothing, or does nothing. A report comes with what made the source report. -/
abbrev Answers := SourceId × UserId → Option (Option Report × SafetyCenter.Event)

namespace Answers

/-- What a source asks of the center when it is asked to report. -/
def submission? (answers : Answers) (target : SourceId × UserId) : Option Operation :=
  (answers target).map fun (report, event) =>
    .submitReport target.1 report event target.2

def submissions (answers : Answers) (targets : List (SourceId × UserId)) : List Operation :=
  targets.filterMap answers.submission?

def steps (answers : Answers) (target : SourceId × UserId) : List Step :=
  (answers.submission? target).toList.map .operation

theorem isSubmission_of_submission? {answers : Answers} {target : SourceId × UserId} {op : Operation}
    (asked : answers.submission? target = some op) : op.isSubmission = true := by
  obtain ⟨⟨report, event⟩, -, rfl⟩ := Option.map_eq_some_iff.mp asked
  rfl

theorem isSubmission_of_mem {answers : Answers} {targets : List (SourceId × UserId)}
    {op : Operation} (member : op ∈ answers.submissions targets) : op.isSubmission = true := by
  obtain ⟨target, -, asked⟩ := List.mem_filterMap.mp member
  exact isSubmission_of_submission? asked

theorem submissions_cons (answers : Answers) (target : SourceId × UserId)
    (targets : List (SourceId × UserId)) :
    answers.submissions (target :: targets) =
      (answers.submission? target).toList ++ answers.submissions targets := by
  unfold submissions
  cases asked : answers.submission? target with
  | none => exact List.filterMap_cons_none asked
  | some op => exact List.filterMap_cons_some asked

end Answers

namespace World

def requests (w : World) : List Call :=
  w.calls.filter Call.isToSource

def deliveries (w : World) : List Call :=
  w.calls.filter Call.isDelivery

/-- Sources were called and operations performed, and the observers were told of what these
changed. -/
structure Told (w : World) (requests : List Call) (ops : List Operation) (w' : World) : Prop where
  center : (w.center.performAll w.groups.find? ops).1.SameButMetrics w'.center
  groups : w'.groups = w.groups
  requests : w'.requests = w.requests ++ requests
  deliveries : w'.deliveries =
    w.deliveries ++ (w.center.performAll w.groups.find? ops).2.flatMap Stage.showings

variable {w w' w'' : World} {cs cs' : List Call} {ops ops' : List Operation}

theorem Told.refl (w : World) : w.Told [] [] w :=
  ⟨rfl, rfl, (List.append_nil _).symm, (List.append_nil _).symm⟩

theorem Told.trans (first : w.Told cs ops w') (second : w'.Told cs' ops' w'')
    (submissions : ∀ op ∈ ops', op.isSubmission = true) :
    w.Told (cs ++ cs') (ops ++ ops') w'' := by
  obtain ⟨center, stages⟩ :=
    Center.performAll_sameButMetrics w.groups.find? submissions first.center
  have center' := second.center
  have deliveries' := second.deliveries
  rw [first.groups] at center' deliveries'
  refine ⟨?_, second.groups.trans first.groups, ?_, ?_⟩
  · rw [Center.performAll_append]
    exact center.trans center'
  · rw [second.requests, first.requests, List.append_assoc]
  · rw [deliveries', stages, first.deliveries, Center.performAll_append, List.append_assoc,
      List.flatMap_append]

/-- Calls that show views are no calls to sources. -/
theorem Made.told {stages : List Stage} (made : w.Made (stages.flatMap Stage.showings) w') :
    w'.requests = w.requests ∧
      w'.deliveries = w.deliveries ++ stages.flatMap Stage.showings := by
  have shown : ∀ c ∈ stages.flatMap Stage.showings, c.isDelivery = true ∧ c.isToSource = false := by
    intro c member
    obtain ⟨stage, -, member⟩ := List.mem_flatMap.mp member
    exact Stage.isDelivery_of_mem_showings member
  have all : (stages.flatMap Stage.showings).filter Call.isDelivery =
      stages.flatMap Stage.showings := List.filter_eq_self.mpr fun c member => (shown c member).1
  have none : (stages.flatMap Stage.showings).filter Call.isToSource = [] :=
    List.filter_eq_nil_iff.mpr fun c member => by
      rw [(shown c member).2]
      exact Bool.false_ne_true
  constructor
  · rw [requests, made.calls, List.filter_append, none, List.append_nil, requests]
  · rw [deliveries, made.calls, List.filter_append, all, deliveries]

theorem told_of_made (made : w.Made [] w') : w.Told [] [] w' := by
  have silent : w'.requests = w.requests ∧
      w'.deliveries = w.deliveries ++ [].flatMap Stage.showings := Made.told made
  exact ⟨made.center, made.groups, silent.1.trans (List.append_nil _).symm, silent.2⟩

/-- An operation was performed, and everybody was shown what it shows. -/
theorem told_of_operation {op : Operation}
    (made : Made { w with center := (op.perform w.groups.find? w.center).center }
      ((op.perform w.groups.find? w.center).stages.flatMap Stage.showings) w') :
    w.Told [] [op] w' where
  center := made.center
  groups := made.groups
  requests := made.told.1.trans (List.append_nil _).symm
  deliveries := by
    rw [made.told.2, Center.performAll, Center.performAll, List.append_nil]
    rfl

theorem told_see_nested (w : World) (step : Step) (result : Result) :
    w.Told [] [] (w.see (.nested step result)) where
  center := rfl
  groups := rfl
  requests := by
    rw [requests, calls_see_nested, List.append_nil]
    rfl
  deliveries := by
    rw [deliveries, calls_see_nested]
    exact (List.append_nil _).symm

/-- A source is called. -/
theorem told_startCall {c : Call} (source : c.isToSource = true) :
    w.Told [c] [] (w.startCall c).1 := by
  have shown : c.isDelivery = false := by
    cases c with
    | refresh | announce => rfl
    | dispatch | deliver => cases source
  have calls : (w.startCall c).1.calls = w.calls ++ [c] := by
    rw [startCall_fst]
    exact calls_see_call w c
  have rest : (w.startCall c).1.center = w.center ∧ (w.startCall c).1.groups = w.groups := by
    rw [startCall_fst]
    exact ⟨rfl, rfl⟩
  refine ⟨?_, rest.2, ?_, ?_⟩
  · rw [rest.1]
    rfl
  · rw [requests, calls, List.filter_append, List.filter_cons_of_pos source]
    rfl
  · rw [deliveries, calls, List.filter_append, List.filter_cons_of_neg (by simp [shown])]
    rfl

end World

/-- A source that was called reports, or does not, and its call ends, one way or the other. -/
theorem leads_source {P : World → Thread → Prop} {w : World} (calm : w.turn.handed = false)
    (listen : w.conduct.ObserversListen) {op? : Option Operation}
    (submission : ∀ op ∈ op?, op.isSubmission = true) (manner : Manner) (c : Call) (deadline : Nat)
    {frames : List Frame} (free : Thread.deadlines frames = [])
    (ends : ∀ w' ok, w.Told [] op?.toList w' → w'.turn = w.turn → w'.conduct = w.conduct →
      Leads P w' (.ready (.outcome ok) (.limit c deadline :: frames))) :
    Leads P w (.ready .go
      (.script (op?.toList.map .operation) manner :: .limit c deadline :: frames)) := by
  cases op? with
  | none =>
    exact leads_ended calm manner c deadline free fun w' ok made _ =>
      ends w' ok (World.told_of_made made) made.turn made.conduct
  | some op =>
    have telling := Center.stages_of_submission (submission op rfl) w.groups.find? w.center
    have performed : Goes w
        (.ready .go (.script [.operation op] manner :: .limit c deadline :: frames))
        { w with center := (op.perform w.groups.find? w.center).center }
        (.ready .go (.tail (op.perform w.groups.find? w.center).answer none
          (op.perform w.groups.find? w.center).stages :: .nested (.operation op) ::
          .script [] manner :: .limit c deadline :: frames)) := goes_advance _ _ _ _
    refine .goes performed ?_
    apply leads_tail (by exact calm) (by exact listen) _ telling
    · intro w' made
      have told := (World.told_of_operation made).trans
        (World.told_see_nested w' (.operation op)
          (.answer (op.perform w.groups.find? w.center).answer none)) (by simp)
      have calm' : w'.turn.handed = false := by rw [made.turn]; exact calm
      refine .goes (goes_advance _ _ _ _) (leads_ended (by exact calm') manner c deadline free ?_)
      intro w'' ok later _
      exact ends w'' ok (told.trans (World.told_of_made later) (by simp))
        (later.turn.trans made.turn) (later.conduct.trans made.conduct)
    -- The source's own call may be up while the observers are told. By then the report is stored and
    -- all of them were called, so nothing is missing.
    · intro w' above below made expired
      have only : Thread.deadlines (.nested (.operation op) :: .script [] manner ::
          .limit c deadline :: frames) = [deadline] := congrArg (deadline :: ·) free
      have up : deadline ≤ w'.now := Nat.le_of_not_lt fun early => by
        rw [splitExpired_eq_none_iff.mpr (by simpa [only] using early)] at expired
        cases expired
      have none : Thread.deadlines [.nested (.operation op), .script [] manner] = [] := rfl
      have split := splitExpired_append c up none frames
      cases split.symm.trans expired
      exact ends w' false (World.told_of_operation made) made.turn made.conduct

/-- A round of calls to sources that report or do not: the center comes to be as if the reports alone
had been made, one after the other. -/
theorem leads_round {P : World → Thread → Prop} (answers : Answers) (reason : RefreshReason)
    (id : Nat) {frames : List Frame} (free : Thread.deadlines frames = [])
    {targets : List (SourceId × UserId)} {w : World} {tally : Tally}
    (calm : w.turn.handed = false) (listen : w.conduct.ObserversListen)
    (acts : w.conduct.stepsOf (targets.map fun t => .refresh t.1 t.2 reason id) =
      targets.map answers.steps)
    (finish : ∀ w' tally',
      w.Told (targets.map fun t => .refresh t.1 t.2 reason id) (answers.submissions targets) w' →
      Leads P w' (.ready (.tally tally') frames)) :
    Leads P w (.ready .go
      (.calls (targets.map fun t => .refresh t.1 t.2 reason id) tally :: frames)) := by
  induction targets generalizing w tally with
  | nil => exact .goes (goes_advance _ _ _ _) (finish w tally (.refl w))
  | cons target targets ih =>
    obtain ⟨first, others⟩ := List.cons.inj acts
    have answered : (w.startCall (.refresh target.1 target.2 reason id)).2.steps =
        (answers.submission? target).toList.map .operation := (w.startCall_conduct _).1.trans first
    have conduct := (w.startCall_conduct (.refresh target.1 target.2 reason id)).2.2
    have told : w.Told _ [] _ := World.told_startCall (c := .refresh target.1 target.2 reason id) rfl
    have turn : (w.startCall (.refresh target.1 target.2 reason id)).1.turn = w.turn := by
      rw [World.startCall_fst]
    have started := goes_advance w .go
      (.calls (.refresh target.1 target.2 reason id ::
        targets.map fun t => .refresh t.1 t.2 reason id) tally) frames
    simp only [Thread.advance, Thread.ofStartedCall, answered] at started
    have submission : ∀ op ∈ answers.submission? target, op.isSubmission = true :=
      fun op asked => Answers.isSubmission_of_submission? asked
    have listen' := w.wearing_conduct.observersListen_after listen
      (.refresh target.1 target.2 reason id)
    refine .goes started (leads_source (turn ▸ calm) (conduct ▸ listen') submission _ _ _
      (by exact free) ?_)
    intro w' ok source turn' conduct'
    obtain ⟨w'', counted, made, -⟩ := goes_answered w' ok (.refresh target.1 target.2 reason id) _
      (targets.map fun t => .refresh t.1 t.2 reason id) tally frames
    have now : w''.turn = w.turn ∧ w''.conduct =
        w.conduct.after (.refresh target.1 target.2 reason id) :=
      ⟨made.turn.trans (turn'.trans turn), made.conduct.trans (conduct'.trans conduct)⟩
    have soFar := (told.trans source (by simpa using submission)).trans (World.told_of_made made)
      (by simp)
    refine .goes counted (ih (now.1 ▸ calm) (now.2 ▸ listen') (now.2 ▸ others)
      fun w₃ tally' rest => finish w₃ tally' ?_)
    rw [Answers.submissions_cons]
    simpa using soFar.trans rest fun op member => Answers.isSubmission_of_mem member

/-- Operations are played to their ends, one after the other. -/
inductive PlaysAll : World → List Operation → World → Prop
  | nil (w : World) : PlaysAll w [] w
  | cons {w w' w'' : World} {op : Operation} {ops : List Operation} {answer : Except Error Reply}
      {refreshId : Option Nat} (first : w.Performs op w' answer refreshId)
      (rest : PlaysAll w' ops w'') : PlaysAll w (op :: ops) w''

/-- A report that nobody asked for. -/
theorem plays_submission {w : World} (listen : w.conduct.ObserversListen) {op : Operation}
    (submission : op.isSubmission = true) :
    ∃ w', w.Performs op w' (op.perform w.groups.find? w.center).answer none ∧
      w.Told [] [op] w' ∧ w'.conduct = w.conduct := by
  let Ends (w' : World) (t : Thread) : Prop :=
    t = .ready (.result (.answer (op.perform w.groups.find? w.center).answer none)) [] ∧
      w.Told [] [op] w' ∧ w'.conduct = w.conduct
  have leads : Leads Ends
      { w with
        center := (op.perform w.groups.find? w.center).center
        turn := { w.turn with handed := false } }
      (.ready .go [.tail (op.perform w.groups.find? w.center).answer none
        (op.perform w.groups.find? w.center).stages]) := by
    apply leads_tail rfl (by exact listen) _ (Center.stages_of_submission submission _ _)
    · intro w' made
      have told : w.Told [] [op] w' :=
        let ⟨center, groups, requests, deliveries⟩ := World.told_of_operation
          (w := { w with turn := { w.turn with handed := false } }) made
        ⟨center, groups, requests, deliveries⟩
      exact .here ⟨rfl, told, made.conduct⟩
    · intro w' above below made expired
      cases (show none = some (above, below) from expired)
  obtain ⟨w', signal, ⟨same, told, conduct⟩, plays⟩ := Leads.plays (P := Ends)
    (w := (Thread.ofStep w (.operation op) []).1) (t := (Thread.ofStep w (.operation op) []).2)
    (fun w' t ends => ⟨_, ends.1⟩) leads
  cases same
  exact ⟨w', plays, told, conduct⟩

/-- Reports that nobody asked for, one after the other. -/
theorem plays_submissions {ops : List Operation}
    (submissions : ∀ op ∈ ops, op.isSubmission = true) {w : World}
    (listen : w.conduct.ObserversListen) : ∃ w', PlaysAll w ops w' ∧ w.Told [] ops w' := by
  induction ops generalizing w with
  | nil => exact ⟨w, .nil w, .refl w⟩
  | cons op ops ih =>
    obtain ⟨w₁, plays, told, conduct⟩ := plays_submission listen (submissions op List.mem_cons_self)
    have others : ∀ op ∈ ops, op.isSubmission = true := fun op' member =>
      submissions op' (List.mem_cons_of_mem op member)
    obtain ⟨w₂, rest, told'⟩ := ih others (conduct ▸ listen)
    exact ⟨w₂, .cons plays rest, told.trans told' others⟩

section Refreshing

variable {w : World} {user : UserId} {g : ProfileGroup}

/-- An admitted request for a refresh changes nothing at once; what is left is the round. -/
theorem ofStep_requestRefresh (reason : RefreshReason) (active : w.center.isActive = true)
    (found : w.groups.find? user = some g) (frames : List Frame) :
    Thread.ofStep w (.operation (.requestRefresh reason user)) frames =
      (w, .ready .go (.tail (.ok .refreshId) none
        [.round (.refresh reason (Center.refreshTargets w.center.catalogue g))] :: frames)) := by
  have admitted : (Operation.requestRefresh reason user).perform w.groups.find? w.center =
      { center := w.center, answer := .ok .refreshId
        stages := [.round (.refresh reason (Center.refreshTargets w.center.catalogue g))] } := by
    simp only [Operation.perform, Center.requestRefresh, Center.forGroup, found, Center.ifActive,
      active, if_true]
  rw [Thread.ofStep, Thread.ofOperation, admitted]

/-- A refresh round begins when the right to broadcast is free, and gets the next number. -/
theorem goes_round (idle : w.turn.holder = none) (reason : RefreshReason)
    (targets : List (SourceId × UserId)) (answer : Except Error Reply) (frames : List Frame) :
    Goes w (.ready .go (.tail answer none [.round (.refresh reason targets)] :: frames))
      { w with
        turn := { w.turn with holder := some w.turn.next, next := w.turn.next + 1 }
        refreshes := w.refreshes + 1 }
      (.ready .go (.calls (targets.map fun t => .refresh t.1 t.2 reason (w.refreshes + 1)) {} ::
        .release :: .tail answer (some (w.refreshes + 1)) [] :: frames)) := by
  have right : w.turn.request = ({ w.turn with holder := some w.turn.next, next := w.turn.next + 1 },
      w.turn.next, true) := by
    rw [Turn.request, idle]
  have asks := goes_advance w .go (.tail answer none [.round (.refresh reason targets)]) frames
  simp only [Thread.advance, Thread.ofStage, right, if_true] at asks
  exact asks.trans (goes_advance _ _ _ _)

/-- After its round an operation gives the right back and answers. -/
theorem goes_released (w : World) (tally : Tally) (answer : Except Error Reply)
    (refreshId : Option Nat) (frames : List Frame) :
    Goes w (.ready (.tally tally) (.release :: .tail answer refreshId [] :: frames))
      { w with turn := w.turn.release } (.ready (.result (.answer answer refreshId)) frames) :=
  (goes_advance _ _ _ _).trans ((goes_advance _ _ _ _).trans (goes_advance _ _ _ _))

/-- A refresh that nobody else's round holds up asks every source of the group. -/
theorem plays_refresh (reason : RefreshReason) (answers : Answers) (idle : w.turn.holder = none)
    (active : w.center.isActive = true) (found : w.groups.find? user = some g)
    (listen : w.conduct.ObserversListen)
    (acts : w.conduct.stepsOf ((Center.refreshTargets w.center.catalogue g).map fun t =>
        .refresh t.1 t.2 reason (w.refreshes + 1)) =
      (Center.refreshTargets w.center.catalogue g).map answers.steps) :
    ∃ w', w.Performs (.requestRefresh reason user) w' (.ok .refreshId) (some (w.refreshes + 1)) ∧
      w.Told ((Center.refreshTargets w.center.catalogue g).map fun t =>
          .refresh t.1 t.2 reason (w.refreshes + 1))
        (answers.submissions (Center.refreshTargets w.center.catalogue g)) w' := by
  let targets := Center.refreshTargets w.center.catalogue g
  let id := w.refreshes + 1
  let calm : World := { w with turn := { w.turn with handed := false } }
  let Ends (w' : World) (t : Thread) : Prop :=
    t = .ready (.result (.answer (.ok .refreshId) (some id))) [] ∧
      w.Told (targets.map fun t => .refresh t.1 t.2 reason id) (answers.submissions targets) w'
  have leads : Leads Ends calm
      (.ready .go [.tail (.ok .refreshId) none [.round (.refresh reason targets)]]) := by
    refine .goes (goes_round (by exact idle) reason targets _ []) ?_
    refine leads_round answers reason id rfl rfl (by exact listen) (by exact acts) ?_
    intro w' tally told
    exact .goes (goes_released w' tally _ _ [])
      (.here ⟨rfl, told.center, told.groups, told.requests, told.deliveries⟩)
  obtain ⟨refreshed, signal, ⟨same, told⟩, plays⟩ :=
    Leads.plays (P := Ends) (fun w' t ends => ⟨_, ends.1⟩) leads
  cases same
  refine ⟨refreshed, ?_, told⟩
  rw [World.Performs, ofStep_requestRefresh reason active found]
  exact plays

/-- Refreshing comes to the same as the reports alone. The sources of a group are asked to report, in
order; each submits its answer, if it has one, before its own call succeeds, fails or is given up,
whatever the observers who are told of the reports take their time with. Then the ledger, the
registrations and the views that were shown, to whom and in what order, are the same as if the
answers had been submitted one after the other with no refresh; and every source was called once, in
order, with the number that the refresh answers. -/
theorem refresh_eq_submissions (reason : RefreshReason) (answers : Answers)
    (idle : w.turn.holder = none) (active : w.center.isActive = true)
    (found : w.groups.find? user = some g) (listen : w.conduct.ObserversListen)
    (acts : w.conduct.stepsOf ((Center.refreshTargets w.center.catalogue g).map fun t =>
        .refresh t.1 t.2 reason (w.refreshes + 1)) =
      (Center.refreshTargets w.center.catalogue g).map answers.steps) :
    ∃ refreshed submitted,
      w.Performs (.requestRefresh reason user) refreshed (.ok .refreshId)
        (some (w.refreshes + 1)) ∧
      PlaysAll w (answers.submissions (Center.refreshTargets w.center.catalogue g)) submitted ∧
      refreshed.center.ledger = submitted.center.ledger ∧
      refreshed.center.subscriptions = submitted.center.subscriptions ∧
      refreshed.deliveries = submitted.deliveries ∧
      refreshed.requests =
        w.requests ++ (Center.refreshTargets w.center.catalogue g).map fun t =>
          .refresh t.1 t.2 reason (w.refreshes + 1) := by
  obtain ⟨refreshed, plays, told⟩ := plays_refresh reason answers idle active found listen acts
  obtain ⟨submitted, playsAll, told'⟩ :=
    plays_submissions (fun op member => Answers.isSubmission_of_mem member) listen
  refine ⟨refreshed, submitted, plays, playsAll, ?_, ?_, ?_, told.requests⟩
  · rw [told.center, told'.center]
  · rw [told.center, told'.center]
  · rw [told.deliveries, told'.deliveries]

end Refreshing

/-- Two users share a group, and one source covers both: for the first it has a report and hangs, for
the second it reports that there is nothing and fails. Another source says nothing. -/
theorem refresh_eq_submissions_of_two_users :
    let weak : Issue := { key := "weak", severity := .recommendation }
    let report : Report := { session := "first", issues := [weak] }
    let booted : SafetyCenter.Event := ⟨.deviceRebooted, none⟩
    let submits (report : Option Report) (user : UserId) : Operation :=
      .submitReport ⟨"lock"⟩ report booted user
    let w : World :=
      { center := { declarations := .loaded ⟨[{ id := ⟨"lock"⟩, profile := .allProfiles },
          { id := ⟨"wifi"⟩ }]⟩ none }
        groups := [.ofProfiles ⟨1⟩ [⟨2⟩]]
        behaviours := .ofList [
          ("refresh:lock/1", { steps := [.operation (submits (some report) ⟨1⟩)], manner := .hang }, 0),
          ("refresh:lock/2", { steps := [.operation (submits none ⟨2⟩)], manner := .fail }, 0)] }
    ∃ refreshed submitted,
      w.Performs (.requestRefresh .other ⟨2⟩) refreshed (.ok .refreshId) (some 1) ∧
      PlaysAll w [submits (some report) ⟨1⟩, submits none ⟨2⟩] submitted ∧
      refreshed.center.ledger = submitted.center.ledger ∧
      refreshed.center.subscriptions = submitted.center.subscriptions ∧
      refreshed.deliveries = submitted.deliveries ∧
      refreshed.requests = [.refresh ⟨"lock"⟩ ⟨1⟩ .other 1, .refresh ⟨"lock"⟩ ⟨2⟩ .other 1,
        .refresh ⟨"wifi"⟩ ⟨1⟩ .other 1] := by
  intro weak report booted submits w
  let answers : Answers := fun target =>
    if target.1 = ⟨"lock"⟩ then some (if target.2 = ⟨1⟩ then some report else none, booted) else none
  have listen : w.conduct.ObserversListen := World.observersListen_of_sources (by decide)
  exact refresh_eq_submissions (g := .ofProfiles ⟨1⟩ [⟨2⟩]) .other answers rfl rfl rfl listen rfl

end Scenario

end SafetyCenter
