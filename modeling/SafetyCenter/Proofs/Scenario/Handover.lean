import SafetyCenter.Proofs.Center.Actionable
import SafetyCenter.Proofs.Center.SinkDiscipline
import SafetyCenter.Proofs.Scenario.Reentry

set_option autoImplicit false

namespace SafetyCenter

open Ledger (Deed Since)

def Operation.isExecution : Operation → Bool
  | .executeAction .. => true
  | _ => false

theorem Ledger.Operation.eq_launch_of_deed? {op : Ledger.Operation} {reply : Ledger.Reply}
    {id : ActionId} (launched : op.deed? reply = some (.launched id)) :
    op = .launch id ∧ reply = .flag true := by
  unfold Ledger.Operation.deed? at launched
  split at launched
  · cases launched
  · cases launched
  · cases launched
  · cases launched
    exact ⟨rfl, rfl⟩
  · cases launched
  · cases launched

namespace Visit

variable {v : Visit}

/-- A critical section does at most one thing in the ledger. -/
theorem deeds_cases (v : Visit) : v.deeds = [] ∨ ∃ d, v.deeds = [d] := by
  rw [deeds]
  cases v.asked? with
  | none => exact Or.inl rfl
  | some op =>
    simp only [Option.toList_some, Ledger.log, List.append_nil]
    cases op.deed? (op.perform v.center.ledger).answer with
    | none => exact Or.inl rfl
    | some d => exact Or.inr ⟨d, rfl⟩

/-- An action is marked only by an execution that finds it. -/
theorem finds_of_launched {id : ActionId} (launched : .launched id ∈ v.deeds) :
    ∃ a, v.Finds id a ∧ a.resolves = true := by
  rw [deeds] at launched
  cases asked : v.asked? with
  | none => simp [asked, Ledger.log] at launched
  | some op =>
    simp only [asked, Option.toList_some, Ledger.log, List.append_nil, Option.mem_toList] at launched
    obtain ⟨rfl, taken⟩ := Ledger.Operation.eq_launch_of_deed? launched
    rcases Ledger.launch_cases v.center.ledger id with ⟨missing, -⟩ | ⟨-, -, a, found, resolves⟩
    · simp [Ledger.Operation.perform, missing] at taken
    · exact ⟨a, ⟨asked, found⟩, resolves⟩

theorem not_dropsAction {id : ActionId} (kept : ∀ d ∈ v.deeds, d.KeepsAction id) :
    ¬ v.DropsAction id := by
  rintro (cleared | ⟨report, done, gone⟩)
  · exact (kept .cleared cleared).1 rfl
  · exact gone ((kept _ done).2 report rfl)

theorem isExecution_of_finds {id : ActionId} {a : Action} (finds : v.Finds id a) :
    v.op.isExecution = true := by
  obtain ⟨issueText, actionText, user, same, -⟩ := Operation.onLedger?_eq_launch_iff.mp finds.1
  rw [same]
  rfl

end Visit

namespace Journal

/-- What is in force was done by some critical section, and none since undid it. -/
theorem exists_of_since {event kept : Deed → Prop} {visits : List Visit}
    (since : Since event kept (deeds visits)) :
    ∃ (before after : List Visit) (v : Visit), visits = before ++ v :: after ∧
      (∃ d ∈ v.deeds, event d) ∧
      ∀ w ∈ after, ∀ d ∈ w.deeds, kept d := by
  induction visits using List.reverseRecOn with
  | nil => exact absurd since (Ledger.not_since_nil event kept)
  | append_singleton visits v ih =>
    rw [deeds, List.flatMap_append, List.flatMap_singleton] at since
    rcases v.deeds_cases with none | ⟨d, own⟩
    · rw [none, List.append_nil] at since
      obtain ⟨before, after, w, rfl, did, undone⟩ := ih since
      refine ⟨before, after ++ [v], w, by simp, did, ?_⟩
      rw [List.forall_mem_append, List.forall_mem_singleton, none]
      exact ⟨undone, List.forall_mem_nil _⟩
    · rw [own, Ledger.since_concat] at since
      rcases since with happened | ⟨earlier, last⟩
      · exact ⟨visits, [], v, rfl, ⟨d, by simp [own], happened⟩, by simp⟩
      · obtain ⟨before, after, w, rfl, did, undone⟩ := ih earlier
        refine ⟨before, after ++ [v], w, by simp, did, ?_⟩
        rw [List.forall_mem_append, List.forall_mem_singleton, own, List.forall_mem_singleton]
        exact ⟨undone, last⟩

variable {j : Journal}

/-- Once no execution is under way, whatever is in flight was found and marked by an execution, and
not dropped since. That execution has handed it over, unless it was cut off before. -/
theorem in_flight_handed_over (reachable : j.Reachable)
    (ended : ∀ e ∈ j.entries, e.visit.op.isExecution = true → e.task.stages = []) {id : ActionId}
    (marked : id ∈ j.center.ledger.inFlight) :
    ∃ (before after : List Entry) (e : Entry) (a : Action), j.entries = before ++ e :: after ∧
      e.visit.Finds id a ∧ a.resolves = true ∧ (∀ later ∈ after, ¬ later.visit.DropsAction id) ∧
      (e.sent = [.dispatch a.target id.issue.user .action] ∨ e.sent = [] ∧ e.cancelled = true) := by
  have chronicled := reachable.chronicled
  rw [chronicled.present.inFlight] at marked
  obtain ⟨before, after, v, visits, ⟨d, done, rfl⟩, kept⟩ := exists_of_since marked
  obtain ⟨a, finds, resolves⟩ := Visit.finds_of_launched done
  -- the records stand in the order of the critical sections
  obtain ⟨front, others, entries, rfl, later⟩ := List.map_eq_append_iff.mp visits
  obtain ⟨e, back, rfl, rfl, rfl⟩ := List.map_eq_cons_iff.mp later
  have member : e ∈ j.entries := by simp [entries]
  have sends : e.Sends e.visit.due :=
    (reachable.entries Entry.accounted_begun (fun _ _ before => before.moves) e member).sends
  rw [Visit.due_of_finds finds] at sends
  refine ⟨front, back, e, a, entries, finds, resolves, fun other behind => ?_, ?_⟩
  · exact Visit.not_dropsAction (kept other.visit (List.mem_map_of_mem behind))
  · cases cut : e.cancelled with
    | false =>
      exact Or.inl (sends.whole ⟨ended e member (Visit.isExecution_of_finds finds), cut⟩)
    | true =>
      rcases List.prefix_cons_iff.mp sends.part with none | ⟨rest, same, nothing⟩
      · exact Or.inr ⟨none, rfl⟩
      · rw [List.prefix_nil.mp nothing] at same
        exact Or.inl same

/-- An operation that nobody watches hands a target to the dispatch sink, and returns. -/
theorem Reachable.exists_returned (reachable : j.Reachable) {groups : Resolver} {op : Operation}
    {s : Center} {answer : Except Error Reply} {view : View} {target : String} {user : UserId}
    (performed : op.perform groups j.center =
      { center := s, answer
        stages := [.deliver view none [], .dispatch target user .action] }) (ok : Bool) :
    ∃ e : Entry, e.visit = ⟨groups, op, j.center⟩ ∧ e.HasReturned ∧
      Reachable
        { center := s.answered (.dispatch target user .action) ok, entries := j.entries ++ [e] } := by
  let e : Entry := .begun ⟨groups, op, j.center⟩
  have passes : e.task.Passes
      ⟨op.actor?.bind groups, [.dispatch target user .action], false⟩ := by
    show Task.Passes ⟨_, (op.perform groups j.center).stages, false⟩ _
    rw [performed]
    exact .delivered _ _ _ _ _
  have entered : Reachable { center := s, entries := j.entries ++ [e] } := by
    have next := reachable.step (.enter j groups op)
    rwa [show j.enter groups op = { center := s, entries := j.entries ++ [e] } by
      rw [enter, Visit.outcome, performed]] at next
  have passed := entered.step (.pass _ j.entries [] e _ rfl passes)
  have made := passed.step
    (.call _ j.entries [] _ _ _ ok rfl (.dispatch _ target user .action [] false))
  exact ⟨_, rfl, ⟨rfl, rfl⟩, made⟩

/-- A resolving action is executed, and the dispatch sink fails. -/
theorem in_flight_handed_over_of_execution :
    let groups : Resolver := fun u => some (.single u)
    let fix : Action := { key := "fix", label := "Fix", resolves := true, target := "lock/fix" }
    let weak : Issue := { key := "weak", severity := .recommendation, actions := [fix] }
    let report : Report := { session := "first", issues := [weak] }
    let id : ActionId := ⟨⟨⟨"lock"⟩, ⟨1⟩, "weak", "", "first"⟩, "fix"⟩
    let execution : Operation := .executeAction id.issue.encode id.encode ⟨1⟩
    let started := enter { center := {} } groups (.start (.ok ⟨[{ id := ⟨"lock"⟩ }]⟩))
    let reported := started.enter groups
      (.submitReport ⟨"lock"⟩ (some report) ⟨.deviceRebooted, none⟩ ⟨1⟩)
    ∃ j : Journal, j.Reachable ∧
      j.visits.map (·.op) = reported.visits.map (·.op) ++ [execution] ∧
      (∀ e ∈ j.entries, e.visit.op.isExecution = true → e.task.stages = []) ∧
      id ∈ j.center.ledger.inFlight ∧
      ∃ (before after : List Entry) (e : Entry) (a : Action), j.entries = before ++ e :: after ∧
        e.visit.Finds id a ∧ a.resolves = true ∧ (∀ later ∈ after, ¬ later.visit.DropsAction id) ∧
        (e.sent = [.dispatch a.target id.issue.user .action] ∨
          e.sent = [] ∧ e.cancelled = true) := by
  intro groups fix weak report id execution started reported
  have fits : id.Fits := ⟨⟨by decide, by decide, by decide, by decide⟩, by decide⟩
  let launched := reported.center.withLedger (reported.center.ledger.launch id)
  have performed : execution.perform groups reported.center =
      { center := launched, answer := .ok .done
        stages := [.deliver (launched.viewOf (.single ⟨1⟩)) none [],
          .dispatch "lock/fix" ⟨1⟩ .action] } :=
    Operation.perform_resolving (g := .single ⟨1⟩) (a := fix) fits (by decide) (by decide) rfl
      (by decide) (by decide) rfl
  have reachable : reported.Reachable :=
    ((Reachable.built true).step (.enter _ groups (.start _))).step
      (.enter _ groups (.submitReport _ _ _ _))
  obtain ⟨e, visit, returned, failed⟩ := reachable.exists_returned performed false
  have ended : ∀ other ∈ reported.entries ++ [e], other.visit.op.isExecution = true →
      other.task.stages = [] := by
    rw [List.forall_mem_append, List.forall_mem_singleton]
    exact ⟨by decide, fun _ => returned.1⟩
  have marked : id ∈ launched.ledger.inFlight := by decide
  have ops : (reported.entries ++ [e]).map (·.visit.op) =
      reported.visits.map (·.op) ++ [execution] := by
    rw [List.map_append, List.map_singleton, visit]
    rfl
  refine ⟨_, failed, ?_, ended, marked, in_flight_handed_over failed ended marked⟩
  rw [visits, List.map_map]
  exact ops

end Journal

namespace Scenario

/-- Where the call that a source is in is given up while an observer keeps an operation waiting. What
the critical section of the operation did stays, and what it had to do behind its view is dropped. -/
structure CutOff (w : World) (op : Operation) (shows c : Call) (deadline : Nat) (below : List Frame)
    (w' : World) (t : Thread) : Prop where
  failed : t = .ready (.outcome false) (.limit c deadline :: below)
  late : w'.now = deadline
  center : w'.center = (op.perform w.groups.find? w.center).center
  /-- the view is the last that anybody heard of the operation -/
  calls : w'.calls = w.calls ++ [shows]
  turn : w'.turn = w.turn

section CutOff

variable {w : World} {op : Operation} {o : Observer} {view : View} {error : Option String}
  {answer : Except Error Reply} {rest : List Stage} {s : Center}

/-- Whoever never answers is waited for until its call is up. -/
theorem stuck_hanging (c : Call) {deadline : Nat} (early : w.now < deadline) :
    Stuck w (.asleep none [.limit c deadline, .calls [] {}]) :=
  (Thread.Attends.waits c (by simp) early (Nat.le_refl deadline)).stuck

/-- A call that is never answered is made and waited for. -/
theorem allRest_hangs {c : Call} (quiet : w.conduct.steps c = [])
    (hangs : w.conduct.manner c = .hang) (patient : 0 < c.limit w.settings) :
    AllRest w [Thread.ofCall c] (w.startCall c).1
      [.asleep none [.limit c (w.now + c.limit w.settings), .calls [] {}]] := by
  obtain ⟨steps, manner, -⟩ := w.startCall_conduct c
  have same : (w.startCall c).1.now = w.now ∧ (w.startCall c).1.settings = w.settings := by
    rw [World.startCall_fst]
    exact ⟨rfl, rfl⟩
  have started := goes_advance w .go (.calls [c] {}) []
  simp only [Thread.advance, Thread.ofStartedCall, steps, manner, quiet, hangs, same] at started
  have early : (w.startCall c).1.now < w.now + c.limit w.settings := by
    rw [same.1]
    exact Nat.lt_add_of_pos_right patient
  exact .cons ((started.trans (goes_advance _ _ _ _)).rests (stuck_hanging c early).rests) (.nil _)

/-- An operation that a source asks for in its call shows its view to an observer that never answers.
If the source's time is up before the observer's, nothing more comes of the operation. -/
theorem leads_cutOff (performed : op.perform w.groups.find? w.center =
      { center := s, answer, stages := .deliver view error [o] :: rest })
    (quiet : w.conduct.steps (.deliver o view error) = [])
    (hangs : w.conduct.manner (.deliver o view error) = .hang) (calm : w.turn.handed = false)
    {deadline : Nat} (ahead : w.now < deadline)
    (sooner : deadline < w.now + w.settings.observerTimeout) (steps : List Step) (manner : Manner)
    (c : Call) {below : List Frame} (last : ∀ d ∈ Thread.deadlines below, deadline ≤ d) :
    Leads (CutOff w op (.deliver o view error) c deadline below) w
      (.ready .go (.script (.operation op :: steps) manner :: .limit c deadline :: below)) := by
  let shows : Call := .deliver o view error
  let performing : World := { w with center := s }
  let above : List Frame := [.tail answer none rest, .nested (.operation op), .script steps manner]
  let hanging : Thread :=
    .asleep none [.limit shows (w.now + w.settings.observerTimeout), .calls [] {}]
  let shown : World := (performing.startCall shows).1
  have asked : Goes w
      (.ready .go (.script (.operation op :: steps) manner :: .limit c deadline :: below)) performing
      (.joined [Thread.ofCall shows] (above ++ .limit c deadline :: below)) := by
    have performs := goes_advance w .go (.script (.operation op :: steps) manner)
      (.limit c deadline :: below)
    simp only [Thread.advance, Thread.ofStep, Thread.ofOperation, performed] at performs
    exact performs.trans (goes_advance _ _ _ _)
  have delivers : AllRest performing [Thread.ofCall shows] shown [hanging] :=
    allRest_hangs (by exact quiet) (by exact hangs)
      (Nat.pos_of_lt_add_right (Nat.lt_trans ahead sooner))
  have frame : shown = { performing with
      behaviours := shown.behaviours, events := .call shows :: w.events } :=
    performing.startCall_fst shows
  have now : shown.now = w.now := by rw [frame]
  have deadlines : Thread.deadlines (above ++ .limit c deadline :: below) =
      deadline :: Thread.deadlines below := rfl
  have early : ∀ d ∈ Thread.deadlines (above ++ .limit c deadline :: below), shown.now < d := by
    rw [deadlines, List.forall_mem_cons, now]
    exact ⟨ahead, fun d member => Nat.lt_of_lt_of_le ahead (last d member)⟩
  have next : (Thread.moments (.joined [hanging] (above ++ .limit c deadline :: below))).min? =
      some deadline := by
    rw [Thread.moments, deadlines, List.min?_eq_some_iff]
    refine ⟨by simp, ?_⟩
    rw [List.forall_mem_append, List.forall_mem_cons]
    exact ⟨List.forall_mem_singleton.mpr (Nat.le_of_lt sooner), Nat.le_refl _, last⟩
  -- nobody can go on, so the clock goes on to the first moment at which a call is up
  let late : World := { shown with now := max shown.now deadline }
  have up : late.now = deadline := by
    rw [show late.now = max shown.now deadline from rfl, now, Nat.max_eq_right (Nat.le_of_lt ahead)]
  have stuck : ∀ t ∈ [hanging], Stuck shown t := by
    rw [List.forall_mem_singleton]
    refine stuck_hanging shows ?_
    rw [now]
    exact Nat.lt_trans ahead sooner
  have stays : AllRest late [hanging] late [hanging] :=
    .cons (stuck_hanging shows (up ▸ sooner)).rests (.nil _)
  have expired : Thread.expire? late (.joined [hanging] (above ++ .limit c deadline :: below)) =
      some (late, .ready (.outcome false) (.limit c deadline :: below)) := by
    rw [Thread.expire?, Thread.frames, splitExpired_append c (Nat.le_of_eq up.symm) rfl below]
    rfl
  refine .goes (asked.trans (goes_joined_stuck delivers stuck rfl early)) ?_
  refine .later (stuck_joined stuck rfl early) (by rw [frame]; exact calm) next ?_
  refine .goes (goes_joined_expired stays rfl expired) (.here ⟨rfl, up, ?_, ?_, ?_⟩)
  · rw [performed, show late.center = shown.center from rfl, frame]
  · exact performing.calls_startCall shows
  · rw [show late.turn = shown.turn from rfl, frame]

/-- The world in which a round that asks a single source has started the call. -/
def World.asking (w : World) (c : Call) : World :=
  (World.startCall { w with
    turn := { w.turn with holder := some w.turn.next, next := w.turn.next + 1 }
    refreshes := w.refreshes + 1 } c).1

/-- A round that asks a single source begins with the call. -/
theorem goes_asking (idle : w.turn.holder = none) {reason : RefreshReason} {source : SourceId}
    {user : UserId} {c : Call} (call : c = .refresh source user reason (w.refreshes + 1))
    (answer : Except Error Reply) :
    Goes w (.ready .go [.tail answer none [.round (.refresh reason [(source, user)])]]) (w.asking c)
      (.ready .go (.script (w.conduct.steps c) (w.conduct.manner c) ::
        .limit c (w.now + w.settings.sourceTimeout) ::
        [.calls [] {}, .release, .tail answer (some (w.refreshes + 1)) []])) := by
  subst call
  let c : Call := .refresh source user reason (w.refreshes + 1)
  let round : World := { w with
    turn := { w.turn with holder := some w.turn.next, next := w.turn.next + 1 }
    refreshes := w.refreshes + 1 }
  obtain ⟨steps, manner, -⟩ := round.startCall_conduct c
  have limit : (round.startCall c).1.now + c.limit (round.startCall c).1.settings =
      w.now + w.settings.sourceTimeout := by
    rw [World.startCall_fst]
    rfl
  have started := goes_advance round .go (.calls [c] {})
    [.release, .tail answer (some (w.refreshes + 1)) []]
  simp only [Thread.advance, Thread.ofStartedCall, steps, manner, limit] at started
  exact (goes_round idle reason [(source, user)] answer []).trans started

/-- What is not behaviour is the same while the source is being asked. -/
theorem World.asking_frame (w : World) (c : Call) :
    (w.asking c).center = w.center ∧ (w.asking c).groups = w.groups ∧
      (w.asking c).settings = w.settings ∧ (w.asking c).now = w.now ∧
      (w.asking c).turn.handed = w.turn.handed ∧ (w.asking c).calls = w.calls ++ [c] ∧
      (w.asking c).conduct = w.conduct.after c := by
  refine ⟨?_, ?_, ?_, ?_, ?_, World.calls_startCall _ c, (World.startCall_conduct _ c).2.2⟩
  · rw [asking, startCall_fst]
  · rw [asking, startCall_fst]
  · rw [asking, startCall_fst]
  · rw [asking, startCall_fst]
  · rw [asking, startCall_fst]

/-- The refresh answers although the call of its round is given up. -/
theorem goes_givenUp (w : World) (c : Call) (deadline : Nat) (answer : Except Error Reply)
    (refreshId : Option Nat) :
    Goes w (.ready (.outcome false)
        (.limit c deadline :: [.calls [] {}, .release, .tail answer refreshId []]))
      { w.count c.failure with turn := w.turn.release }
      (.ready (.result (.answer answer refreshId)) []) :=
  (goes_advance _ _ _ _).trans ((goes_advance _ _ _ _).trans ((goes_advance _ _ _ _).trans
    (goes_released _ _ _ _ [])))

/-- A refresh ends although the source that it asks is kept waiting by an observer, but the operation
that the source asked for does not. -/
theorem performs_of_cutOff (reason : RefreshReason) (source : SourceId) {user : UserId}
    {g : ProfileGroup} (idle : w.turn.holder = none) (active : w.center.isActive = true)
    (found : w.groups.find? user = some g)
    (targets : Center.refreshTargets w.center.catalogue g = [(source, user)])
    (asks : w.conduct.steps (.refresh source user reason (w.refreshes + 1)) = [.operation op])
    (performed : op.perform w.groups.find? w.center =
      { center := s, answer, stages := .deliver view error [o] :: rest })
    (quiet : w.conduct.steps (.deliver o view error) = [])
    (hangs : w.conduct.manner (.deliver o view error) = .hang)
    (patient : 0 < w.settings.sourceTimeout)
    (sooner : w.settings.sourceTimeout < w.settings.observerTimeout) :
    ∃ w' : World,
      w.Performs (.requestRefresh reason user) w' (.ok .refreshId) (some (w.refreshes + 1)) ∧
      w'.center.ledger = s.ledger ∧ w'.now = w.now + w.settings.sourceTimeout ∧
      w'.calls = w.calls ++
        [.refresh source user reason (w.refreshes + 1), .deliver o view error] := by
  let c : Call := .refresh source user reason (w.refreshes + 1)
  let shows : Call := .deliver o view error
  let deadline : Nat := w.now + w.settings.sourceTimeout
  let calm : World := { w with turn := { w.turn with handed := false } }
  obtain ⟨center, groups, settings, now, handed, calls, conduct⟩ := calm.asking_frame c
  have begun := goes_asking (w := calm) (c := c) idle rfl (.ok .refreshId)
  rw [show calm.conduct.steps c = _ from asks] at begun
  have performs : op.perform (calm.asking c).groups.find? (calm.asking c).center =
      { center := s, answer, stages := .deliver view error [o] :: rest } := by
    rw [groups, center]
    exact performed
  have silent : (calm.asking c).conduct.steps shows = [] := by
    rw [conduct]
    exact calm.wearing_conduct.steps_after quiet c
  have never : (calm.asking c).conduct.manner shows = .hang := by
    rw [conduct, Conduct.manner_after]
    exact hangs
  have ahead : (calm.asking c).now < deadline := by
    rw [now]
    exact Nat.lt_add_of_pos_right patient
  have first : deadline < (calm.asking c).now + (calm.asking c).settings.observerTimeout := by
    rw [now, settings]
    exact Nat.add_lt_add_left sooner w.now
  let Ends (w' : World) (t : Thread) : Prop :=
    t = .ready (.result (.answer (.ok .refreshId) (some (w.refreshes + 1)))) [] ∧
      w'.center.ledger = s.ledger ∧ w'.now = deadline ∧ w'.calls = w.calls ++ [c, shows]
  have leads : Leads Ends calm (.ready .go [.tail (.ok .refreshId) none
      [.round (.refresh reason [(source, user)])]]) := by
    refine .goes begun ((leads_cutOff performs silent never handed ahead first [] _ c
      (List.forall_mem_nil _)).trans fun w' t off => ?_)
    rw [off.failed]
    refine .goes (goes_givenUp w' c deadline _ _) (.here ⟨rfl, ?_, off.late, ?_⟩)
    · rw [World.count, off.center, performs]
    · show w'.calls = _
      rw [off.calls, calls, List.append_assoc]
      rfl
  obtain ⟨w', signal, ⟨same, seen⟩, plays⟩ :=
    Leads.plays (P := Ends) (w := w) (fun w' t ends => ⟨_, ends.1⟩) leads
  cases same
  refine ⟨w', ?_, seen⟩
  rw [World.Performs, ofStep_requestRefresh reason active found, targets]
  exact plays

end CutOff

/-- A source that is asked to report runs an action, and an observer never takes the view that shows
the action in flight. When the source's time is up, the execution is cut off with the source's call.
The action stays in flight, and has not been handed to the dispatch sink. -/
theorem marked_but_cut_off :
    let fix : Action := { key := "fix", label := "Fix", resolves := true, target := "lock/fix" }
    let weak : Issue := { key := "weak", severity := .recommendation, actions := [fix] }
    let report : Report := { session := "first", issues := [weak] }
    let id : ActionId := ⟨⟨⟨"lock"⟩, ⟨1⟩, "weak", "", "first"⟩, "fix"⟩
    let page : Observer := ⟨"page"⟩
    let execution : Operation := .executeAction id.issue.encode id.encode ⟨1⟩
    let groups : ProfileGroup.Directory := [.single ⟨1⟩]
    let center := ([.start (.ok ⟨[{ id := ⟨"lock"⟩ }]⟩),
      .submitReport ⟨"lock"⟩ (some report) ⟨.deviceRebooted, none⟩ ⟨1⟩,
      .subscribe page ⟨1⟩] : List Operation).foldl
        (fun s op => (op.perform groups.find? s).center) {}
    let w : World :=
      { center, groups, settings := { sourceTimeout := 500 }
        behaviours := .ofList [("refresh:lock", { steps := [.operation execution] }, 0),
          ("observer:page", { manner := .hang }, 0)] }
    let view := (center.withLedger (center.ledger.launch id)).viewOf (.single ⟨1⟩)
    ∃ w', w.Performs (.requestRefresh .other ⟨1⟩) w' (.ok .refreshId) (some 1) ∧
      id ∈ w'.center.ledger.inFlight ∧
      w'.calls = [.refresh ⟨"lock"⟩ ⟨1⟩ .other 1, .deliver page view none] ∧
      w'.now = 500 := by
  intro fix weak report id page execution groups center w view
  have fits : id.Fits := ⟨⟨by decide, by decide, by decide, by decide⟩, by decide⟩
  have performed : execution.perform w.groups.find? w.center =
      { center := center.withLedger (center.ledger.launch id), answer := .ok .done
        stages := [.deliver view none [page], .dispatch "lock/fix" ⟨1⟩ .action] } :=
    Operation.perform_resolving (g := .single ⟨1⟩) (a := fix) fits (by decide) (by decide) rfl
      (by decide) (by decide) rfl
  have marked : id ∈ (center.withLedger (center.ledger.launch id)).ledger.inFlight := by decide
  obtain ⟨w', performs, ledger, now, calls⟩ := performs_of_cutOff (w := w) .other ⟨"lock"⟩
    (g := .single ⟨1⟩) rfl (by decide) rfl rfl rfl performed rfl rfl (by decide) (by decide)
  exact ⟨w', performs, ledger ▸ marked, calls, now⟩

end Scenario

end SafetyCenter
