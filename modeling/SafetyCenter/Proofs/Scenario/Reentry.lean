import SafetyCenter.Proofs.Center.Rounds
import SafetyCenter.Proofs.Scenario.Refresh

/-!
Operations of a source that is being called. What opens no round is done at once, as outside of any
round, if the observers and the dispatch sink answer at once. What opens a round waits for the right
to broadcast, which the round that calls the source keeps, so it waits until the source's own call is
given up.
-/

set_option autoImplicit false

namespace SafetyCenter

def Stage.outward : Stage → List Call
  | .deliver view error observers => observers.map fun o => .deliver o view error
  | .dispatch target user kind => [.dispatch target user kind]
  | .round _ => []

namespace Scenario

namespace World

/-- A world after a call that was answered at once, by somebody who took no steps. -/
def answerCall (w : World) (c : Call) : World :=
  if w.conduct.manner c = .succeed then (w.startCall c).1
  else (w.startCall c).1.count c.failure

def answerCalls (w : World) (cs : List Call) : World :=
  cs.foldl answerCall w

variable {w : World} {c : Call} {cs : List Call}

/-- Only the center's metrics, the behaviours and the events are touched by a call. -/
theorem answerCall_eq (w : World) (c : Call) :
    w.answerCall c =
      { w with
        center := (w.answerCall c).center
        behaviours := (w.startCall c).1.behaviours
        events := .call c :: w.events } := by
  unfold answerCall
  split
  · rw [startCall_fst]
  · rw [startCall_fst]
    rfl

theorem conduct_answerCall (w : World) (c : Call) :
    (w.answerCall c).conduct = w.conduct.after c := by
  rw [← (w.startCall_conduct c).2.2]
  unfold answerCall
  split
  · rfl
  · rfl

theorem answersAtOnce_answerCall (atOnce : w.conduct.AnswersAtOnce) (c : Call) :
    (w.answerCall c).conduct.AnswersAtOnce := by
  rw [conduct_answerCall]
  exact w.wearing_conduct.answersAtOnce_after atOnce c

theorem answersAtOnce_answerCalls (atOnce : w.conduct.AnswersAtOnce) (cs : List Call) :
    (w.answerCalls cs).conduct.AnswersAtOnce := by
  induction cs generalizing w with
  | nil => exact atOnce
  | cons c cs ih => exact ih (answersAtOnce_answerCall atOnce c)

/-- Such calls take no time, and nobody asks for the right to broadcast. -/
theorem answerCalls_frame (w : World) (cs : List Call) :
    (w.answerCalls cs).now = w.now ∧ (w.answerCalls cs).turn = w.turn := by
  induction cs generalizing w with
  | nil => exact ⟨rfl, rfl⟩
  | cons c cs ih =>
    obtain ⟨now, turn⟩ := ih (w.answerCall c)
    rw [answerCall_eq] at now turn
    rw [answerCalls, List.foldl_cons, ← answerCalls, answerCall_eq]
    exact ⟨now, turn⟩

/-- Calls go the same way whoever may broadcast. -/
theorem answerCall_withTurn (w : World) (turn : Turn) (c : Call) :
    ({ w with turn } : World).answerCall c = { w.answerCall c with turn } := by
  have started : ({ w with turn } : World).startCall c =
      ({ (w.startCall c).1 with turn }, (w.startCall c).2) := by
    unfold startCall see
    dsimp only
    split <;> rfl
  have conduct : ({ w with turn } : World).conduct = w.conduct := rfl
  unfold answerCall
  rw [started, conduct]
  by_cases succeeds : w.conduct.manner c = .succeed
  · simp only [succeeds, if_true]
  · simp only [succeeds, if_false]
    rfl

theorem answerCalls_withTurn (w : World) (turn : Turn) (cs : List Call) :
    ({ w with turn } : World).answerCalls cs = { w.answerCalls cs with turn } := by
  induction cs generalizing w with
  | nil => rfl
  | cons c cs ih =>
    unfold answerCalls at ih ⊢
    rw [List.foldl_cons, answerCall_withTurn, ih, List.foldl_cons]

end World

section AtOnce

variable {w : World}

/-- A call that is answered at once takes no time. -/
theorem goes_call (atOnce : w.conduct.AnswersAtOnce) {c : Call} (outward : c.isToSource = false)
    (cs : List Call) (tally : Tally) (frames : List Frame) :
    ∃ ok, Goes w (.ready .go (.calls (c :: cs) tally :: frames)) (w.answerCall c)
      (.ready .go (.calls cs (tally.count ok) :: frames)) := by
  obtain ⟨quiet, quick⟩ := atOnce c outward
  obtain ⟨steps, manner, -⟩ := w.startCall_conduct c
  have started := goes_advance w .go (.calls (c :: cs) tally) frames
  simp only [Thread.advance, Thread.ofStartedCall, steps, quiet, manner] at started
  have ended := started.trans (goes_advance _ _ _ _)
  rcases quick with succeeds | fails
  · rw [World.answerCall, if_pos succeeds]
    simp only [Thread.advance, Thread.ofManner, succeeds] at ended
    exact ⟨true, ended.trans ((goes_advance _ _ _ _).trans (goes_advance _ _ _ _))⟩
  · have other : w.conduct.manner c ≠ .succeed := by
      rw [fails]
      decide
    rw [World.answerCall, if_neg other]
    simp only [Thread.advance, Thread.ofManner, fails] at ended
    exact ⟨false, ended.trans ((goes_advance _ _ _ _).trans (goes_advance _ _ _ _))⟩

/-- So do calls that are made side by side. -/
theorem allRest_answered (atOnce : w.conduct.AnswersAtOnce) {cs : List Call}
    (outward : ∀ c ∈ cs, c.isToSource = false) :
    ∃ children tally, AllRest w (cs.map Thread.ofCall) (w.answerCalls cs) children ∧
      Thread.tally? children = some tally := by
  induction cs generalizing w with
  | nil => exact ⟨[], {}, .nil w, rfl⟩
  | cons c cs ih =>
    obtain ⟨ok, goes⟩ := goes_call atOnce (outward c List.mem_cons_self) [] {} []
    obtain ⟨children, tally, rest, finished⟩ := ih (World.answersAtOnce_answerCall atOnce c)
      fun c' member => outward c' (List.mem_cons_of_mem c member)
    refine ⟨.ready (.tally (({} : Tally).count ok)) [] :: children, (({} : Tally).count ok).add tally,
      .cons ((goes.trans (goes_advance _ _ _ _)).rests (stuck_done _ _).rests) rest, ?_⟩
    rw [Thread.tally?, finished, Option.map_some]

/-- So does a tail without a round. -/
theorem goes_tail (atOnce : w.conduct.AnswersAtOnce) {stages : List Stage}
    (prompt : ∀ stage ∈ stages, stage.isRound = false) (answer : Except Error Reply)
    (refreshId : Option Nat) (frames : List Frame) :
    Goes w (.ready .go (.tail answer refreshId stages :: frames))
      (w.answerCalls (stages.flatMap Stage.outward))
      (.ready (.result (.answer answer refreshId)) frames) := by
  induction stages generalizing w with
  | nil => exact goes_advance _ _ _ _
  | cons stage stages ih =>
    have others := fun later member => prompt later (List.mem_cons_of_mem stage member)
    have rest := ih (World.answersAtOnce_answerCalls atOnce stage.outward) others
    have all : (w.answerCalls stage.outward).answerCalls (stages.flatMap Stage.outward) =
        w.answerCalls ((stage :: stages).flatMap Stage.outward) := by
      rw [World.answerCalls, World.answerCalls, World.answerCalls, List.flatMap_cons,
        List.foldl_append]
    rw [all] at rest
    refine Goes.trans ?_ rest
    cases stage with
    | deliver view error observers =>
      have outward : ∀ c ∈ (Stage.deliver view error observers).outward, c.isToSource = false := by
        intro c member
        obtain ⟨o, -, rfl⟩ := List.mem_map.mp member
        rfl
      obtain ⟨children, tally, rest, finished⟩ := allRest_answered atOnce outward
      rw [Stage.outward, List.map_map] at rest
      exact (goes_advance _ _ _ _).trans ((goes_joined rest finished).trans (goes_advance _ _ _ _))
    | dispatch target user kind =>
      obtain ⟨ok, goes⟩ := goes_call atOnce (c := .dispatch target user kind) rfl [] {}
        (.tail answer refreshId stages :: frames)
      exact (goes_advance _ _ _ _).trans
        (goes.trans ((goes_advance _ _ _ _).trans (goes_advance _ _ _ _)))
    | round round => cases prompt (.round round) List.mem_cons_self

end AtOnce

/-- Where the call that a source is in is given up, with nothing done since but what an operation
did at once. -/
structure GivenUp (w : World) (op : Operation) (c : Call) (deadline : Nat) (below : List Frame)
    (w' : World) (t : Thread) : Prop where
  failed : t = .ready (.outcome false) (.limit c deadline :: below)
  late : w'.now = max w.now deadline
  center : w'.center = (op.perform w.groups.find? w.center).center
  /-- no call was made, and the operation has no result -/
  events : w'.events = w.events
  refreshes : w'.refreshes = w.refreshes
  holder : w'.turn.holder = w.turn.holder

section Withheld

variable {P : World → Thread → Prop} {w : World} {ticket holder deadline : Nat} {c : Call}
  {above below : List Frame}

/-- The call is up for which somebody waits for the right to broadcast. -/
theorem goes_queued_up (held : w.turn.holder = some holder) (other : holder ≠ ticket)
    (free : Thread.deadlines above = []) (keeps : ∀ turn, Thread.dropFrames turn above = turn)
    (up : deadline ≤ w.now) :
    Goes w (.queued ticket (above ++ .limit c deadline :: below))
      { w with turn := { w.turn with queue := w.turn.queue.filter (· ≠ ticket) } }
      (.ready (.outcome false) (.limit c deadline :: below)) := by
  have stranger : w.turn.holder ≠ some ticket :=
    fun same => other (Option.some.inj (held.symm.trans same))
  refine goes_queued_expired stranger ?_
  rw [Thread.expire?, Thread.frames, splitExpired_append c up free below]
  simp only [Option.map_some, Thread.withFrames, Thread.drop, keeps, Turn.withdraw, stranger,
    if_neg, not_false_eq_true]

/-- Whoever waits for the right to broadcast while somebody else keeps it is given up in the end. -/
theorem leads_queued (held : w.turn.holder = some holder) (other : holder ≠ ticket)
    (free : Thread.deadlines above = []) (keeps : ∀ turn, Thread.dropFrames turn above = turn)
    (last : ∀ d ∈ Thread.deadlines below, deadline ≤ d)
    (givenUp : ∀ turn : Turn, turn.holder = some holder →
      P { w with now := max w.now deadline, turn } (.ready (.outcome false)
        (.limit c deadline :: below))) :
    Leads P w (.queued ticket (above ++ .limit c deadline :: below)) := by
  have deadlines : Thread.deadlines (above ++ .limit c deadline :: below) =
      deadline :: Thread.deadlines below := by
    rw [Thread.deadlines, List.filterMap_append, ← Thread.deadlines, free]
    rfl
  by_cases up : deadline ≤ w.now
  · rw [Nat.max_eq_left up] at givenUp
    exact .goes (goes_queued_up held other free keeps up) (.here (givenUp _ held))
  · -- The clock goes on to the deadline, at once or after a turn in which nobody can go on.
    have early : ∀ d ∈ Thread.deadlines (above ++ .limit c deadline :: below), w.now < d := by
      rw [deadlines, List.forall_mem_cons]
      exact ⟨Nat.lt_of_not_le up, fun d member => Nat.lt_of_lt_of_le (Nat.lt_of_not_le up)
        (last d member)⟩
    have next : (Thread.moments (.queued ticket (above ++ .limit c deadline :: below))).min? =
        some deadline := by
      rw [Thread.moments, deadlines, List.min?_eq_some_iff, List.forall_mem_cons]
      exact ⟨List.mem_cons_self, Nat.le_refl _, last⟩
    have stranger : ∀ {turn : Turn}, turn.holder = some holder → turn.holder ≠ some ticket :=
      fun held same => other (Option.some.inj (held.symm.trans same))
    have calmly : ∀ turn : Turn, turn.holder = some holder → turn.handed = false →
        Leads P { w with turn } (.queued ticket (above ++ .limit c deadline :: below)) := by
      intro turn held calm
      exact .later (stuck_queued (stranger held) early) calm next
        (.goes (goes_queued_up held other free keeps (Nat.le_max_right ..)) (.here (givenUp _ held)))
    cases handed : w.turn.handed with
    | false => exact calmly w.turn held handed
    | true =>
      exact .again (stuck_queued (stranger held) early) (fun s same => by cases same) handed
        (calmly _ held rfl)

end Withheld

/-- An operation that opens no round is done at once: no time passes, the call that the source is in
goes on with the same deadline, and the answer, the center and the calls that are made are those of
the same operation outside of any round. -/
theorem goes_operation {w : World} (atOnce : w.conduct.AnswersAtOnce) {op : Operation}
    (alone : op.opensRound w.groups.find? w.center = false) (steps : List Step) (manner : Manner)
    (frames : List Frame) :
    ∃ w' answer,
      World.Performs { w with turn := {} } op w' answer none ∧
      w'.now = w.now ∧
      Goes w (.ready .go (.script (.operation op :: steps) manner :: frames))
        (({ w' with turn := w.turn } : World).see (.nested (.operation op) (.answer answer none)))
        (.ready .go (.script steps manner :: frames)) := by
  have prompt := op.prompt_of_opensRound_eq_false w.center alone
  let outcome := op.perform w.groups.find? w.center
  let calls := outcome.stages.flatMap Stage.outward
  let performed : World := { w with center := outcome.center }
  have outside : Goes { performed with turn := {} } (.ready .go [.tail outcome.answer none
      outcome.stages]) { performed.answerCalls calls with turn := {} }
      (.ready (.result (.answer outcome.answer none)) []) := by
    rw [← World.answerCalls_withTurn]
    exact goes_tail (by exact atOnce) prompt outcome.answer none []
  have within : Goes w (.ready .go (.script (.operation op :: steps) manner :: frames))
      ((performed.answerCalls calls).see (.nested (.operation op) (.answer outcome.answer none)))
      (.ready .go (.script steps manner :: frames)) :=
    (goes_advance _ _ _ _).trans ((goes_tail (w := performed) (by exact atOnce) prompt
      outcome.answer none _).trans (goes_advance _ _ _ _))
  let Ends (w' : World) (t : Thread) : Prop :=
    t = .ready (.result (.answer outcome.answer none)) [] ∧
      w' = { performed.answerCalls calls with turn := {} }
  have leads : Leads Ends { performed with turn := {} } (.ready .go [.tail outcome.answer none
      outcome.stages]) := .goes outside (.here ⟨rfl, rfl⟩)
  obtain ⟨w', signal, ⟨same, rfl⟩, plays⟩ := Leads.plays (P := Ends)
    (w := { performed with turn := {} }) (fun w' t ends => ⟨_, ends.1⟩) leads
  cases same
  obtain ⟨now, turn⟩ := performed.answerCalls_frame calls
  refine ⟨_, outcome.answer, plays, now, ?_⟩
  rw [show w.turn = (performed.answerCalls calls).turn from turn.symm]
  exact within

/-- An operation that opens a round has no result while the source's own round is under way: it waits
until the call that the source is in is given up. -/
theorem leads_operation {w : World} {op : Operation}
    (opens : op.opensRound w.groups.find? w.center = true) {holder : Nat}
    (held : w.turn.holder = some holder) (before : holder < w.turn.next) (steps : List Step)
    (manner : Manner) (c : Call) {deadline : Nat} {below : List Frame}
    (last : ∀ d ∈ Thread.deadlines below, deadline ≤ d) :
    Leads (GivenUp w op c deadline below) w
      (.ready .go (.script (.operation op :: steps) manner :: .limit c deadline :: below)) := by
  obtain ⟨round, stages⟩ := op.stages_of_opensRound w.center opens
  let outcome := op.perform w.groups.find? w.center
  let asked : Turn := { w.turn with
    holder := some holder, queue := w.turn.queue ++ [w.turn.next], next := w.turn.next + 1 }
  have request : w.turn.request = (asked, w.turn.next, false) := by
    rw [Turn.request, held]
  have waits : Goes w
      (.ready .go (.script (.operation op :: steps) manner :: .limit c deadline :: below))
      { w with center := outcome.center, turn := asked }
      (.queued w.turn.next ([.tail outcome.answer none [.round round], .nested (.operation op),
        .script steps manner] ++ .limit c deadline :: below)) := by
    have performed := goes_advance w .go (.script (.operation op :: steps) manner)
      (.limit c deadline :: below)
    simp only [Thread.advance, Thread.ofStep, Thread.ofOperation, stages] at performed
    have asks := goes_advance { w with center := outcome.center } .go
      (.tail outcome.answer none [.round round])
      (.nested (.operation op) :: .script steps manner :: .limit c deadline :: below)
    simp only [Thread.advance, Thread.ofStage, request] at asks
    exact performed.trans asks
  refine .goes waits (leads_queued (by rfl) (Nat.ne_of_lt before) rfl (fun turn => rfl) last ?_)
  intro turn keeps
  exact ⟨rfl, rfl, rfl, rfl, rfl, keeps.trans held.symm⟩

/-- What becomes of an operation that a source asks for while it is being called in a round, if the
observers and the dispatch sink answer at once. Whatever opens no round is done before the source's
call ends and without holding it up, as outside of any round. What opens one never has a result: the
right to broadcast stays with the round that calls the source, until the source's call is given up. -/
theorem reentry {w : World} (atOnce : w.conduct.AnswersAtOnce) {holder : Nat}
    (held : w.turn.holder = some holder) (before : holder < w.turn.next) (op : Operation)
    (steps : List Step) (manner : Manner) (c : Call) {deadline : Nat} {below : List Frame}
    (last : ∀ d ∈ Thread.deadlines below, deadline ≤ d) :
    (op.opensRound w.groups.find? w.center = false →
      ∃ w' answer,
        World.Performs { w with turn := {} } op w' answer none ∧
        w'.now = w.now ∧
        Goes w (.ready .go (.script (.operation op :: steps) manner :: .limit c deadline :: below))
          (({ w' with turn := w.turn } : World).see (.nested (.operation op) (.answer answer none)))
          (.ready .go (.script steps manner :: .limit c deadline :: below))) ∧
    (op.opensRound w.groups.find? w.center = true →
      Leads (GivenUp w op c deadline below) w
        (.ready .go (.script (.operation op :: steps) manner :: .limit c deadline :: below))) :=
  ⟨fun alone => goes_operation atOnce alone steps manner _,
    fun opens => leads_operation opens held before steps manner c last⟩

/-- A source that is asked to report looks at the view, and then asks for a refresh. -/
theorem reentry_of_view_and_refresh :
    let view : Operation := .showView ⟨1⟩
    let refresh : Operation := .requestRefresh .pageOpen ⟨1⟩
    let c : Call := .refresh ⟨"lock"⟩ ⟨1⟩ .other 1
    let below : List Frame := [.calls [] {}, .release, .tail (.ok .refreshId) (some 1) []]
    let w : World :=
      { center := { declarations := .loaded ⟨[{ id := ⟨"lock"⟩ }]⟩ none }
        groups := [.single ⟨1⟩]
        turn := { holder := some 0, next := 1 }
        refreshes := 1 }
    (∃ w' answer,
      World.Performs { w with turn := {} } view w' answer none ∧
      w'.now = w.now ∧
      Goes w (.ready .go (.script [.operation view, .operation refresh] .succeed ::
          .limit c 5000 :: below))
        (({ w' with turn := w.turn } : World).see (.nested (.operation view) (.answer answer none)))
        (.ready .go (.script [.operation refresh] .succeed :: .limit c 5000 :: below))) ∧
      Leads (GivenUp w refresh c 5000 below) w
        (.ready .go (.script [.operation refresh] .succeed :: .limit c 5000 :: below)) := by
  intro view refresh c below w
  have atOnce : w.conduct.AnswersAtOnce := World.answersAtOnce_of_sources (by decide)
  have last : ∀ d ∈ Thread.deadlines below, 5000 ≤ d := by decide
  exact ⟨(reentry atOnce rfl (by decide) view [.operation refresh] .succeed c last).1 rfl,
    (reentry atOnce rfl (by decide) refresh [] .succeed c last).2 rfl⟩

/-- A source that is asked to report asks for a refresh itself. Outside of any round its request is
answered; within the round that asks it the request has no result, and its call fails after the five
seconds that a source may take. -/
theorem refresh_within_refresh_given_up :
    let again : Operation := .requestRefresh .pageOpen ⟨1⟩
    let w : World :=
      { center := { declarations := .loaded ⟨[{ id := ⟨"lock"⟩ }]⟩ none }
        groups := [.single ⟨1⟩]
        behaviours := .ofList [("refresh:lock", { steps := [.operation again] }, 0)] }
    let called : World := (w.startCall (.refresh ⟨"lock"⟩ ⟨1⟩ .other 1)).1
    w.conduct.AnswersAtOnce ∧ w.center.isActive = true ∧
      (∃ w', called.Performs again w' (.ok .refreshId) (some 1) ∧
        w'.requests =
          [.refresh ⟨"lock"⟩ ⟨1⟩ .other 1, .refresh ⟨"lock"⟩ ⟨1⟩ .pageOpen 1]) ∧
      ∃ w', w.Performs (.requestRefresh .other ⟨1⟩) w' (.ok .refreshId) (some 1) ∧
        w'.events = [.call (.refresh ⟨"lock"⟩ ⟨1⟩ .other 1)] ∧ w'.now = 5000 ∧
        w'.center.metrics.callFailures.get? .refresh = some 1 := by
  intro again w called
  have atOnce : w.conduct.AnswersAtOnce := World.answersAtOnce_of_sources (by decide)
  have listen : called.conduct.ObserversListen := World.observersListen_of_sources (by decide)
  have found : called.groups.find? ⟨1⟩ = some (.single ⟨1⟩) := rfl
  obtain ⟨outside, plays, told⟩ :=
    plays_refresh .pageOpen (fun _ => none) rfl rfl found listen rfl
  refine ⟨atOnce, rfl, ⟨outside, plays, told.requests⟩, ?_⟩
  let c : Call := .refresh ⟨"lock"⟩ ⟨1⟩ .other 1
  let below : List Frame := [.calls [] {}, .release, .tail (.ok .refreshId) (some 1) []]
  let within : World := { called with turn := { holder := some 0, next := 1 }, refreshes := 1 }
  have begun : Goes w (.ready .go [.tail (.ok .refreshId) none
      [.round (.refresh .other [(⟨"lock"⟩, ⟨1⟩)])]]) within
      (.ready .go (.script [.operation again] .succeed :: .limit c 5000 :: below)) :=
    (goes_round rfl .other [(⟨"lock"⟩, ⟨1⟩)] _ []).trans (goes_advance _ _ _ _)
  let Ends (w' : World) (t : Thread) : Prop :=
    t = .ready (.result (.answer (.ok .refreshId) (some 1))) [] ∧
      w'.events = [.call c] ∧ w'.now = 5000 ∧ w'.center.metrics.callFailures.get? .refresh = some 1
  have leads : Leads Ends w (.ready .go [.tail (.ok .refreshId) none
      [.round (.refresh .other [(⟨"lock"⟩, ⟨1⟩)])]]) := by
    have opens : again.opensRound within.groups.find? within.center = true := rfl
    refine .goes begun ((leads_operation opens rfl (by decide) [] .succeed c (by decide)).trans
      fun w' t givenUp => ?_)
    have ended : Goes w' (.ready (.outcome false) (.limit c 5000 :: below))
        { w'.count c.failure with turn := w'.turn.release }
        (.ready (.result (.answer (.ok .refreshId) (some 1))) []) :=
      (goes_advance _ _ _ _).trans ((goes_advance _ _ _ _).trans ((goes_advance _ _ _ _).trans
        (goes_released _ _ _ _ [])))
    rw [givenUp.failed]
    refine .goes ended (.here ⟨rfl, givenUp.events, givenUp.late, ?_⟩)
    rw [World.count, givenUp.center]
    rfl
  obtain ⟨w', signal, ⟨same, seen⟩, plays⟩ :=
    Leads.plays (P := Ends) (w := w) (fun w' t ends => ⟨_, ends.1⟩) leads
  cases same
  exact ⟨w', plays, seen⟩

end Scenario

end SafetyCenter
