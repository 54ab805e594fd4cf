import SafetyCenter.Scenario.World

/-!
Threads: work in progress. A thread is a stack of frames, each of which waits for what is above it.
`Thread.advance` makes one move of a thread that can go on.
-/

namespace SafetyCenter.Scenario

/-- What is left to do at one level of a thread. -/
inductive Frame where
  /-- the tail of an operation with its answer, the number of its refresh round, and its stages -/
  | tail (answer : Except Error Reply) (refreshId : Option Nat) (stages : List Stage)
  /-- calls to make one after the other, and how those before went -/
  | calls (calls : List Call) (tally : Tally)
  /-- a call that fails when its time is up -/
  | limit (call : Call) (deadline : Nat)
  /-- the steps that a collaborator takes, and how it ends its call -/
  | script (steps : List Step) (manner : Manner)
  /-- a step that a collaborator takes -/
  | nested (step : Step)
  /-- the toggle that is followed, and what it showed so far -/
  | watch (batches : List (List Bool)) (states : List Bool)
  /-- the right to broadcast, to be given back -/
  | release

/-- What reaches the topmost frame. -/
inductive Signal where
  /-- nothing: the frame is to begin or to go on -/
  | go
  /-- the right to broadcast -/
  | granted
  /-- how a call went -/
  | outcome (ok : Bool)
  /-- how several calls went -/
  | tally (tally : Tally)
  /-- the result of a step -/
  | result (result : Result)

/-- Work in progress: a stack of frames, the topmost first, and why it does not go on, if so. -/
inductive Thread where
  | ready (signal : Signal) (frames : List Frame)
  /-- waits for a moment, or for ever -/
  | asleep (until? : Option Nat) (frames : List Frame)
  /-- waits for the right to broadcast -/
  | queued (ticket : Nat) (frames : List Frame)
  /-- waits for threads that run side by side -/
  | joined (children : List Thread) (frames : List Frame)

namespace Thread

def ofCall (c : Call) : Thread :=
  .ready .go [.calls [c] {}]

/-- Shows a view to observers side by side. -/
def ofDelivery (view : View) (error : Option String) (observers : List Observer)
    (frames : List Frame) : Thread :=
  .joined (observers.map fun o => ofCall (.deliver o view error)) frames

/-- Performs an operation and goes on with its tail. -/
def ofOperation (w : World) (op : Operation) (frames : List Frame) : World × Thread :=
  let outcome := op.perform w.groups.find? w.center
  ({ w with center := outcome.center },
    .ready .go (.tail outcome.answer none outcome.stages :: frames))

def ofStep (w : World) (step : Step) (frames : List Frame) : World × Thread :=
  match step with
  | .operation op => ofOperation w op frames
  | .watch initial batches => ofOperation w (.applyInitial initial) (.watch batches [] :: frames)
  | .setGroups groups => ({ w with groups }, .ready (.result .nothing) frames)
  | .setBehaviours behaviours =>
    (w.setBehaviours behaviours, .ready (.result .nothing) frames)
  | .settings => (w, .ready (.result (.settings w.settings)) frames)
  | .describe => (w, .ready (.result (.text w.describe)) frames)
  | .metrics => (w, .ready (.result (.metrics w.center.metrics)) frames)
  | .metricsText => (w, .ready (.result (.text w.center.metrics.text)) frames)

def ofStartedCall (w : World) (c : Call) (frames : List Frame) : World × Thread :=
  let (w, b) := w.startCall c
  (w, .ready .go (.script b.steps b.manner :: .limit c (w.now + c.limit w.settings) :: frames))

/-- Starts a stage of a tail. A round begins when the right to broadcast is there. -/
def ofStage (w : World) (stage : Stage) (frames : List Frame) (whole : List Frame) :
    World × Thread :=
  match stage with
  | .deliver view error observers => (w, ofDelivery view error observers frames)
  | .dispatch target user kind =>
    (w, .ready .go (.calls [.dispatch target user kind] {} :: frames))
  | .round _ =>
    let (turn, ticket, free) := w.turn.request
    let w := { w with turn }
    if free then (w, .ready .granted whole) else (w, .queued ticket whole)

/-- Starts a round with the right to broadcast. A refresh gets the next number. -/
def ofRound (w : World) (round : Round) (answer : Except Error Reply) (refreshId : Option Nat)
    (stages : List Stage) (frames : List Frame) : World × Thread :=
  let w := if round.isRefresh then { w with refreshes := w.refreshes + 1 } else w
  let refreshId := if round.isRefresh then some w.refreshes else refreshId
  (w, .ready .go
    (.calls (round.calls w.refreshes) {} :: .release :: .tail answer refreshId stages :: frames))

/-- Goes on following the toggle. A batch counts by its last value. -/
def ofWatch (w : World) (batches : List (List Bool)) (states : List Bool) (frames : List Frame) :
    World × Thread :=
  let states := states ++ [w.center.isActive]
  match batches with
  | [] => (w, .ready (.result (.watched ⟨states, true, true, true⟩)) frames)
  | batch :: batches =>
    match batch.getLast? with
    | none => (w, .ready (.result .nothing) (.watch batches states :: frames))
    | some value => ofOperation w (.followToggle value) (.watch batches states :: frames)

/-- The end of a call by a collaborator that took its steps. -/
def ofManner (w : World) (manner : Manner) (frames : List Frame) : Thread :=
  match manner with
  | .succeed => .ready (.outcome true) frames
  | .fail => .ready (.outcome false) frames
  | .hang => .asleep none frames
  | .delay ms => .asleep (some (w.now + ms)) frames

/-- One move of a thread whose topmost frame has got a signal. -/
def advance (w : World) (signal : Signal) (frames : List Frame) : World × Thread :=
  match signal, frames with
  | .go, .script (step :: steps) manner :: frames =>
    ofStep w step (.nested step :: .script steps manner :: frames)
  | .go, .script [] manner :: frames => (w, ofManner w manner frames)
  | .go, .calls (c :: cs) tally :: frames => ofStartedCall w c (.calls cs tally :: frames)
  | .go, .calls [] tally :: frames => (w, .ready (.tally tally) frames)
  | .go, .tail answer refreshId (stage :: stages) :: frames =>
    ofStage w stage (.tail answer refreshId stages :: frames)
      (.tail answer refreshId (stage :: stages) :: frames)
  | .go, .tail answer refreshId [] :: frames =>
    (w, .ready (.result (.answer answer refreshId)) frames)
  | .granted, .tail answer refreshId (.round round :: stages) :: frames =>
    ofRound w round answer refreshId stages frames
  | .outcome ok, .limit c _ :: frames =>
    (if ok then w else w.count c.failure, .ready (.outcome ok) frames)
  | .outcome ok, .calls cs tally :: frames => (w, .ready .go (.calls cs (tally.count ok) :: frames))
  | .tally tally, .release :: frames =>
    ({ w with turn := w.turn.release }, .ready (.tally tally) frames)
  | .tally _, .tail answer refreshId stages :: frames =>
    (w, .ready .go (.tail answer refreshId stages :: frames))
  | .result result, .nested step :: frames => (w.see (.nested step result), .ready .go frames)
  | .result _, .watch batches states :: frames => ofWatch w batches states frames
  | signal, _ :: frames => (w, .ready signal frames)
  | signal, [] => (w, .ready signal [])

/-- How several threads went together, if all of them are done. -/
def tally? : List Thread → Option Tally
  | [] => some {}
  | .ready (.tally t) [] :: ts => (tally? ts).map t.add
  | _ :: _ => none

/-- Gives back what the frames of an abandoned thread hold. -/
def dropFrames (turn : Turn) (frames : List Frame) : Turn :=
  frames.foldl (fun turn frame => match frame with
    | .release => turn.release
    | _ => turn) turn

mutual

/-- Gives back what an abandoned thread holds or waits for. -/
def drop (turn : Turn) : Thread → Turn
  | .ready _ frames => dropFrames turn frames
  | .asleep _ frames => dropFrames turn frames
  | .queued ticket frames => dropFrames (turn.withdraw ticket) frames
  | .joined children frames => dropFrames (dropAll turn children) frames

def dropAll (turn : Turn) : List Thread → Turn
  | [] => turn
  | t :: ts => dropAll (drop turn t) ts

end

/-- Splits frames at the innermost call whose time is up: those above it, and those from it on. -/
def splitExpired (now : Nat) : List Frame → Option (List Frame × List Frame)
  | [] => none
  | .limit c deadline :: frames =>
    if deadline ≤ now then some ([], .limit c deadline :: frames)
    else (splitExpired now frames).map fun (above, below) => (.limit c deadline :: above, below)
  | frame :: frames =>
    (splitExpired now frames).map fun (above, below) => (frame :: above, below)

def frames : Thread → List Frame
  | .ready _ fs | .asleep _ fs | .queued _ fs | .joined _ fs => fs

def withFrames (fs : List Frame) : Thread → Thread
  | .ready signal _ => .ready signal fs
  | .asleep until? _ => .asleep until? fs
  | .queued ticket _ => .queued ticket fs
  | .joined children _ => .joined children fs

/-- Abandons the innermost call of a waiting thread whose time is up. -/
def expire? (w : World) (t : Thread) : Option (World × Thread) :=
  (splitExpired w.now t.frames).map fun (above, below) =>
    ({ w with turn := drop w.turn (t.withFrames above) }, .ready (.outcome false) below)

def deadlines (frames : List Frame) : List Nat :=
  frames.filterMap fun
    | .limit _ deadline => some deadline
    | _ => none

mutual

/-- The moments that a thread waits for. -/
def moments : Thread → List Nat
  | .ready _ frames => deadlines frames
  | .asleep until? frames => until?.toList ++ deadlines frames
  | .queued _ frames => deadlines frames
  | .joined children frames => momentsAll children ++ deadlines frames

def momentsAll : List Thread → List Nat
  | [] => []
  | t :: ts => moments t ++ momentsAll ts

end

end Thread

end SafetyCenter.Scenario
