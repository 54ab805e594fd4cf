import SafetyCenter.Scenario.Thread

namespace SafetyCenter.Scenario

/-- The number of moves after which a thread is stopped in any case. -/
def patience : Nat := 1000000

def inOrder (go : World → Thread → World × Thread) (w : World) :
    List Thread → World × List Thread
  | [] => (w, [])
  | t :: ts =>
    let (w, t) := go w t
    let (w, ts) := inOrder go w ts
    (w, t :: ts)

/-- Lets a thread go on until it is done or waits. A waiting thread first gives its children their
turn, then abandons a call whose time is up. -/
def poll : Nat → World → Thread → World × Thread
  | 0, w, t => (w, t)
  | n + 1, w, t =>
    let wait (w : World) (t : Thread) : World × Thread :=
      match t.expire? w with
      | some (w, t) => poll n w t
      | none => (w, t)
    match t with
    | .ready signal [] => (w, .ready signal [])
    | .ready signal (frame :: frames) =>
      let (w, t) := Thread.advance w signal (frame :: frames)
      poll n w t
    | .asleep (some moment) frames =>
      if moment ≤ w.now then poll n w (.ready (.outcome true) frames)
      else wait w (.asleep (some moment) frames)
    | .asleep none frames => wait w (.asleep none frames)
    | .queued ticket frames =>
      if w.turn.holder = some ticket then poll n w (.ready .granted frames)
      else wait w (.queued ticket frames)
    | .joined children frames =>
      let (w, children) := inOrder (poll n) w children
      match Thread.tally? children with
      | some tally => poll n w (.ready (.tally tally) frames)
      | none => wait w (.joined children frames)

/-- Plays a thread to its end. The answer is its last signal, unless it waits for ever. -/
def settle : Nat → World → Thread → World × Option Signal
  | 0, w, _ => (w, none)
  | n + 1, w, t =>
    let w := { w with turn := { w.turn with handed := false } }
    match poll n w t with
    | (w, .ready signal []) => (w, some signal)
    | (w, t) =>
      if w.turn.handed then settle n w t
      else
        match t.moments.min? with
        | none => (w, none)
        | some moment => settle n { w with now := max w.now moment } t

/-- Plays a thread and hands out what was seen meanwhile, in order. -/
def run (w : World) (t : Thread) : World × Option Signal × List Event :=
  let (w, signal) := settle patience { w with events := [] } t
  (w, signal, w.events.reverse)

def play (w : World) (step : Step) : World × Result × List Event :=
  let (w, t) := Thread.ofStep w step []
  match run w t with
  | (w, some (.result result), events) => (w, result, events)
  | (w, _, events) => (w, .nothing, events)

def playAll (w : World) : List Step → List (Result × List Event)
  | [] => []
  | step :: steps =>
    let (w, result, events) := play w step
    (result, events) :: playAll w steps

def playCalls (w : World) (calls : List Call) : World × Tally × List Event :=
  match run w (.ready .go [.calls calls {}]) with
  | (w, some (.tally tally), events) => (w, tally, events)
  | (w, _, events) => (w, {}, events)

/-- Runs a round outside of any operation. The answer has the number of the round if it is a
refresh. -/
def playRound (w : World) (round : Round) : World × Nat × Tally × List Event :=
  let w := if round.isRefresh then { w with refreshes := w.refreshes + 1 } else w
  let (w, tally, events) := playCalls w (round.calls w.refreshes)
  (w, w.refreshes, tally, events)

def playDelivery (w : World) (view : View) (error : Option String) (observers : List Observer) :
    World × Tally × List Event :=
  match run w (Thread.ofDelivery view error observers []) with
  | (w, some (.tally tally), events) => (w, tally, events)
  | (w, _, events) => (w, {}, events)

end SafetyCenter.Scenario
