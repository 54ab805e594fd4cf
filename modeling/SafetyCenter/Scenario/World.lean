import SafetyCenter.Metrics.Exposition
import SafetyCenter.Scenario.Script
import SafetyCenter.Quoted

/-!
The world of a scenario: the center, what its collaborators do, the clock, and who may broadcast.
Time is virtual and counted in milliseconds.
-/

namespace SafetyCenter.Scenario

/-- What following a toggle showed. -/
structure Watched where
  /-- whether the center was active after the first value and after each batch -/
  states : List Bool
  /-- the watcher runs until it is told to end -/
  running : Bool := true
  /-- it ends when it is told to -/
  stopped : Bool := true
  /-- it ends without a fault -/
  joined : Bool := true
  deriving Repr, DecidableEq

inductive Result where
  /-- the answer of an operation, with the number of the refresh round that it ran -/
  | answer (answer : Except Error Reply) (refreshId : Option Nat)
  | watched (watched : Watched)
  | nothing
  | settings (settings : Settings)
  | text (text : String)
  | metrics (metrics : Metrics)

/-- Something that is seen from outside: a call as it starts, or a step that a collaborator took. -/
inductive Event where
  | call (call : Call)
  | nested (step : Step) (result : Result)

/-- Who may broadcast. The right goes from its holder to the first in the queue. -/
structure Turn where
  holder : Option Nat := none
  queue : List Nat := []
  /-- the number of the next who asks -/
  next : Nat := 0
  /-- the right was handed on, so somebody who waits can go on -/
  handed : Bool := false
  deriving Repr, DecidableEq, Inhabited

namespace Turn

/-- Asks for the right. The answer is a ticket and whether the right was free. -/
def request (t : Turn) : Turn × Nat × Bool :=
  match t.holder with
  | none => ({ t with holder := some t.next, next := t.next + 1 }, t.next, true)
  | some _ => ({ t with queue := t.queue ++ [t.next], next := t.next + 1 }, t.next, false)

def release (t : Turn) : Turn :=
  match t.queue with
  | [] => { t with holder := none }
  | ticket :: queue => { t with holder := some ticket, queue, handed := true }

/-- Whoever waits with a ticket gives up; if the right had come to it, it goes on to the next. -/
def withdraw (t : Turn) (ticket : Nat) : Turn :=
  if t.holder = some ticket then t.release
  else { t with queue := t.queue.filter (· ≠ ticket) }

end Turn

structure World where
  center : Center := {}
  settings : Settings := {}
  groups : ProfileGroup.Directory := []
  /-- how collaborators answer, and how often each behaviour was used -/
  behaviours : Assoc String (Behaviour Step × Nat) := ∅
  now : Nat := 0
  turn : Turn := {}
  /-- refresh rounds so far -/
  refreshes : Nat := 0
  /-- what was seen, the latest first -/
  events : List Event := []

namespace World

def see (w : World) (e : Event) : World :=
  { w with events := e :: w.events }

def count (w : World) (a : Activity) : World :=
  { w with center := { w.center with metrics := w.center.metrics.record a } }

def setBehaviours (w : World) (behaviours : List (String × Behaviour Step)) : World :=
  { w with behaviours := w.behaviours.putAll (behaviours.map fun (key, b) => (key, (b, 0))) }

/-- Starts a call: notes it and looks up how it is answered. -/
def startCall (w : World) (c : Call) : World × Behaviour Step :=
  let w := w.see (.call c)
  match (behaviourKeys c).findSome? fun key => (w.behaviours.get? key).map fun b => (key, b) with
  | none => (w, {})
  | some (key, b, used) =>
    ({ w with behaviours := w.behaviours.put key (b, used + 1) },
      if used < b.times then b else { b with steps := [] })

/-- The center in words: its toggle and its settings. -/
def describe (w : World) : String :=
  let flag (b : Bool) := if b then "true" else "false"
  let path := match w.settings.cataloguePath with
    | none => "None"
    | some path => "Some(" ++ Quoted.quote path ++ ")"
  "SafetyHub \x7b enabled: " ++ flag w.center.enabled ++
    ", settings: Settings \x7b broadcast: BroadcastConfig \x7b source_timeout_in_ms: " ++
    toString w.settings.sourceTimeout ++
    " \x7d, delivery: DeliveryConfig \x7b observer_timeout_in_ms: " ++
    toString w.settings.observerTimeout ++ ", action_timeout_in_ms: " ++
    toString w.settings.actionTimeout ++ " \x7d, sources: SourcesConfig \x7b path: " ++ path ++
    " \x7d \x7d \x7d"

/-- What runs the rounds, in words: how long a source may take. -/
def describeRounds (w : World) : String :=
  "BroadcastDispatcher \x7b timeout: " ++ millisecondsText w.settings.sourceTimeout ++ " \x7d"

end World

end SafetyCenter.Scenario
