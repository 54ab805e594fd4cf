import SafetyCenter.Center

namespace SafetyCenter

inductive Call where
  /-- asks a source to report again for a user, in the refresh round with the given number -/
  | refresh (source : SourceId) (user : UserId) (reason : RefreshReason) (refreshId : Nat)
  /-- tells a source whether the center is enabled -/
  | announce (source : SourceId) (enabled : Bool)
  /-- hands a target to the dispatch sink -/
  | dispatch (target : String) (user : UserId) (kind : CallKind)
  /-- shows a view to an observer -/
  | deliver (observer : Observer) (view : View) (error : Option String)
  deriving Repr, DecidableEq

namespace Call

def isToSource : Call → Bool
  | .refresh .. | .announce .. => true
  | .dispatch .. | .deliver .. => false

/-- How long a call may take, in milliseconds. -/
def limit (s : Settings) : Call → Nat
  | .refresh .. | .announce .. => s.sourceTimeout
  | .dispatch .. => s.actionTimeout
  | .deliver .. => s.observerTimeout

/-- What is counted when a call fails or takes too long. -/
def failure : Call → Activity
  | .refresh .. => .callFailed .refresh
  | .announce .. => .callFailed .enabledChanged
  | .dispatch _ _ kind => .callFailed kind
  | .deliver .. => .deliveryFailed

end Call

/-- How many of several calls succeeded and how many failed. -/
structure Tally where
  sent : Nat := 0
  failed : Nat := 0
  deriving Repr, DecidableEq, Inhabited

namespace Tally

def count (t : Tally) (ok : Bool) : Tally :=
  if ok then { t with sent := t.sent + 1 } else { t with failed := t.failed + 1 }

def add (s t : Tally) : Tally :=
  ⟨s.sent + t.sent, s.failed + t.failed⟩

end Tally

namespace Round

def isRefresh : Round → Bool
  | .refresh _ _ => true
  | .announce _ _ => false

/-- The number of characters of a refresh id. Ids are drawn at random, and only their number and
which of them are equal can be told. -/
def idLength : Nat := 21

/-- The calls of a round, in order. A refresh carries its id. -/
def calls (refreshId : Nat) : Round → List Call
  | .refresh reason targets => targets.map fun (source, user) =>
    .refresh source user reason refreshId
  | .announce enabled sources => sources.map fun source => .announce source enabled

end Round

end SafetyCenter
