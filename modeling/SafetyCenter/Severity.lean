namespace SafetyCenter

/-- What a source says of its status or of one issue. -/
inductive Severity where
  | unspecified
  | information
  | recommendation
  | criticalWarning
  deriving Repr, DecidableEq, Inhabited

namespace Severity

def rank : Severity → Nat
  | .unspecified => 0
  | .information => 1
  | .recommendation => 2
  | .criticalWarning => 3

instance : LE Severity := ⟨fun a b => a.rank ≤ b.rank⟩
instance (a b : Severity) : Decidable (a ≤ b) := inferInstanceAs (Decidable (a.rank ≤ b.rank))

def ascending : List Severity :=
  [.unspecified, .information, .recommendation, .criticalWarning]

def descending : List Severity :=
  [.criticalWarning, .recommendation, .information, .unspecified]

theorem mem_descending (s : Severity) : s ∈ descending := by
  cases s <;> decide

def sort (l : List Severity) : List Severity :=
  ascending.flatMap fun s => l.filter (· = s)

end Severity

/-- What a profile group as a whole is told. -/
inductive Overall where
  /-- nothing was reported -/
  | unknown
  | ok
  | recommendation
  | criticalWarning
  deriving Repr, DecidableEq, Inhabited

namespace Overall

def rank : Overall → Nat
  | .unknown => 0
  | .ok => 1
  | .recommendation => 2
  | .criticalWarning => 3

instance : LE Overall := ⟨fun a b => a.rank ≤ b.rank⟩
instance (a b : Overall) : Decidable (a ≤ b) := inferInstanceAs (Decidable (a.rank ≤ b.rank))

def max (a b : Overall) : Overall :=
  if a ≤ b then b else a

theorem rank_max (a b : Overall) : (a.max b).rank = Nat.max a.rank b.rank := by
  cases a <;> cases b <;> rfl

def ofSeverity : Severity → Overall
  | .unspecified | .information => .ok
  | .recommendation => .recommendation
  | .criticalWarning => .criticalWarning

/-- The gravest of a list, or `least` if nothing in the list is graver. -/
def gravest (least : Overall) (l : List Overall) : Overall :=
  l.foldl max least

end Overall

end SafetyCenter
