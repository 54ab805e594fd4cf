import SafetyCenter.Error
import SafetyCenter.Source

namespace SafetyCenter

structure Catalogue where
  sources : List Source := []
  deriving Repr, DecidableEq, Inhabited

namespace Catalogue

/-- The first fault among declarations, after sources with the ids `seen`. -/
def sourceFault? (seen : List SourceId) : List Source → Option Error
  | [] => none
  | s :: ss =>
    if s.id.name = "" then some .emptySourceId
    else if s.id ∈ seen then some (.duplicateSourceId s.id)
    else sourceFault? (s.id :: seen) ss

/-- What is wrong with a catalogue: it must have sources, with different ids, none of them empty. -/
def fault? (c : Catalogue) : Option Error :=
  if c.sources.isEmpty then some .noSources else sourceFault? [] c.sources

/-- A catalogue without faults. -/
def checked (c : Catalogue) : Except Error Catalogue :=
  match c.fault? with
  | some e => .error e
  | none => .ok c

def source? (c : Catalogue) (id : SourceId) : Option Source :=
  c.sources.find? (·.id = id)

/-- The sources that report and can be refreshed. -/
def reporting (c : Catalogue) : List Source :=
  c.sources.filter (!·.isStatic)

/-- The pairs of a reporting source and a user it covers in a group: sources in order, and for each
the primary user first. -/
def reportingPairs (c : Catalogue) (g : ProfileGroup) : List (Source × UserId) :=
  c.reporting.flatMap fun s => (s.coveredUsers g).map fun u => (s, u)

@[simp] theorem mem_reporting {c : Catalogue} {s : Source} :
    s ∈ c.reporting ↔ s ∈ c.sources ∧ s.isStatic = false := by
  simp [reporting]

/-- The pairs are exactly the covered users of the sources that are not static. -/
theorem mem_reportingPairs {c : Catalogue} {g : ProfileGroup} {s : Source} {u : UserId} :
    (s, u) ∈ c.reportingPairs g ↔
      s ∈ c.sources ∧ s.isStatic = false ∧ s.covers g u = true := by
  simp only [reportingPairs, List.mem_flatMap, List.mem_map, Prod.mk.injEq, mem_reporting,
    Source.mem_coveredUsers]
  constructor
  · rintro ⟨s', ⟨hs, hk⟩, u', ⟨_, hu⟩, rfl, rfl⟩
    exact ⟨hs, hk, hu⟩
  · rintro ⟨hs, hk, hu⟩
    exact ⟨s, ⟨hs, hk⟩, u, ⟨Source.mem_of_covers hu, hu⟩, rfl, rfl⟩

def isEmpty (c : Catalogue) : Bool :=
  c.sources.isEmpty

end Catalogue

/-- The catalogue in force. It is loaded at most once, and only a loaded one can be replaced. -/
inductive Declarations where
  /-- nothing was loaded yet -/
  | pending
  /-- loading failed, for good -/
  | failed
  /-- a catalogue was loaded, and possibly another one stands in for it -/
  | loaded (base : Catalogue) (replacement : Option Catalogue)
  deriving Repr, DecidableEq, Inhabited

namespace Declarations

def isLoaded : Declarations → Bool
  | .loaded _ _ => true
  | _ => false

/-- The catalogue in force; without one, the empty catalogue. -/
def current : Declarations → Catalogue
  | .loaded base replacement => replacement.getD base
  | _ => {}

/-- Takes the outcome of a load. Only the first load counts. -/
def load (outcome : Except Error Catalogue) : Declarations → Declarations
  | .pending =>
    match outcome with
    | .ok c => .loaded c none
    | .error _ => .failed
  | d => d

/-- A loaded catalogue stays, whatever is loaded later. -/
theorem load_of_isLoaded {d : Declarations} (loaded : d.isLoaded = true)
    (outcome : Except Error Catalogue) : d.load outcome = d := by
  cases d with
  | pending => cases loaded
  | failed => cases loaded
  | loaded _ _ => rfl

def notLoaded : Error :=
  .unavailable "no source configuration loaded"

/-- Puts a catalogue in the place of the loaded one, or (`none`) goes back to the loaded one. -/
def replace (replacement : Option Catalogue) : Declarations → Except Error Declarations
  | .loaded base _ => .ok (.loaded base replacement)
  | _ => .error notLoaded

/-- A replacement is refused exactly where no catalogue is there. -/
theorem replace_eq_error_iff {d : Declarations} {replacement : Option Catalogue} {e : Error} :
    d.replace replacement = .error e ↔ d.isLoaded = false ∧ e = notLoaded := by
  cases d <;> simp [replace, isLoaded, eq_comm]

end Declarations

end SafetyCenter
