import SafetyCenter.Metrics

namespace SafetyCenter.Metrics

def escapeLabel (s : String) : String :=
  String.ofList <| s.toList.flatMap fun
    | '\\' => ['\\', '\\']
    | '\n' => ['\\', 'n']
    | '"' => ['\\', '"']
    | c => [c]

inductive Samples where
  | single (value : Int)
  | labelled (label : String) (values : List (String × Nat))

structure Family where
  name : String
  help : String
  kind : String
  samples : Samples

/-- Inserts a labelled value behind those with a smaller label. -/
def insertByLabel (e : String × Nat) : List (String × Nat) → List (String × Nat)
  | [] => [e]
  | d :: ds => if e.1 < d.1 then e :: d :: ds else d :: insertByLabel e ds

def sortByLabel (es : List (String × Nat)) : List (String × Nat) :=
  es.foldr insertByLabel []

/-- The lines of a family; none for a labelled family without samples. -/
def Family.lines (f : Family) : List String :=
  let name := "safety_broker_" ++ f.name
  let head := ["# HELP " ++ name ++ " " ++ f.help, "# TYPE " ++ name ++ " " ++ f.kind]
  match f.samples with
  | .single value => head ++ [name ++ " " ++ toString value]
  | .labelled _ [] => []
  | .labelled label values =>
    head ++ (sortByLabel values).map fun (value, count) =>
      name ++ "\x7b" ++ label ++ "=\"" ++ escapeLabel value ++ "\"\x7d " ++ toString count

def families (m : Metrics) : List Family :=
  [⟨"actions_in_flight", "Resolving actions awaiting their source", "gauge",
      .single m.actionsInFlight⟩,
    ⟨"dispatch_failures", "Outbound calls that failed or timed out", "counter",
      .labelled "kind" (m.callFailures.entries.map fun e => (e.1.label, e.2))⟩,
    ⟨"issues_dismissed", "Issues dismissed by the user", "counter", .single m.issuesDismissed⟩,
    ⟨"observer_delivery_failures", "Observer notifications that failed or timed out", "counter",
      .single m.deliveryFailures⟩,
    ⟨"reports_received", "Reports accepted from safety sources", "counter",
      .labelled "source_id" (m.reportsReceived.entries.map fun e => (e.1.name, e.2))⟩]

/-- The exposition, a line for each line of each family. -/
def text (m : Metrics) : String :=
  String.join ((m.families.flatMap Family.lines).map (· ++ "\n"))

/-- Why the families cannot be registered. -/
inductive RegistrationFault where
  /-- a family of the same name is registered already -/
  | duplicate
  deriving Repr, DecidableEq

def RegistrationFault.message : RegistrationFault → String
  | .duplicate => "Duplicate metrics collector registration attempted"

/-- Registers the families beside those whose names are taken. The answer is all names then taken. -/
def register (m : Metrics) (taken : List String) : Except RegistrationFault (List String) :=
  let names := m.families.map (·.name)
  if names.any (· ∈ taken) then .error .duplicate else .ok (taken ++ names)

end SafetyCenter.Metrics
