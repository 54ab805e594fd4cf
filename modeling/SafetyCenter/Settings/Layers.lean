import SafetyCenter.Settings
import SafetyCenter.Toml.Document
import SafetyCenter.Tree.Path
import SafetyCenter.Tree.Reading

namespace SafetyCenter.Settings

def tree (s : Settings) : Tree :=
  .table
    [("broadcast", .table [("source_timeout_in_ms", .int s.sourceTimeout)]),
      ("delivery", .table [("observer_timeout_in_ms", .int s.observerTimeout),
        ("action_timeout_in_ms", .int s.actionTimeout)]),
      ("sources", .table [("path", (s.cataloguePath.map Tree.text).getD .nothing)])]

def pathOfTree? : Tree → Option (Option String)
  | .nothing => some none
  | t => t.text?.map some

/-- The settings that a value gives. What is missing is as in the default settings. -/
def ofTree? (t : Tree) : Option Settings := do
  let [broadcast, delivery, sources] ← t.fields? ["broadcast", "delivery", "sources"] | none
  let part (names : List String) : Option Tree → Option (List (Option Tree)) :=
    Tree.orElse (names.map fun _ => none) (Tree.fields? names)
  let [sourceTimeout] ← part ["source_timeout_in_ms"] broadcast | none
  let [observerTimeout, actionTimeout] ←
    part ["observer_timeout_in_ms", "action_timeout_in_ms"] delivery | none
  let [path] ← part ["path"] sources | none
  let standard : Settings := {}
  return {
    sourceTimeout := ← Tree.orElse standard.sourceTimeout Tree.nat? sourceTimeout
    observerTimeout := ← Tree.orElse standard.observerTimeout Tree.nat? observerTimeout
    actionTimeout := ← Tree.orElse standard.actionTimeout Tree.nat? actionTimeout
    cataloguePath := ← Tree.orElse standard.cataloguePath pathOfTree? path }

/-- What the names of variables that are settings start with, in lower case. -/
def variablePrefix : String := "safety_broker__"

def pointed : List Char → List Char
  | '_' :: '_' :: cs => '.' :: pointed cs
  | c :: cs => c :: pointed cs
  | [] => []

/-- The path that the name of a variable means, if it is a setting. -/
def variablePath? (name : String) : Option String :=
  let cs := (Tree.lower name).toList
  let start := variablePrefix.toList
  if start.isPrefixOf cs then some (String.ofList (pointed (cs.drop start.length))) else none

def variableValue (s : String) : Tree :=
  match Tree.lower s with
  | "true" => .bool true
  | "false" => .bool false
  | _ =>
    match Numeral.int64? s with
    | some i => .int i
    | none =>
      match Numeral.float? s with
      | some f => .float f
      | none => .text s

/-- The layer of the variables. Variables without a text, and those that are no settings, are left
out. -/
def variableLayer (env : List (String × String)) : List (String × Tree) :=
  env.filterMap fun (name, s) =>
    if s = "" then none else (variablePath? name).map fun path => (path, variableValue s)

inductive File where
  /-- it was not asked for -/
  | unnamed
  /-- it was asked for and does not exist -/
  | absent
  /-- it has the given text -/
  | present (text : String)
  deriving Repr, DecidableEq

/-- The layer of a file; none if it cannot be read. -/
def File.layer? : File → Option (List (String × Tree))
  | .unnamed => some []
  | .absent => none
  | .present text => Toml.read? text

/-- What all layers give together. -/
def layered (files : List (List (String × Tree))) (env : List (String × String)) : Tree :=
  (files ++ [variableLayer env]).foldl Tree.overlay (tree {})

/-- Loads the settings from an override file, the file that the environment names, and variables. -/
def load (override named : File) (env : List (String × String)) : Except Error Settings :=
  match override.layer?, named.layer? with
  | some first, some second =>
    match ofTree? (layered [first, second] env) with
    | none => .error .unreadableSettings
    | some s => s.checked
  | _, _ => .error .unreadableSettings

end SafetyCenter.Settings
