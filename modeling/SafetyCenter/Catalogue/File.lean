import SafetyCenter.Catalogue
import SafetyCenter.Toml.Document
import SafetyCenter.Tree.Path
import SafetyCenter.Tree.Reading

namespace SafetyCenter

def SourceKind.names : List (String × SourceKind) :=
  [("static", .static), ("dynamic", .dynamic), ("issue_only", .issueOnly)]

def ProfileScope.names : List (String × ProfileScope) :=
  [("primary_only", .primaryOnly), ("all_profiles", .allProfiles)]

def Source.ofTree? (t : Tree) : Option Source := do
  let [some id, kind, profile, title] ← t.fields? ["id", "kind", "profile", "title"] | none
  return {
    id := ⟨← id.text?⟩
    kind := ← Tree.orElse .dynamic (Tree.name? SourceKind.names) kind
    profile := ← Tree.orElse .primaryOnly (Tree.name? ProfileScope.names) profile
    title := ← Tree.orElse "" Tree.text? title }

namespace Catalogue

def ofTree? (t : Tree) : Option Catalogue := do
  let [some (.list sources)] ← t.fields? ["sources"] | none
  return ⟨← sources.mapM Source.ofTree?⟩

inductive File where
  /-- it does not exist -/
  | absent
  /-- it has the given text -/
  | present (text : String)
  deriving Repr, DecidableEq

def load : Option File → Except Error Catalogue
  | none => .error .missingPath
  | some .absent => .error .unreadableSources
  | some (.present text) =>
    match (Toml.read? text).bind fun es => ofTree? (Tree.overlay (.table []) es) with
    | none => .error .unreadableSources
    | some c => c.checked

end Catalogue

end SafetyCenter
