import SafetyCenter.Assoc
import SafetyCenter.Number.Numeral

/-!
Trees of values, as files and variables give them. A tree is changed at a key or along a path; the
keys of tables are kept in lower case, except inside of lists, so that their case does not matter.
-/

namespace SafetyCenter

inductive Tree where
  | nothing
  | bool (value : Bool)
  | int (value : Int)
  | float (value : Binary64)
  | text (value : String)
  | list (items : List Tree)
  | table (entries : List (String × Tree))
  deriving Inhabited

namespace Tree

/-- The lower case of a character. The Kelvin sign is the one character outside of ASCII whose lower
case is in ASCII; no other one matters for the keys that are looked for. -/
def lowerChar (c : Char) : Char :=
  if c = '\u212a' then 'k' else Numeral.lower c

def lower (s : String) : String :=
  String.ofList (s.toList.map lowerChar)

def entries : Tree → List (String × Tree)
  | .table es => es
  | _ => []

def items : Tree → List Tree
  | .list ts => ts
  | _ => []

def get? (t : Tree) (key : String) : Option Tree :=
  Assoc.lookup key t.entries

/-- Gives a key a value. What is no table becomes one. -/
def put (t : Tree) (key : String) (value : Tree) : Tree :=
  .table (Assoc.putEntry (lower key) value t.entries)

mutual

/-- Gives a key of a tree a value. A table is merged into what is there, entry by entry; any other
value takes its place. -/
def merge (t : Tree) (key : String) : Tree → Tree
  | .table es => t.put key (mergeAll ((t.get? (lower key)).getD (.table [])) es)
  | value => t.put key value

def mergeAll (t : Tree) : List (String × Tree) → Tree
  | [] => t
  | (key, value) :: es => mergeAll (merge t key value) es

end

end Tree

end SafetyCenter
