import SafetyCenter.Tree

/-!
Tables under construction. A table remembers how it came to be, because that decides in which ways it
may still be extended.
-/

namespace SafetyCenter.Toml

/-- What stands at a key of a table that is being read. -/
inductive Node where
  /-- a value, which nothing extends -/
  | value (value : Tree)
  /-- a table. It is implied if only longer keys named it so far, and dotted if these were the keys
  of values -/
  | table (implied dotted : Bool) (entries : List (String × Node))
  /-- the tables of a list, each with a header of its own -/
  | tables (rows : List (List (String × Node)))
  deriving Inhabited

namespace Node

abbrev Entries := List (String × Node)

mutual

def tree : Node → Tree
  | .value v => v
  | .table _ _ es => .table (trees es)
  | .tables rows => .list (rowTrees rows)

def trees : List (String × Node) → List (String × Tree)
  | [] => []
  | (key, node) :: es => (key, tree node) :: trees es

def rowTrees : List (List (String × Node)) → List Tree
  | [] => []
  | row :: rows => .table (trees row) :: rowTrees rows

end

/-- Changes the table at the end of a path of keys, and answers what the change answers. Missing tables
are created on the way. `forValue` says that the path leads to a value; then it may go only through
tables without a header. Of a list of tables the last one is meant. -/
def descend {α : Type} (forValue : Bool) (change : Bool → Entries → Option (α × Entries)) :
    List String → Bool → Entries → Option (α × Entries)
  | [], dotted, es => change dotted es
  | key :: path, _, es =>
    match Assoc.lookup key es with
    | none =>
      (descend forValue change path forValue []).map fun (a, sub) =>
        (a, Assoc.putEntry key (.table true forValue sub) es)
    | some (.value _) => none
    | some (.table implied dotted sub) =>
      if forValue && !implied then none
      else
        (descend forValue change path dotted sub).map fun (a, sub) =>
          (a, Assoc.putEntry key (.table implied dotted sub) es)
    | some (.tables rows) =>
      match rows.getLast? with
      | none => none
      | some row =>
        (descend forValue change path false row).map fun (a, row) =>
          (a, Assoc.putEntry key (.tables (rows.dropLast ++ [row])) es)

/-- Adds a value at a path of keys and a last key. A table that the path reaches must be named by such
paths only. -/
def addValue (path : List String) (key : String) (v : Tree) (es : Entries) : Option Entries :=
  let change (dotted : Bool) (es : Entries) : Option (Unit × Entries) :=
    if dotted = path.isEmpty || (Assoc.lookup key es).isSome then none
    else some ((), es ++ [(key, .value v)])
  (descend true change path false es).map (·.2)

/-- Opens the table of a header: takes it out of its parent, if it was implied so far. -/
def openTable (path : List String) (key : String) (es : Entries) : Option (Entries × Entries) :=
  let change (_ : Bool) (es : Entries) : Option (Entries × Entries) :=
    match Assoc.lookup key es with
    | none => some ([], es)
    | some (.table true false sub) => some (sub, es.filter (·.1 ≠ key))
    | some _ => none
  descend false change path false es

def closeTable (path : List String) (key : String) (table : Entries) (es : Entries) :
    Option Entries :=
  let change (_ : Bool) (es : Entries) : Option (Unit × Entries) :=
    some ((), Assoc.putEntry key (.table false false table) es)
  (descend false change path false es).map (·.2)

/-- Opens one more table of a list of tables. -/
def openRow (path : List String) (key : String) (es : Entries) : Option Entries :=
  let change (_ : Bool) (es : Entries) : Option (Unit × Entries) :=
    match Assoc.lookup key es with
    | none => some ((), es ++ [(key, .tables [])])
    | some (.tables _) => some ((), es)
    | some _ => none
  (descend false change path false es).map (·.2)

def closeRow (path : List String) (key : String) (row : Entries) (es : Entries) : Option Entries :=
  let change (_ : Bool) (es : Entries) : Option (Unit × Entries) :=
    match Assoc.lookup key es with
    | some (.tables rows) => some ((), Assoc.putEntry key (.tables (rows ++ [row])) es)
    | _ => none
  (descend false change path false es).map (·.2)

end Node

end SafetyCenter.Toml
