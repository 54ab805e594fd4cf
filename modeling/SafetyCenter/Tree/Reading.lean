import SafetyCenter.Tree

namespace SafetyCenter.Tree

/-- A value as a natural number of 64 bits. Truth values are one and zero, floating-point numbers are
rounded, and texts are read. -/
def nat? : Tree → Option Nat
  | .bool b => some (if b then 1 else 0)
  | .int i => if 0 ≤ i then some i.toNat else none
  | .float f => some (f.toNat Numeral.greatestNat)
  | .text s =>
    match lower s with
    | "true" | "on" | "yes" => some 1
    | "false" | "off" | "no" => some 0
    | _ => Numeral.nat64? s
  | _ => none

def text? : Tree → Option String
  | .bool b => some (if b then "true" else "false")
  | .int i => some (toString i)
  | .float f => some f.text
  | .text s => some s
  | _ => none

/-- A value as one of several names, the case of letters aside. A table with a single key stands for
the key. -/
def name? {α : Type} (names : List (String × α)) (t : Tree) : Option α :=
  let find (s : String) : Option α := Assoc.lookup (lower s) names
  match t with
  | .text s => find s
  | .table [(s, _)] => find s
  | _ => none

/-- The fields of a record, each of which may be missing. A table gives them by name and a list by
position. -/
def fields? (names : List String) : Tree → Option (List (Option Tree))
  | .table es => some (names.map fun name => Assoc.lookup name es)
  | .list ts => some ((List.range names.length).map fun i => ts[i]?)
  | _ => none

/-- Reads a field that may be missing. -/
def orElse {α : Type} (default : α) (read : Tree → Option α) : Option Tree → Option α
  | none => some default
  | some t => read t

end SafetyCenter.Tree
