import SafetyCenter.Toml.Node
import SafetyCenter.Toml.Number

namespace SafetyCenter.Toml

mutual

/-- A value. `depth` lists and tables may still open in it. The fuel `n` exceeds the number of
characters. -/
def value (n depth : Nat) (cs : List Char) : Option (Tree × List Char) :=
  match n with
  | 0 => none
  | n + 1 =>
    match cs with
    | '"' :: _ | '\'' :: _ => (string cs).map fun (s, rest) => (.text s, rest)
    | 't' :: 'r' :: 'u' :: 'e' :: rest => some (.bool true, rest)
    | 'f' :: 'a' :: 'l' :: 's' :: 'e' :: rest => some (.bool false, rest)
    | '[' :: cs =>
      match depth with
      | 0 => none
      | depth + 1 => (items n depth cs).map fun (ts, rest) => (.list ts, rest)
    | '{' :: cs =>
      match depth with
      | 0 => none
      | depth + 1 =>
        match skipBlanks cs with
        | '}' :: rest => some (.table [], rest)
        | cs => (pairs n depth [] cs).map fun (es, rest) => (.table (Node.trees es), rest)
    | cs => number cs

def items (n depth : Nat) (cs : List Char) : Option (List Tree × List Char) :=
  match n with
  | 0 => none
  | n + 1 =>
    match skipLines false cs with
    | none => none
    | some (']' :: rest) => some ([], rest)
    | some cs =>
      match value n depth cs with
      | none => none
      | some (t, rest) =>
        match skipLines false rest with
        | some (',' :: rest) => (items n depth rest).map fun (ts, rest) => (t :: ts, rest)
        | some (']' :: rest) => some ([t], rest)
        | _ => none

/-- The pairs of a table within a line, up to its closing brace, after those that were read. -/
def pairs (n depth : Nat) (es : Node.Entries) (cs : List Char) :
    Option (Node.Entries × List Char) :=
  match n with
  | 0 => none
  | n + 1 =>
    match keys (depthLimit - 1) cs with
    | some ((path, key), '=' :: rest) =>
      match value n depth (skipBlanks rest) with
      | none => none
      | some (v, rest) =>
        match Node.addValue path key v es with
        | none => none
        | some es =>
          match skipBlanks rest with
          | ',' :: rest => pairs n depth es rest
          | '}' :: rest => some (es, rest)
          | _ => none
    | _ => none

end

/-- The header under which entries are being read. -/
inductive Header where
  /-- none yet -/
  | root
  | table (path : List String) (key : String)
  /-- one of a list of tables -/
  | row (path : List String) (key : String)

/-- A document that is being read: what lies under closed headers, and what lies under the open one. -/
structure Draft where
  closed : Node.Entries := []
  header : Header := .root
  opened : Node.Entries := []

namespace Draft

def close (d : Draft) : Option Node.Entries :=
  match d.header with
  | .root => some d.opened
  | .table path key => Node.closeTable path key d.opened d.closed
  | .row path key => Node.closeRow path key d.opened d.closed

/-- Goes on under the header of a table. -/
def openTable (d : Draft) (path : List String) (key : String) : Option Draft := do
  let es ← d.close
  let (opened, closed) ← Node.openTable path key es
  return ⟨closed, .table path key, opened⟩

/-- Goes on under the header of one more table of a list. -/
def openRow (d : Draft) (path : List String) (key : String) : Option Draft := do
  let es ← d.close
  let closed ← Node.openRow path key es
  return ⟨closed, .row path key, []⟩

def addValue (d : Draft) (path : List String) (key : String) (v : Tree) : Option Draft := do
  return { d with opened := ← Node.addValue path key v d.opened }

end Draft

/-- Reads the lines of a document. The fuel exceeds the number of characters. -/
def lines : Nat → Draft → List Char → Option Draft
  | 0, _, _ => none
  | n + 1, d, cs =>
    match skipBlanks cs with
    | [] => some d
    | '#' :: cs => (afterLine? ('#' :: cs)).bind (lines n d)
    | '[' :: '[' :: cs =>
      match keys (depthLimit - 1) cs with
      | some ((path, key), ']' :: ']' :: rest) =>
        (afterLine? rest).bind fun rest => (d.openRow path key).bind fun d => lines n d rest
      | _ => none
    | '[' :: cs =>
      match keys (depthLimit - 1) cs with
      | some ((path, key), ']' :: rest) =>
        (afterLine? rest).bind fun rest => (d.openTable path key).bind fun d => lines n d rest
      | _ => none
    | '\r' :: cs => (afterNewline? ('\r' :: cs)).bind (lines n d)
    | '\n' :: cs => lines n d cs
    | cs =>
      match keys (depthLimit - 1) cs with
      | some ((path, key), '=' :: rest) =>
        (value (rest.length + 1) (depthLimit - 1) (skipBlanks rest)).bind fun (v, rest) =>
          (afterLine? rest).bind fun rest => (d.addValue path key v).bind fun d => lines n d rest
      | _ => none

/-- The entries of a document. A byte order mark in front is skipped. -/
def read? (s : String) : Option (List (String × Tree)) :=
  let cs := match s.toList with
    | '\ufeff' :: cs => cs
    | cs => cs
  (lines (cs.length + 1) {} cs).bind fun d => d.close.map Node.trees

end SafetyCenter.Toml
