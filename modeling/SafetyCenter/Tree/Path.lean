import SafetyCenter.Tree

namespace SafetyCenter.Tree

/-- A step into a tree: to the value of a key or to an item of a list. Negative places count from the
end of the list. -/
inductive Step where
  | key (key : String)
  | item (place : Int)
  deriving Repr, DecidableEq

def isKeyChar (c : Char) : Bool :=
  Numeral.isDigit c || ('a' ≤ c && c ≤ 'z') || ('A' ≤ c && c ≤ 'Z') || c = ' ' || c = '_' || c = '-'

def isBlankChar (c : Char) : Bool :=
  c = ' ' || c = '\t' || c = '\n' || c = '\r'

/-- What a path consists of: keys, the places of items, and the points in front of keys. -/
inductive PathPart where
  | start
  | key (read : List Char)
  | item (read : List Char)
  | between

/-- The place of an item, from what stands between the brackets. -/
def place? (cs : List Char) : Option Int :=
  let cs := (cs.dropWhile isBlankChar).reverse.dropWhile isBlankChar |>.reverse
  match cs with
  | '-' :: ds => (Numeral.nat? ds).map fun n => -(n : Int)
  | ds => (Numeral.nat? ds).map fun n => (n : Int)

/-- Reads the steps of a path. `part` is what is being read, its characters in reverse. -/
def readSteps (part : PathPart) : List Char → Option (List Step)
  | [] =>
    match part with
    | .start => none
    | .key [] => none
    | .key cs => some [.key (String.ofList cs.reverse)]
    | .item _ => none
    | .between => some []
  | c :: cs =>
    match part with
    | .start => if isKeyChar c then readSteps (.key [c]) cs else none
    | .key read =>
      if isKeyChar c then readSteps (.key (c :: read)) cs
      else if read.isEmpty then none
      else if c = '.' then (readSteps (.key []) cs).map (.key (String.ofList read.reverse) :: ·)
      else if c = '[' then (readSteps (.item []) cs).map (.key (String.ofList read.reverse) :: ·)
      else none
    | .item read =>
      if c = ']' then
        match place? read.reverse with
        | some place => (readSteps .between cs).map (.item place :: ·)
        | none => none
      else readSteps (.item (c :: read)) cs
    | .between =>
      if c = '.' then readSteps (.key []) cs
      else if c = '[' then readSteps (.item []) cs
      else none

/-- The steps of a path. A text that is no path is one key. -/
def stepsOf (s : String) : List Step :=
  (readSteps .start s.toList).getD [.key s]

/-- The index of an item in a list of the given length. -/
def index (length : Nat) (place : Int) : Nat :=
  if place < 0 then length - place.natAbs else place.toNat

def changeItem (ts : List Tree) (i : Nat) (change : Tree → Tree) : List Tree :=
  let ts := ts ++ List.replicate (i + 1 - ts.length) .nothing
  ts.modify i change

/-- Gives the end of a path a value. What is on the way and is no table or list becomes one. -/
def setAt (t : Tree) (value : Tree) : List Step → Tree
  | [] => t
  | [.key key] => t.merge key value
  | [.item place] => .list (changeItem t.items (index t.items.length place) fun _ => value)
  | .key key :: steps => t.put key (setAt ((t.get? (lower key)).getD .nothing) value steps)
  | .item place :: steps =>
    .list (changeItem t.items (index t.items.length place) fun t => setAt t value steps)

/-- Lays entries over a tree, each at the path that its key is. -/
def overlay (t : Tree) (layer : List (String × Tree)) : Tree :=
  layer.foldl (fun t e => t.setAt e.2 (stepsOf e.1)) t

end SafetyCenter.Tree
