import SafetyCenter.Number.Numeral

namespace SafetyCenter.Toml

/-- Takes a part off the front of the characters. -/
abbrev Reader (α : Type) := List Char → Option (α × List Char)

def isBlank (c : Char) : Bool :=
  c = ' ' || c = '\t'

/-- A character that may stand in a comment or a string: a tab, or any but a control character. -/
def isVisible (c : Char) : Bool :=
  c = '\t' || (' ' ≤ c && c ≤ '~') || '\u0080' ≤ c

/-- Without the blanks in front. -/
def skipBlanks (cs : List Char) : List Char :=
  cs.dropWhile isBlank

/-- What stands behind a line end. -/
def afterNewline? : List Char → Option (List Char)
  | '\n' :: cs => some cs
  | '\r' :: '\n' :: cs => some cs
  | _ => none

/-- What stands behind the rest of a line that holds at most blanks and a comment. -/
def afterLine? (cs : List Char) : Option (List Char) :=
  let cs := match skipBlanks cs with
    | '#' :: cs => cs.dropWhile isVisible
    | cs => cs
  match cs with
  | [] => some []
  | cs => afterNewline? cs

/-- Without blanks, line ends and comments in front. A comment ends with its line. -/
def skipLines (inComment : Bool) : List Char → Option (List Char)
  | [] => if inComment then none else some []
  | '\n' :: cs => skipLines false cs
  | '\r' :: '\n' :: cs => skipLines false cs
  | c :: cs =>
    if inComment then
      if isVisible c then skipLines true cs else none
    else if isBlank c then skipLines false cs
    else if c = '#' then skipLines true cs
    else some (c :: cs)

def push (c : Char) : Option (List Char × List Char) → Option (List Char × List Char)
  | some (read, rest) => some (c :: read, rest)
  | none => none

/-- The character that a letter stands for behind a backslash. -/
def escape? : Char → Option Char
  | 'b' => some '\x08'
  | 't' => some '\t'
  | 'n' => some '\n'
  | 'f' => some '\x0c'
  | 'r' => some '\r'
  | '"' => some '"'
  | '\\' => some '\\'
  | _ => none

def isHexDigit (c : Char) : Bool :=
  Numeral.isDigit c || ('a' ≤ c && c ≤ 'f') || ('A' ≤ c && c ≤ 'F')

/-- The character whose code point digits of base sixteen give. -/
def codePoint? (ds : List Char) : Option Char :=
  let n := Numeral.value 16 0 ds
  if ds.all isHexDigit && (n < 0xD800 || (0xE000 ≤ n && n < 0x110000)) then some (Char.ofNat n)
  else none

def basicString : Reader (List Char)
  | [] => none
  | '"' :: cs => some ([], cs)
  | '\\' :: 'u' :: a :: b :: c :: d :: cs =>
    (codePoint? [a, b, c, d]).bind fun x => push x (basicString cs)
  | '\\' :: 'U' :: a :: b :: c :: d :: e :: f :: g :: h :: cs =>
    (codePoint? [a, b, c, d, e, f, g, h]).bind fun x => push x (basicString cs)
  | '\\' :: c :: cs => (escape? c).bind fun x => push x (basicString cs)
  | c :: cs => if isVisible c && c ≠ '\\' then push c (basicString cs) else none

/-- The rest of a string between single quotes, which stands on one line and knows no escapes. -/
def literalString : Reader (List Char)
  | [] => none
  | '\'' :: cs => some ([], cs)
  | c :: cs => if isVisible c then push c (literalString cs) else none

def isLineBlank (cs : List Char) : Bool :=
  (afterNewline? (skipBlanks cs)).isSome

/-- The rest of a string between three double quotes. A backslash at the end of a line joins it to the
next text; `joining` says that this is going on. One or two more quotes may stand before the last
three. -/
def longBasicString (joining : Bool) : Reader (List Char)
  | [] => none
  | '"' :: '"' :: '"' :: '"' :: '"' :: cs => some (['"', '"'], cs)
  | '"' :: '"' :: '"' :: '"' :: cs => some (['"'], cs)
  | '"' :: '"' :: '"' :: cs => some ([], cs)
  | '\r' :: '\n' :: cs =>
    if joining then longBasicString true cs else push '\n' (longBasicString false cs)
  | '\n' :: cs => if joining then longBasicString true cs else push '\n' (longBasicString false cs)
  | '\\' :: 'u' :: a :: b :: c :: d :: cs =>
    (codePoint? [a, b, c, d]).bind fun x => push x (longBasicString false cs)
  | '\\' :: 'U' :: a :: b :: c :: d :: e :: f :: g :: h :: cs =>
    (codePoint? [a, b, c, d, e, f, g, h]).bind fun x => push x (longBasicString false cs)
  | '\\' :: c :: cs =>
    match escape? c with
    | some x => push x (longBasicString false cs)
    | none =>
      if isLineBlank (c :: cs) then
        if c = '\r' || c = '\n' || isBlank c then longBasicString true cs else none
      else
        none
  | c :: cs =>
    if joining && isBlank c then longBasicString true cs
    else if isVisible c && c ≠ '\\' then push c (longBasicString false cs)
    else none

/-- The rest of a string between three single quotes, which knows no escapes. One or two more quotes
may stand before the last three. -/
def longLiteralString : Reader (List Char)
  | [] => none
  | '\'' :: '\'' :: '\'' :: '\'' :: '\'' :: cs => some (['\'', '\''], cs)
  | '\'' :: '\'' :: '\'' :: '\'' :: cs => some (['\''], cs)
  | '\'' :: '\'' :: '\'' :: cs => some ([], cs)
  | '\r' :: '\n' :: cs => push '\n' (longLiteralString cs)
  | '\n' :: cs => push '\n' (longLiteralString cs)
  | c :: cs => if isVisible c then push c (longLiteralString cs) else none

def skipNewline (cs : List Char) : List Char :=
  (afterNewline? cs).getD cs

def string : Reader String := fun cs =>
  let read := match cs with
    | '"' :: '"' :: '"' :: cs => longBasicString false (skipNewline cs)
    | '"' :: cs => basicString cs
    | '\'' :: '\'' :: '\'' :: cs => longLiteralString (skipNewline cs)
    | '\'' :: cs => literalString cs
    | _ => none
  read.map fun (s, rest) => (String.ofList s, rest)

def isBareKeyChar (c : Char) : Bool :=
  Numeral.isDigit c || ('a' ≤ c && c ≤ 'z') || ('A' ≤ c && c ≤ 'Z') || c = '_' || c = '-'

/-- One key: between quotes on one line, or bare. -/
def simpleKey : Reader String := fun cs =>
  match cs with
  | '"' :: cs => (basicString cs).map fun (s, rest) => (String.ofList s, rest)
  | '\'' :: cs => (literalString cs).map fun (s, rest) => (String.ofList s, rest)
  | cs =>
    let key := cs.takeWhile isBareKeyChar
    if key.isEmpty then none else some (String.ofList key, cs.dropWhile isBareKeyChar)

/-- The greatest number of keys in a row, and of lists and tables around a value, plus one. -/
def depthLimit : Nat := 80

/-- At most `n` keys with points between them, and blanks around each. The answer is the keys before
the last one, and the last one. -/
def keys : Nat → Reader (List String × String)
  | 0, _ => none
  | n + 1, cs =>
    match simpleKey (skipBlanks cs) with
    | none => none
    | some (key, rest) =>
      match skipBlanks rest with
      | '.' :: rest => (keys n rest).map fun ((path, last), rest) => ((key :: path, last), rest)
      | rest => some (([], key), rest)

end SafetyCenter.Toml
