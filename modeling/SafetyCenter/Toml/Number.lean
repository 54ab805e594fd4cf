import SafetyCenter.Toml.Lexeme
import SafetyCenter.Tree

namespace SafetyCenter.Toml

/-- Digits with single underscores between them, and the rest. The underscores are dropped. -/
def moreDigits (isDigit : Char → Bool) : List Char → List Char × List Char
  | '_' :: c :: cs =>
    if isDigit c then
      let (ds, rest) := moreDigits isDigit cs
      (c :: ds, rest)
    else
      ([], '_' :: c :: cs)
  | c :: cs =>
    if isDigit c then
      let (ds, rest) := moreDigits isDigit cs
      (c :: ds, rest)
    else
      ([], c :: cs)
  | [] => ([], [])

/-- At least one digit, then digits with single underscores between them. -/
def digits (isDigit : Char → Bool) : Reader (List Char)
  | c :: cs =>
    if isDigit c then
      let (ds, rest) := moreDigits isDigit cs
      some (c :: ds, rest)
    else
      none
  | [] => none

/-- Digits of a decimal number: a single zero, or digits that do not start with a zero. -/
def wholeDigits : Reader (List Char)
  | '0' :: cs => some (['0'], cs)
  | cs => digits Numeral.isDigit cs

def int64? (base : Nat) (negative : Bool) (ds : List Char) : Option Tree :=
  let n : Int := Numeral.value base 0 ds
  let i := if negative then -n else n
  if Numeral.isInt64 i then some (.int i) else none

/-- An integer, decimal with a sign or in another base without one. -/
def integer : Reader Tree := fun cs =>
  let based (base : Nat) (isDigit : Char → Bool) (cs : List Char) : Option (Tree × List Char) :=
    match digits isDigit cs with
    | none => none
    | some (ds, rest) => (int64? base false ds).map (·, rest)
  match cs with
  | '0' :: 'x' :: cs => based 16 isHexDigit cs
  | '0' :: 'o' :: cs => based 8 (fun c => '0' ≤ c && c ≤ '7') cs
  | '0' :: 'b' :: cs => based 2 (fun c => c = '0' || c = '1') cs
  | cs =>
    let (negative, cs) := Numeral.takeSign cs
    match wholeDigits cs with
    | none => none
    | some (ds, rest) => (int64? 10 negative ds).map (·, rest)

def fraction : Reader (List Char)
  | '.' :: cs => digits Numeral.isDigit cs
  | _ => none

def exponent : Reader Int
  | c :: cs =>
    if c = 'e' || c = 'E' then
      let (negative, cs) := Numeral.takeSign cs
      match digits Numeral.isDigit cs with
      | none => none
      | some (ds, rest) =>
        let n : Int := Numeral.value 10 0 ds
        some (if negative then -n else n, rest)
    else
      none
  | [] => none

/-- A floating-point number with a fraction, an exponent, or both. A positive one that is too large is
refused. -/
def decimal : Reader Tree := fun cs =>
  let (negative, cs) := Numeral.takeSign cs
  let finish (whole fraction : List Char) (e : Int) (rest : List Char) : Option (Tree × List Char) :=
    match Binary64.ofDecimal negative (Numeral.value 10 0 (whole ++ fraction))
        (e - fraction.length) with
    | .infinite false => none
    | f => some (.float f, rest)
  match wholeDigits cs with
  | none => none
  | some (whole, rest) =>
    match rest with
    | '.' :: _ =>
      match fraction rest with
      | none => none
      | some (ds, rest) =>
        match rest with
        | 'e' :: _ | 'E' :: _ => (exponent rest).bind fun (e, rest) => finish whole ds e rest
        | rest => finish whole ds 0 rest
    | rest => (exponent rest).bind fun (e, rest) => finish whole [] e rest

/-- An infinity or no number, with or without a sign. -/
def special : Reader Tree := fun cs =>
  let (negative, cs) := Numeral.takeSign cs
  match cs with
  | 'i' :: 'n' :: 'f' :: cs => some (.float (.infinite negative), cs)
  | 'n' :: 'a' :: 'n' :: cs => some (.float .nan, cs)
  | _ => none

/-- A number of exactly `count` digits from `least` to `greatest`. -/
def fixed (count least greatest : Nat) : Reader Nat := fun cs =>
  let ds := cs.take count
  let n := Numeral.value 10 0 ds
  if ds.length = count && ds.all Numeral.isDigit && least ≤ n && n ≤ greatest then
    some (n, cs.drop count)
  else
    none

def daysIn (year month : Nat) : Nat :=
  if month = 2 then
    if year % 4 = 0 && (year % 100 ≠ 0 || year % 400 = 0) then 29 else 28
  else if month = 4 || month = 6 || month = 9 || month = 11 then 30
  else 31

def date : Reader (List Char) := fun cs => do
  let (year, rest) ← fixed 4 0 9999 cs
  let '-' :: rest := rest | none
  let (month, rest) ← fixed 2 1 12 rest
  let '-' :: rest := rest | none
  let (_, rest) ← fixed 2 1 (daysIn year month) rest
  return (cs.take 10, rest)

/-- The fraction of a second as it is written: at most nine digits, without zeros at the end. -/
def secondFraction (ds : List Char) : List Char :=
  match (ds.take 9).reverse.dropWhile (· = '0') with
  | [] => []
  | ds => '.' :: ds.reverse

/-- A time of day, in the text that it is written with. -/
def time : Reader (List Char) := fun cs => do
  let (_, rest) ← fixed 2 0 23 cs
  let ':' :: rest := rest | none
  let (_, rest) ← fixed 2 0 59 rest
  let ':' :: rest := rest | none
  let (_, rest) ← fixed 2 0 60 rest
  let text := cs.take 8
  match rest with
  | '.' :: rest =>
    let ds := rest.takeWhile Numeral.isDigit
    if ds.isEmpty then none
    else return (text ++ secondFraction ds, rest.dropWhile Numeral.isDigit)
  | rest => return (text, rest)

/-- Hours and minutes behind a sign. No distance is written with a plus sign. -/
def signedOffset (sign : Char) : Reader (List Char) := fun cs => do
  let (hours, rest) ← fixed 2 0 23 cs
  let ':' :: rest := rest | none
  let (minutes, rest) ← fixed 2 0 59 rest
  let sign := if hours = 0 && minutes = 0 then '+' else sign
  return (sign :: cs.take 5, rest)

/-- The distance from universal time, in the text that it is written with. -/
def offset : Reader (List Char)
  | 'Z' :: cs | 'z' :: cs => some (['Z'], cs)
  | '+' :: cs => signedOffset '+' cs
  | '-' :: cs => signedOffset '-' cs
  | _ => none

/-- A date, a time, or a date and a time with or without an offset. -/
def moment : Reader Tree := fun cs =>
  let text (s : List Char) : Tree := .text (String.ofList s)
  match date cs with
  | none => (time cs).map fun (t, rest) => (text t, rest)
  | some (d, rest) =>
    let timed := match rest with
      | c :: rest => if c = 'T' || c = 't' || c = ' ' then time rest else none
      | [] => none
    match timed with
    | none => some (text d, rest)
    | some (t, rest) =>
      match offset rest with
      | none => some (text (d ++ 'T' :: t), rest)
      | some (o, rest) => some (text (d ++ 'T' :: t ++ o), rest)

def number : Reader Tree := fun cs =>
  match moment cs with
  | some read => some read
  | none =>
    match decimal cs with
    | some read => some read
    | none =>
      match special cs with
      | some read => some read
      | none => integer cs

end SafetyCenter.Toml
