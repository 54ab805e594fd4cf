import SafetyCenter.Number.Binary64

namespace SafetyCenter.Numeral

def isDigit (c : Char) : Bool :=
  '0' ≤ c && c ≤ '9'

/-- The number that digits of a base stand for, after a number that was read before. -/
def value (base : Nat) (before : Nat) : List Char → Nat
  | [] => before
  | c :: cs =>
    let d :=
      if isDigit c then c.toNat - '0'.toNat
      else if 'a' ≤ c && c ≤ 'z' then c.toNat - 'a'.toNat + 10
      else c.toNat - 'A'.toNat + 10
    value base (before * base + d) cs

/-- A natural number: digits and nothing else, at least one. -/
def nat? (cs : List Char) : Option Nat :=
  if cs.isEmpty || !cs.all isDigit then none else some (value 10 0 cs)

/-- Takes a sign off the front. The answer is whether it is a minus sign. -/
def takeSign : List Char → Bool × List Char
  | '-' :: cs => (true, cs)
  | '+' :: cs => (false, cs)
  | cs => (false, cs)

def greatestNat : Nat := 18446744073709551615

def isInt64 (i : Int) : Bool :=
  -9223372036854775808 ≤ i && i ≤ 9223372036854775807

/-- A natural number of 64 bits, possibly with a plus sign. -/
def nat64? (s : String) : Option Nat :=
  let cs := match s.toList with
    | '+' :: cs => cs
    | cs => cs
  (nat? cs).filter (· ≤ greatestNat)

/-- An integer of 64 bits, possibly with a sign. -/
def int64? (s : String) : Option Int :=
  let (negative, cs) := takeSign s.toList
  (nat? cs).bind fun n =>
    let i : Int := if negative then -n else n
    if isInt64 i then some i else none

/-- The exponent at the end of a number: nothing, or a sign and digits behind an `e`. -/
def exponent? : List Char → Option Int
  | [] => some 0
  | c :: cs =>
    if c = 'e' || c = 'E' then
      let (negative, cs) := takeSign cs
      (nat? cs).map fun n => if negative then -(n : Int) else n
    else
      none

def lower (c : Char) : Char :=
  if 'A' ≤ c && c ≤ 'Z' then Char.ofNat (c.toNat + 32) else c

/-- A floating-point number: digits, possibly with a point among or beside them and an exponent behind
them, or the name of an infinity or of no number in any case. -/
def float? (s : String) : Option Binary64 :=
  let (negative, cs) := takeSign s.toList
  match String.ofList (cs.map lower) with
  | "inf" | "infinity" => some (.infinite negative)
  | "nan" => some .nan
  | _ =>
    let whole := cs.takeWhile isDigit
    let rest := cs.dropWhile isDigit
    let (fraction, rest) := match rest with
      | '.' :: rest => (rest.takeWhile isDigit, rest.dropWhile isDigit)
      | rest => ([], rest)
    if whole.isEmpty && fraction.isEmpty then none
    else
      (exponent? rest).map fun e =>
        .ofDecimal negative (value 10 0 (whole ++ fraction)) (e - fraction.length)

end SafetyCenter.Numeral
