/-!
Binary floating-point numbers of 64 bits, held exactly: a sign, a mantissa and a power of two. Here is
how a decimal number is rounded to one, how one is written with the fewest digits that read back, and
how one is rounded to a natural number.
-/

namespace SafetyCenter

/-- A number `± mantissa * 2 ^ exponent`, an infinity, or no number. -/
inductive Binary64 where
  | finite (negative : Bool) (mantissa : Nat) (exponent : Int)
  | infinite (negative : Bool)
  | nan
  deriving Repr, DecidableEq, Inhabited

namespace Binary64

/-- The number of places below the leading one of a full mantissa. -/
def places : Nat := 52

/-- The least full mantissa, with a one and then zeros. -/
def leastFull : Nat := Nat.pow 2 places

def leastExponent : Int := -1074

/-- The greatest exponent of a full mantissa. -/
def greatestExponent : Int := 971

/-- `num / den` rounded to the nearest natural number, a half to the even one. -/
def roundQuotient (num den : Nat) : Nat :=
  let q := num / den
  let r := num % den
  if 2 * r < den then q
  else if den < 2 * r then q + 1
  else if q % 2 = 0 then q else q + 1

/-- The numerator and the denominator of `num / den / 2 ^ e`. -/
def scale (num den : Nat) (e : Int) : Nat × Nat :=
  if e < 0 then (num * Nat.pow 2 e.natAbs, den) else (num, den * Nat.pow 2 e.natAbs)

/-- The exponent with which a positive quotient has a full mantissa, but none below the least one. -/
def exponentOf (num den : Nat) : Int :=
  let e : Int := (num.log2 : Int) - den.log2 - places
  let (n, d) := scale num den e
  let e := if n < d * leastFull then e - 1 else e
  max e leastExponent

/-- The number nearest to `± num / den`. -/
def ofQuotient (negative : Bool) (num den : Nat) : Binary64 :=
  if num = 0 then .finite negative 0 leastExponent
  else
    let e := exponentOf num den
    let (n, d) := scale num den e
    let m := roundQuotient n d
    let (m, e) := if m = 2 * leastFull then (leastFull, e + 1) else (m, e)
    if greatestExponent < e then .infinite negative else .finite negative m e

def digitCount (n : Nat) : Nat := (Nat.toDigits 10 n).length

/-- The number nearest to `± digits * 10 ^ exponent`. Exponents far outside of the range are not
computed with. -/
def ofDecimal (negative : Bool) (digits : Nat) (exponent : Int) : Binary64 :=
  let magnitude := exponent + digitCount digits
  if digits = 0 ∨ magnitude < -400 then .finite negative 0 leastExponent
  else if 400 < magnitude then .infinite negative
  else if exponent < 0 then ofQuotient negative digits (Nat.pow 10 exponent.natAbs)
  else ofQuotient negative (digits * Nat.pow 10 exponent.natAbs) 1

/-- Quarters of `2 ^ exponent` that a number may move down and still be the nearest one to the result.
Below a power of two numbers are closer to each other. -/
def quartersBelow (mantissa : Nat) (exponent : Int) : Nat :=
  if mantissa = leastFull ∧ leastExponent < exponent then 1 else 2

/-- Whether `c * 10 ^ k` reads back as `mantissa * 2 ^ exponent`. -/
def readsBack (mantissa : Nat) (exponent : Int) (c : Nat) (k : Int) : Bool :=
  let power := Nat.pow 2 exponent.natAbs
  let (unit, whole) := if exponent < 0 then (1, power) else (power, 1)
  let power := Nat.pow 10 k.natAbs
  let (ten, tenth) := if k < 0 then (1, power) else (power, 1)
  let value := 4 * c * ten * whole
  let low := (4 * mantissa - quartersBelow mantissa exponent) * unit * tenth
  let high := (4 * mantissa + 2) * unit * tenth
  if mantissa % 2 = 0 then low ≤ value && value ≤ high else low < value && value < high

/-- The number of units `10 ^ k` in `mantissa * 2 ^ exponent` that reads back, if there is one; of the
two neighbours the nearer one, and the upper one of two that are equally near. -/
def onGrid (mantissa : Nat) (exponent : Int) (k : Int) : Option Nat :=
  let (num, den) := scale mantissa 1 (-exponent)
  let power := Nat.pow 10 k.natAbs
  let (num, den) := if k < 0 then (num * power, den) else (num, den * power)
  let below := num / den
  let order := if 2 * (num % den) < den then [below, below + 1] else [below + 1, below]
  order.find? fun c => readsBack mantissa exponent c k

/-- The digits of the shortest decimal that reads back, on the grid of `10 ^ k` or a finer one. -/
def shortest (mantissa : Nat) (exponent : Int) : Nat → Int → Nat × Int
  | 0, k => (0, k)
  | n + 1, k =>
    match onGrid mantissa exponent k with
    | some c => (c, k)
    | none => shortest mantissa exponent n (k - 1)

/-- `digits * 10 ^ k` without an exponent. -/
def positional (digits : Nat) (k : Int) : List Char :=
  let ds := Nat.toDigits 10 digits
  if 0 ≤ k then ds ++ List.replicate k.toNat '0'
  else
    let places := k.natAbs
    let ds := List.replicate (places + 1 - ds.length) '0' ++ ds
    ds.take (ds.length - places) ++ '.' :: ds.drop (ds.length - places)

/-- A number with the fewest digits that read back, never with an exponent. -/
def text : Binary64 → String
  | .nan => "NaN"
  | .infinite negative => if negative then "-inf" else "inf"
  | .finite negative m e =>
    let sign := if negative then ['-'] else []
    if m = 0 then String.ofList (sign ++ ['0'])
    else
      let (digits, k) := shortest m e 640 309
      String.ofList (sign ++ positional digits k)

/-- The nearest natural number up to `limit`, a half upwards. What is negative or no number gives
zero. -/
def toNat (limit : Nat) : Binary64 → Nat
  | .nan => 0
  | .infinite negative => if negative then 0 else limit
  | .finite negative m e =>
    if negative then 0
    else
      let (num, den) := scale m 1 (-e)
      min limit ((2 * num + den) / (2 * den))

end Binary64

end SafetyCenter
