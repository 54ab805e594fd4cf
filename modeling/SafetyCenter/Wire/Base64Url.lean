/-!
Base64 with the URL-safe alphabet, without padding. `encode` writes each three bytes as four
symbols and a shorter rest as two or three. `decode` accepts what `encode` writes and nothing else:
no padding, and zero in the bits that a last symbol has to spare.
-/

namespace SafetyCenter.Base64Url

/-- The symbol of a six bit number. -/
def symbol (n : Nat) : Char :=
  if n < 26 then Char.ofNat (65 + n)
  else if n < 52 then Char.ofNat (71 + n)
  else if n < 62 then Char.ofNat (n - 4)
  else if n = 62 then '-'
  else '_'

/-- The six bit number of a symbol, given as its byte. -/
def sextet? (b : UInt8) : Option Nat :=
  if 65 ≤ b && b ≤ 90 then some (b.toNat - 65)
  else if 97 ≤ b && b ≤ 122 then some (b.toNat - 71)
  else if 48 ≤ b && b ≤ 57 then some (b.toNat + 4)
  else if b = 45 then some 62
  else if b = 95 then some 63
  else none

/-- The byte of the padding sign, which this form never uses. -/
def padding : UInt8 := 61

def encode : List UInt8 → List Char
  | a :: b :: c :: bs =>
    symbol (a.toNat / 4) :: symbol (a.toNat % 4 * 16 + b.toNat / 16) ::
      symbol (b.toNat % 16 * 4 + c.toNat / 64) :: symbol (c.toNat % 64) :: encode bs
  | [a, b] =>
    [symbol (a.toNat / 4), symbol (a.toNat % 4 * 16 + b.toNat / 16), symbol (b.toNat % 16 * 4)]
  | [a] => [symbol (a.toNat / 4), symbol (a.toNat % 4 * 16)]
  | [] => []

/-- Why bytes are no base64 text. Offsets count bytes from the start of the text. -/
inductive Fault where
  /-- a byte outside the alphabet, or padding where none may stand -/
  | invalidByte (byte : UInt8) (offset : Nat)
  /-- the text ends with too few symbols to make a byte -/
  | invalidLength (length : Nat)
  /-- the last symbol has bits set that belong to no byte -/
  | spareBits (byte : UInt8) (offset : Nat)
  /-- the text is padded -/
  | padded
  deriving Repr, DecidableEq

def Fault.message : Fault → String
  | .invalidByte byte offset => s!"Invalid symbol {byte.toNat}, offset {offset}."
  | .invalidLength length => s!"Invalid input length: {length}"
  | .spareBits byte offset => s!"Invalid last symbol {byte.toNat}, offset {offset}."
  | .padded => "Invalid padding"

/-- The numbers of the leading symbols, and what stands from the first byte that is none. -/
def sextets : List UInt8 → List Nat × List UInt8
  | [] => ([], [])
  | b :: bs =>
    match sextet? b with
    | some n =>
      let (ns, rest) := sextets bs
      (n :: ns, rest)
    | none => ([], b :: bs)

/-- The bytes of a list of six bit numbers. Bits that fill no byte are dropped. -/
def assemble : List Nat → List UInt8
  | a :: b :: c :: d :: ns =>
    UInt8.ofNat (a * 4 + b / 16) :: UInt8.ofNat (b % 16 * 16 + c / 4) ::
      UInt8.ofNat (c % 4 * 64 + d) :: assemble ns
  | [a, b, c] => [UInt8.ofNat (a * 4 + b / 16), UInt8.ofNat (b % 16 * 16 + c / 4)]
  | [a, b] => [UInt8.ofNat (a * 4 + b / 16)]
  | _ => []

/-- Whether the last of `count` symbols, with number `n`, has bits to spare that are not zero. -/
def hasSpareBits (count n : Nat) : Bool :=
  match count % 4 with
  | 2 => n % 16 ≠ 0
  | 3 => n % 4 ≠ 0
  | _ => false

/-- Reads the last group of up to four bytes. It starts at `offset`, and `before` symbols of it
were read. The answer is the numbers of its symbols and whether padding follows them. -/
def lastGroup (offset before : Nat) : List UInt8 → Except Fault (List Nat × Bool)
  | [] => .ok ([], false)
  | b :: bs =>
    if b = padding then
      if before < 2 then .error (.invalidByte b (offset + before))
      else if bs.all (· = padding) then .ok ([], true)
      else .error (.invalidByte b (offset + before))
    else
      match sextet? b with
      | none => .error (.invalidByte b (offset + before))
      | some n => (lastGroup offset (before + 1) bs).map fun (ns, padded) => (n :: ns, padded)

/-- Where the last group of a text of `length` bytes starts. -/
def lastGroupStart (length : Nat) : Nat :=
  (length - 1) / 4 * 4

/-- The last byte of a text with one byte too many, if it is neither a symbol nor padding. -/
def strayByte? (bs : List UInt8) : Option UInt8 :=
  if bs.length % 4 = 1 then
    bs.getLast?.filter fun b => b ≠ padding && (sextet? b).isNone
  else
    none

def decode (bs : List UInt8) : Except Fault (List UInt8) :=
  match strayByte? bs with
  | some b => .error (.invalidByte b (bs.length - 1))
  | none =>
    let start := lastGroupStart bs.length
    match sextets (bs.take start) with
    | (ns, b :: _) => .error (.invalidByte b ns.length)
    | (ns, []) =>
      match lastGroup start 0 (bs.drop start) with
      | .error fault => .error fault
      | .ok (last, padded) =>
        if bs ≠ [] ∧ last.length < 2 then .error (.invalidLength (start + last.length))
        else if padded then .error .padded
        else if hasSpareBits last.length (last.getLastD 0) then
          .error (.spareBits (bs.getLastD 0) (bs.length - 1))
        else .ok (assemble (ns ++ last))

end SafetyCenter.Base64Url
