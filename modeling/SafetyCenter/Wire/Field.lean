import SafetyCenter.Wire.Utf8

namespace SafetyCenter.Field

/-- A number in `width` bytes, least byte first. A number that is too large loses its high bytes. -/
def ofNat : Nat → Nat → List UInt8
  | 0, _ => []
  | width + 1, n => UInt8.ofNat (n % 256) :: ofNat width (n / 256)

/-- The number that bytes stand for, least byte first. -/
def value : List UInt8 → Nat
  | [] => 0
  | b :: bs => b.toNat + 256 * value bs

/-- A text: its length in eight bytes, then its bytes. -/
def ofText (s : String) : List UInt8 :=
  ofNat 8 (Utf8.ofText s).length ++ Utf8.ofText s

/-- Why bytes are not the fields that were wanted. -/
inductive Fault where
  /-- the bytes end inside a number or a length -/
  | endOfBytes
  /-- a text is declared longer than the bytes that are left -/
  | textTooLong
  /-- a text is not UTF-8 -/
  | notUtf8 (fault : Utf8.Fault)
  /-- bytes are left after the last field -/
  | trailingBytes
  deriving Repr, DecidableEq

def Fault.message : Fault → String
  | .endOfBytes => "io error: unexpected end of file"
  | .textTooLong => "io error: "
  | .notUtf8 fault => "string is not valid utf8: " ++ fault.message
  | .trailingBytes => "Slice had bytes remaining after deserialization"

/-- Takes one value off the front of the bytes. -/
abbrev Reader (α : Type) := List UInt8 → Except Fault (α × List UInt8)

def number (width : Nat) : Reader Nat := fun bs =>
  if bs.length < width then .error .endOfBytes
  else .ok (value (bs.take width), bs.drop width)

def text : Reader String := fun bs =>
  match number 8 bs with
  | .error fault => .error fault
  | .ok (length, rest) =>
    if rest.length < length then .error .textTooLong
    else
      match Utf8.toText (rest.take length) with
      | .error fault => .error (.notUtf8 fault)
      | .ok s => .ok (s, rest.drop length)

/-- Reads a record that must use up all bytes. -/
def all {α : Type} (read : Reader α) (bs : List UInt8) : Except Fault α :=
  match read bs with
  | .error fault => .error fault
  | .ok (a, []) => .ok a
  | .ok (_, _ :: _) => .error .trailingBytes

end SafetyCenter.Field
