namespace SafetyCenter.Utf8

/-- The bytes of one character, one to four of them by its code point. -/
def encodeChar (c : Char) : List UInt8 :=
  let n := c.toNat
  if n < 0x80 then
    [UInt8.ofNat n]
  else if n < 0x800 then
    [UInt8.ofNat (0xC0 + n / 0x40), UInt8.ofNat (0x80 + n % 0x40)]
  else if n < 0x10000 then
    [UInt8.ofNat (0xE0 + n / 0x1000), UInt8.ofNat (0x80 + n / 0x40 % 0x40),
      UInt8.ofNat (0x80 + n % 0x40)]
  else
    [UInt8.ofNat (0xF0 + n / 0x40000), UInt8.ofNat (0x80 + n / 0x1000 % 0x40),
      UInt8.ofNat (0x80 + n / 0x40 % 0x40), UInt8.ofNat (0x80 + n % 0x40)]

def encode (cs : List Char) : List UInt8 :=
  cs.flatMap encodeChar

def ofText (s : String) : List UInt8 :=
  encode s.toList

@[simp] theorem encode_nil : encode [] = [] := rfl

@[simp] theorem encode_cons (c : Char) (cs : List Char) :
    encode (c :: cs) = encodeChar c ++ encode cs := by
  simp [encode]

/-- Where bytes stop being UTF-8. `start` is the index of the first byte of the offending sequence. -/
inductive Fault where
  /-- the `length` bytes from `start` cannot be continued to a character -/
  | invalid (length start : Nat)
  /-- the bytes end inside a sequence that was valid so far -/
  | incomplete (start : Nat)
  deriving Repr, DecidableEq

def Fault.message : Fault → String
  | .invalid length start => s!"invalid utf-8 sequence of {length} bytes from index {start}"
  | .incomplete start => s!"incomplete utf-8 byte sequence from index {start}"

/-- A byte that continues a character: `10xxxxxx`. -/
def isContinuation (b : UInt8) : Bool :=
  0x80 ≤ b && b < 0xC0

def payload (b : UInt8) : Nat :=
  b.toNat % 0x40

/-- The second byte of a three byte sequence: it excludes overlong forms and surrogates. -/
def isSecondOfThree (lead b : UInt8) : Bool :=
  if lead = 0xE0 then 0xA0 ≤ b && b < 0xC0
  else if lead = 0xED then 0x80 ≤ b && b < 0xA0
  else isContinuation b

/-- The second byte of a four byte sequence: it excludes overlong forms and code points past the last. -/
def isSecondOfFour (lead b : UInt8) : Bool :=
  if lead = 0xF0 then 0x90 ≤ b && b < 0xC0
  else if lead = 0xF4 then 0x80 ≤ b && b < 0x90
  else isContinuation b

/-- Reads characters until the bytes end or stop being UTF-8. `i` is the index of the first byte. -/
def decode (i : Nat) : List UInt8 → Except Fault (List Char)
  | [] => .ok []
  | b₀ :: bs =>
    if b₀ < 0x80 then
      (decode (i + 1) bs).map (Char.ofNat b₀.toNat :: ·)
    else if 0xC2 ≤ b₀ && b₀ < 0xE0 then
      match bs with
      | [] => .error (.incomplete i)
      | b₁ :: bs =>
        if isContinuation b₁ then
          (decode (i + 2) bs).map (Char.ofNat ((b₀.toNat - 0xC0) * 0x40 + payload b₁) :: ·)
        else
          .error (.invalid 1 i)
    else if 0xE0 ≤ b₀ && b₀ < 0xF0 then
      match bs with
      | [] => .error (.incomplete i)
      | b₁ :: bs =>
        if isSecondOfThree b₀ b₁ then
          match bs with
          | [] => .error (.incomplete i)
          | b₂ :: bs =>
            if isContinuation b₂ then
              (decode (i + 3) bs).map
                (Char.ofNat ((b₀.toNat - 0xE0) * 0x1000 + payload b₁ * 0x40 + payload b₂) :: ·)
            else
              .error (.invalid 2 i)
        else
          .error (.invalid 1 i)
    else if 0xF0 ≤ b₀ && b₀ < 0xF5 then
      match bs with
      | [] => .error (.incomplete i)
      | b₁ :: bs =>
        if isSecondOfFour b₀ b₁ then
          match bs with
          | [] => .error (.incomplete i)
          | b₂ :: bs =>
            if isContinuation b₂ then
              match bs with
              | [] => .error (.incomplete i)
              | b₃ :: bs =>
                if isContinuation b₃ then
                  (decode (i + 4) bs).map
                    (Char.ofNat ((b₀.toNat - 0xF0) * 0x40000 + payload b₁ * 0x1000
                      + payload b₂ * 0x40 + payload b₃) :: ·)
                else
                  .error (.invalid 3 i)
            else
              .error (.invalid 2 i)
        else
          .error (.invalid 1 i)
    else
      .error (.invalid 1 i)

/-- The text whose bytes are given, or the first fault in them. -/
def toText (bs : List UInt8) : Except Fault String :=
  (decode 0 bs).map String.ofList

end SafetyCenter.Utf8
