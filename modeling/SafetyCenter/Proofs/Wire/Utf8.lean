import SafetyCenter.Wire.Utf8

set_option autoImplicit false

namespace SafetyCenter.Utf8

theorem isContinuation_iff (b : UInt8) :
    isContinuation b = true ↔ 0x80 ≤ b.toNat ∧ b.toNat < 0xC0 := by
  simp [isContinuation, UInt8.le_iff_toNat_le, UInt8.lt_iff_toNat_lt]

theorem isSecondOfThree_iff (lead b : UInt8) :
    isSecondOfThree lead b = true ↔
      0x80 ≤ b.toNat ∧ b.toNat < 0xC0 ∧ (lead.toNat = 0xE0 → 0xA0 ≤ b.toNat) ∧
        (lead.toNat = 0xED → b.toNat < 0xA0) := by
  simp only [isSecondOfThree, isContinuation, ← UInt8.toNat_inj, UInt8.le_iff_toNat_le,
    UInt8.lt_iff_toNat_lt, UInt8.reduceToNat]
  split
  · simp only [Bool.and_eq_true, decide_eq_true_eq]
    omega
  · split <;> simp only [Bool.and_eq_true, decide_eq_true_eq] <;> omega

theorem isSecondOfFour_iff (lead b : UInt8) :
    isSecondOfFour lead b = true ↔
      0x80 ≤ b.toNat ∧ b.toNat < 0xC0 ∧ (lead.toNat = 0xF0 → 0x90 ≤ b.toNat) ∧
        (lead.toNat = 0xF4 → b.toNat < 0x90) := by
  simp only [isSecondOfFour, isContinuation, ← UInt8.toNat_inj, UInt8.le_iff_toNat_le,
    UInt8.lt_iff_toNat_lt, UInt8.reduceToNat]
  split
  · simp only [Bool.and_eq_true, decide_eq_true_eq]
    omega
  · split <;> simp only [Bool.and_eq_true, decide_eq_true_eq] <;> omega

theorem toNat_byte {n : Nat} (small : n < 0x100) : (UInt8.ofNat n).toNat = n :=
  UInt8.toNat_ofNat_of_lt' small

theorem byte_eq {b : UInt8} {n : Nat} (same : n = b.toNat) : UInt8.ofNat n = b := by
  rw [same, UInt8.ofNat_toNat]

theorem toNat_ofNat_of_valid {n : Nat} (valid : n < 0xD800 ∨ 0xDFFF < n ∧ n < 0x110000) :
    (Char.ofNat n).toNat = n := by
  have valid : n.isValidChar := valid
  rw [Char.ofNat, dif_pos valid]
  rfl

/-- Code points end before `0x110000` and leave out the surrogates. -/
theorem toNat_valid (c : Char) : c.toNat < 0xD800 ∨ 0xDFFF < c.toNat ∧ c.toNat < 0x110000 :=
  c.valid

/-- The bytes of a character are those of the standard library. -/
theorem encodeChar_eq_utf8EncodeChar (c : Char) : encodeChar c = String.utf8EncodeChar c := by
  have valid := toNat_valid c
  have same : c.val.toNat = c.toNat := rfl
  unfold encodeChar String.utf8EncodeChar
  rw [same]
  generalize c.toNat = n at valid
  have one : n ≤ 0x7F ↔ n < 0x80 := by omega
  have two : n ≤ 0x7FF ↔ n < 0x800 := by omega
  have three : n ≤ 0xFFFF ↔ n < 0x10000 := by omega
  simp only [one, two, three]
  split
  · rfl
  · split
    · simp only [Nat.mod_eq_of_lt (show n / 0x40 < 0x20 by omega), Nat.add_comm]
    · split
      · simp only [Nat.mod_eq_of_lt (show n / 0x1000 < 0x10 by omega), Nat.add_comm]
      · simp only [Nat.mod_eq_of_lt (show n / 0x40000 < 0x8 by omega), Nat.add_comm]

theorem length_ofText (s : String) : (ofText s).length = s.utf8ByteSize := by
  rw [← String.size_toByteArray, ← String.utf8Encode_toList, List.utf8Encode, List.size_toByteArray,
    ofText, encode, funext encodeChar_eq_utf8EncodeChar]

/-! One character, by the number of its bytes: what `decode` reads from them, and that these are the
bytes of what it reads. -/

theorem decode_one (i : Nat) (b₀ : UInt8) (bs : List UInt8) (lead : b₀.toNat < 0x80) :
    decode i (b₀ :: bs) = (decode (i + 1) bs).map (Char.ofNat b₀.toNat :: ·) := by
  rw [decode.eq_def]
  simp only [UInt8.lt_iff_toNat_lt, UInt8.reduceToNat, lead, ↓reduceIte]

theorem decode_two (i : Nat) (b₀ b₁ : UInt8) (bs : List UInt8)
    (lead : 0xC2 ≤ b₀.toNat ∧ b₀.toNat < 0xE0) (second : isContinuation b₁ = true) :
    decode i (b₀ :: b₁ :: bs) =
      (decode (i + 2) bs).map (Char.ofNat ((b₀.toNat - 0xC0) * 0x40 + payload b₁) :: ·) := by
  have notOne : ¬ b₀.toNat < 0x80 := by omega
  rw [decode.eq_def]
  simp only [UInt8.le_iff_toNat_le, UInt8.lt_iff_toNat_lt, UInt8.reduceToNat, Bool.and_eq_true,
    decide_eq_true_eq, notOne, lead, second, and_self, ↓reduceIte]

theorem decode_three (i : Nat) (b₀ b₁ b₂ : UInt8) (bs : List UInt8)
    (lead : 0xE0 ≤ b₀.toNat ∧ b₀.toNat < 0xF0) (second : isSecondOfThree b₀ b₁ = true)
    (third : isContinuation b₂ = true) :
    decode i (b₀ :: b₁ :: b₂ :: bs) =
      (decode (i + 3) bs).map
        (Char.ofNat ((b₀.toNat - 0xE0) * 0x1000 + payload b₁ * 0x40 + payload b₂) :: ·) := by
  have notOne : ¬ b₀.toNat < 0x80 := by omega
  have notTwo : ¬ (0xC2 ≤ b₀.toNat ∧ b₀.toNat < 0xE0) := by omega
  rw [decode.eq_def]
  simp only [UInt8.le_iff_toNat_le, UInt8.lt_iff_toNat_lt, UInt8.reduceToNat, Bool.and_eq_true,
    decide_eq_true_eq, notOne, notTwo, lead, second, third, and_self, ↓reduceIte]

theorem decode_four (i : Nat) (b₀ b₁ b₂ b₃ : UInt8) (bs : List UInt8)
    (lead : 0xF0 ≤ b₀.toNat ∧ b₀.toNat < 0xF5) (second : isSecondOfFour b₀ b₁ = true)
    (third : isContinuation b₂ = true) (fourth : isContinuation b₃ = true) :
    decode i (b₀ :: b₁ :: b₂ :: b₃ :: bs) =
      (decode (i + 4) bs).map
        (Char.ofNat ((b₀.toNat - 0xF0) * 0x40000 + payload b₁ * 0x1000 + payload b₂ * 0x40
          + payload b₃) :: ·) := by
  have notOne : ¬ b₀.toNat < 0x80 := by omega
  have notTwo : ¬ (0xC2 ≤ b₀.toNat ∧ b₀.toNat < 0xE0) := by omega
  have notThree : ¬ (0xE0 ≤ b₀.toNat ∧ b₀.toNat < 0xF0) := by omega
  rw [decode.eq_def]
  simp only [UInt8.le_iff_toNat_le, UInt8.lt_iff_toNat_lt, UInt8.reduceToNat, Bool.and_eq_true,
    decide_eq_true_eq, notOne, notTwo, notThree, lead, second, third, fourth, and_self, ↓reduceIte]

theorem encodeChar_one {b₀ : UInt8} (lead : b₀.toNat < 0x80) :
    encodeChar (Char.ofNat b₀.toNat) = [b₀] := by
  have code : (Char.ofNat b₀.toNat).toNat = b₀.toNat := toNat_ofNat_of_valid (by omega)
  simp only [encodeChar, code, lead, ↓reduceIte, UInt8.ofNat_toNat]

theorem encodeChar_two {b₀ b₁ : UInt8} (lead : 0xC2 ≤ b₀.toNat ∧ b₀.toNat < 0xE0)
    (second : isContinuation b₁ = true) :
    encodeChar (Char.ofNat ((b₀.toNat - 0xC0) * 0x40 + payload b₁)) = [b₀, b₁] := by
  rw [isContinuation_iff] at second
  unfold payload
  generalize value : (b₀.toNat - 0xC0) * 0x40 + b₁.toNat % 0x40 = n
  have code : (Char.ofNat n).toNat = n := toNat_ofNat_of_valid (by omega)
  have notOne : ¬ n < 0x80 := by omega
  have two : n < 0x800 := by omega
  simp only [encodeChar, code, notOne, two, ↓reduceIte]
  rw [byte_eq (b := b₀) (by omega), byte_eq (b := b₁) (by omega)]

theorem encodeChar_three {b₀ b₁ b₂ : UInt8} (lead : 0xE0 ≤ b₀.toNat ∧ b₀.toNat < 0xF0)
    (second : isSecondOfThree b₀ b₁ = true) (third : isContinuation b₂ = true) :
    encodeChar (Char.ofNat ((b₀.toNat - 0xE0) * 0x1000 + payload b₁ * 0x40 + payload b₂)) =
      [b₀, b₁, b₂] := by
  rw [isSecondOfThree_iff] at second
  rw [isContinuation_iff] at third
  unfold payload
  generalize value : (b₀.toNat - 0xE0) * 0x1000 + b₁.toNat % 0x40 * 0x40 + b₂.toNat % 0x40 = n
  have code : (Char.ofNat n).toNat = n := toNat_ofNat_of_valid (by omega)
  have notOne : ¬ n < 0x80 := by omega
  have notTwo : ¬ n < 0x800 := by omega
  have three : n < 0x10000 := by omega
  simp only [encodeChar, code, notOne, notTwo, three, ↓reduceIte]
  rw [byte_eq (b := b₀) (by omega), byte_eq (b := b₁) (by omega), byte_eq (b := b₂) (by omega)]

theorem encodeChar_four {b₀ b₁ b₂ b₃ : UInt8} (lead : 0xF0 ≤ b₀.toNat ∧ b₀.toNat < 0xF5)
    (second : isSecondOfFour b₀ b₁ = true) (third : isContinuation b₂ = true)
    (fourth : isContinuation b₃ = true) :
    encodeChar (Char.ofNat ((b₀.toNat - 0xF0) * 0x40000 + payload b₁ * 0x1000 + payload b₂ * 0x40
      + payload b₃)) = [b₀, b₁, b₂, b₃] := by
  rw [isSecondOfFour_iff] at second
  rw [isContinuation_iff] at third fourth
  unfold payload
  generalize value : (b₀.toNat - 0xF0) * 0x40000 + b₁.toNat % 0x40 * 0x1000 +
    b₂.toNat % 0x40 * 0x40 + b₃.toNat % 0x40 = n
  have code : (Char.ofNat n).toNat = n := toNat_ofNat_of_valid (by omega)
  have notOne : ¬ n < 0x80 := by omega
  have notTwo : ¬ n < 0x800 := by omega
  have notThree : ¬ n < 0x10000 := by omega
  simp only [encodeChar, code, notOne, notTwo, notThree, ↓reduceIte]
  rw [byte_eq (b := b₀) (by omega), byte_eq (b := b₁) (by omega), byte_eq (b := b₂) (by omega),
    byte_eq (b := b₃) (by omega)]

theorem payload_byte {n : Nat} (small : n < 0x40) : payload (UInt8.ofNat (0x80 + n)) = n := by
  rw [payload, toNat_byte (by omega)]
  omega

theorem isContinuation_byte {n : Nat} (small : n < 0x40) :
    isContinuation (UInt8.ofNat (0x80 + n)) = true := by
  rw [isContinuation_iff, toNat_byte (by omega)]
  omega

/-- The bytes of a character are read back as that character, whatever follows them. -/
theorem decode_encodeChar_append (i : Nat) (c : Char) (bs : List UInt8) :
    decode i (encodeChar c ++ bs) = (decode (i + (encodeChar c).length) bs).map (c :: ·) := by
  have valid := toNat_valid c
  have same : Char.ofNat c.toNat = c := Char.ofNat_toNat c
  unfold encodeChar
  generalize c.toNat = n at valid same ⊢
  dsimp only
  split
  · have lead : (UInt8.ofNat n).toNat = n := toNat_byte (by omega)
    simp only [List.singleton_append, List.length_singleton]
    rw [decode_one _ _ _ (by omega), lead, same]
  · split
    · have lead : (UInt8.ofNat (0xC0 + n / 0x40)).toNat = 0xC0 + n / 0x40 := toNat_byte (by omega)
      have code : (0xC0 + n / 0x40 - 0xC0) * 0x40 + n % 0x40 = n := by omega
      simp only [List.cons_append, List.nil_append, List.length_cons, List.length_nil]
      rw [decode_two _ _ _ _ (by omega) (isContinuation_byte (by omega)), lead,
        payload_byte (by omega), code, same]
    · split
      · have lead : (UInt8.ofNat (0xE0 + n / 0x1000)).toNat = 0xE0 + n / 0x1000 :=
          toNat_byte (by omega)
        have middle : (UInt8.ofNat (0x80 + n / 0x40 % 0x40)).toNat = 0x80 + n / 0x40 % 0x40 :=
          toNat_byte (by omega)
        have second : isSecondOfThree (UInt8.ofNat (0xE0 + n / 0x1000))
            (UInt8.ofNat (0x80 + n / 0x40 % 0x40)) = true := by
          rw [isSecondOfThree_iff, lead, middle]
          omega
        have code :
            (0xE0 + n / 0x1000 - 0xE0) * 0x1000 + n / 0x40 % 0x40 * 0x40 + n % 0x40 = n := by
          omega
        simp only [List.cons_append, List.nil_append, List.length_cons, List.length_nil]
        rw [decode_three _ _ _ _ _ (by omega) second (isContinuation_byte (by omega)), lead,
          payload_byte (by omega), payload_byte (by omega), code, same]
      · have lead : (UInt8.ofNat (0xF0 + n / 0x40000)).toNat = 0xF0 + n / 0x40000 :=
          toNat_byte (by omega)
        have middle : (UInt8.ofNat (0x80 + n / 0x1000 % 0x40)).toNat = 0x80 + n / 0x1000 % 0x40 :=
          toNat_byte (by omega)
        have second : isSecondOfFour (UInt8.ofNat (0xF0 + n / 0x40000))
            (UInt8.ofNat (0x80 + n / 0x1000 % 0x40)) = true := by
          rw [isSecondOfFour_iff, lead, middle]
          omega
        have code : (0xF0 + n / 0x40000 - 0xF0) * 0x40000 + n / 0x1000 % 0x40 * 0x1000 +
            n / 0x40 % 0x40 * 0x40 + n % 0x40 = n := by
          omega
        simp only [List.cons_append, List.nil_append, List.length_cons, List.length_nil]
        rw [decode_four _ _ _ _ _ _ (by omega) second (isContinuation_byte (by omega))
          (isContinuation_byte (by omega)), lead, payload_byte (by omega), payload_byte (by omega),
          payload_byte (by omega), code, same]

theorem decode_encode (i : Nat) (cs : List Char) : decode i (encode cs) = .ok cs := by
  induction cs generalizing i with
  | nil => rw [encode_nil, decode]
  | cons c cs ih =>
    rw [encode_cons, decode_encodeChar_append, ih]
    rfl

theorem lead_range {b low high : UInt8} (inside : (decide (low ≤ b) && decide (b < high)) = true) :
    low.toNat ≤ b.toNat ∧ b.toNat < high.toNat := by
  simpa [UInt8.le_iff_toNat_le, UInt8.lt_iff_toNat_lt] using inside

theorem map_cons_eq_ok {c : Char} {r : Except Fault (List Char)} {cs : List Char}
    (success : r.map (c :: ·) = .ok cs) : ∃ rest, r = .ok rest ∧ cs = c :: rest := by
  cases r with
  | error fault => cases success
  | ok rest => exact ⟨rest, rfl, (Except.ok.inj success).symm⟩

/-- Bytes that are read are the bytes of what was read: no second spelling is accepted. -/
theorem eq_encode_of_decode {i : Nat} {bs : List UInt8} {cs : List Char}
    (success : decode i bs = .ok cs) : bs = encode cs := by
  fun_induction decode i bs generalizing cs
  case case1 => cases success; rfl
  case case2 i b₀ bs low ih =>
    obtain ⟨rest, read, rfl⟩ := map_cons_eq_ok success
    rw [encode_cons, encodeChar_one (by simpa [UInt8.lt_iff_toNat_lt] using low), ← ih read]
    rfl
  case case4 i b₀ _ lead b₁ bs second ih =>
    obtain ⟨rest, read, rfl⟩ := map_cons_eq_ok success
    rw [encode_cons, encodeChar_two (lead_range lead) second, ← ih read]
    rfl
  case case8 i b₀ _ _ lead b₁ second b₂ bs third ih =>
    obtain ⟨rest, read, rfl⟩ := map_cons_eq_ok success
    rw [encode_cons, encodeChar_three (lead_range lead) second third, ← ih read]
    rfl
  case case14 i b₀ _ _ _ lead b₁ second b₂ third b₃ bs fourth ih =>
    obtain ⟨rest, read, rfl⟩ := map_cons_eq_ok success
    rw [encode_cons, encodeChar_four (lead_range lead) second third fourth, ← ih read]
    rfl
  all_goals cases success

theorem decode_eq_ok_iff {i : Nat} {bs : List UInt8} {cs : List Char} :
    decode i bs = .ok cs ↔ bs = encode cs := by
  constructor
  · exact eq_encode_of_decode
  · intro spelled
    rw [spelled, decode_encode]

theorem toText_eq_ok_iff {bs : List UInt8} {s : String} : toText bs = .ok s ↔ bs = ofText s := by
  unfold toText ofText
  constructor
  · intro success
    cases read : decode 0 bs with
    | error fault =>
      rw [read] at success
      cases success
    | ok cs =>
      rw [read] at success
      cases success
      rw [String.toList_ofList]
      exact eq_encode_of_decode read
  · intro spelled
    rw [spelled, decode_encode]
    exact congrArg Except.ok (String.ofList_toList (s := s))

end SafetyCenter.Utf8
