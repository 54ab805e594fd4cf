import Mathlib.Algebra.Group.Nat.Defs
import SafetyCenter.Proofs.Wire.Utf8
import SafetyCenter.Wire.Field

set_option autoImplicit false

namespace SafetyCenter.Field

theorem ofNat_length (width n : Nat) : (ofNat width n).length = width := by
  induction width generalizing n with
  | zero => rfl
  | succ width ih => simp only [ofNat, List.length_cons, ih]

theorem value_ofNat {width n : Nat} (small : n < 256 ^ width) : value (ofNat width n) = n := by
  induction width generalizing n with
  | zero =>
    rw [Nat.pow_zero] at small
    simp only [ofNat, value]
    omega
  | succ width ih =>
    have rest : n / 256 < 256 ^ width := by
      rw [Nat.pow_succ] at small
      exact Nat.div_lt_of_lt_mul (by omega)
    rw [ofNat, value, ih rest, Utf8.toNat_byte (Nat.mod_lt n (by decide))]
    omega

theorem value_lt (bs : List UInt8) : value bs < 256 ^ bs.length := by
  induction bs with
  | nil => decide
  | cons b bs ih =>
    have byte := b.toNat_lt
    rw [value, List.length_cons, Nat.pow_succ]
    omega

theorem ofNat_value (bs : List UInt8) : ofNat bs.length (value bs) = bs := by
  induction bs with
  | nil => rfl
  | cons b bs ih =>
    have byte := b.toNat_lt
    have low : (b.toNat + 256 * value bs) % 256 = b.toNat := by omega
    have high : (b.toNat + 256 * value bs) / 256 = value bs := by omega
    rw [List.length_cons, value, ofNat, low, high, ih, UInt8.ofNat_toNat]

theorem number_eq_ok_iff {width n : Nat} {bs rest : List UInt8} :
    number width bs = .ok (n, rest) ↔ n < 256 ^ width ∧ bs = ofNat width n ++ rest := by
  constructor
  · intro success
    unfold number at success
    split at success
    · cases success
    · rename_i long
      cases success
      have count : (bs.take width).length = width := by
        rw [List.length_take]
        omega
      have small := value_lt (bs.take width)
      have same := ofNat_value (bs.take width)
      rw [count] at small same
      exact ⟨small, by rw [same, List.take_append_drop]⟩
  · intro given
    obtain ⟨small, rfl⟩ := given
    have count := ofNat_length width n
    have long : ¬ (ofNat width n ++ rest).length < width := by
      rw [List.length_append]
      omega
    rw [number, if_neg long, List.take_left' count, List.drop_left' count, value_ofNat small]

/-- The number of bytes of a text can be written in eight bytes. -/
def Fits (s : String) : Prop :=
  s.utf8ByteSize < 2 ^ 64

instance (s : String) : Decidable (Fits s) := inferInstanceAs (Decidable (_ < _))

theorem fits_iff (s : String) : Fits s ↔ (Utf8.ofText s).length < 256 ^ 8 := by
  have bound : 256 ^ 8 = 2 ^ 64 := by decide
  rw [Fits, Utf8.length_ofText, bound]

theorem text_eq_ok_iff {s : String} {bs rest : List UInt8} :
    text bs = .ok (s, rest) ↔ Fits s ∧ bs = ofText s ++ rest := by
  constructor
  · intro success
    unfold text at success
    split at success
    · cases success
    · rename_i length body read
      obtain ⟨small, rfl⟩ := number_eq_ok_iff.mp read
      split at success
      · cases success
      · rename_i long
        split at success
        · cases success
        · rename_i s' spelled
          cases success
          have bytes := Utf8.toText_eq_ok_iff.mp spelled
          have count : (Utf8.ofText s).length = length := by
            rw [← bytes, List.length_take]
            omega
          refine ⟨by rwa [fits_iff, count], ?_⟩
          rw [ofText, count, ← bytes, List.append_assoc, List.take_append_drop]
  · intro given
    obtain ⟨fits, rfl⟩ := given
    have read : number 8 (ofText s ++ rest) =
        .ok ((Utf8.ofText s).length, Utf8.ofText s ++ rest) :=
      number_eq_ok_iff.mpr ⟨(fits_iff s).mp fits, List.append_assoc _ _ _⟩
    have long : ¬ (Utf8.ofText s ++ rest).length < (Utf8.ofText s).length := by
      rw [List.length_append]
      omega
    have spelled : Utf8.toText (Utf8.ofText s) = .ok s := Utf8.toText_eq_ok_iff.mpr rfl
    simp only [text, read, long, ↓reduceIte, List.take_left, List.drop_left, spelled]

/-- A sequence of readers succeeds exactly when the first one does and the others do on what it
leaves. -/
theorem bind_eq_ok_iff {α β : Type} {first : Except Fault α} {next : α → Except Fault β} {b : β} :
    (first >>= next) = .ok b ↔ ∃ a, first = .ok a ∧ next a = .ok b := by
  cases first with
  | error fault =>
    constructor
    · intro success
      cases success
    · intro given
      obtain ⟨a, impossible, -⟩ := given
      cases impossible
  | ok a =>
    constructor
    · intro success
      exact ⟨a, rfl, success⟩
    · intro given
      obtain ⟨a', same, success⟩ := given
      cases same
      exact success

theorem all_eq_ok_iff {α : Type} {read : Reader α} {bs : List UInt8} {a : α} :
    all read bs = .ok a ↔ read bs = .ok (a, []) := by
  unfold all
  constructor
  · intro success
    split at success
    · cases success
    · rename_i a' whole
      cases success
      exact whole
    · cases success
  · intro whole
    rw [whole]

end SafetyCenter.Field
