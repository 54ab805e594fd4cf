import SafetyCenter.Proofs.Wire.Utf8
import SafetyCenter.Wire.Base64Url

set_option autoImplicit false

namespace SafetyCenter.Base64Url

def symbolByte (n : Nat) : UInt8 :=
  UInt8.ofNat (symbol n).toNat

theorem encodeChar_symbol {n : Nat} (small : n < 64) :
    Utf8.encodeChar (symbol n) = [symbolByte n] := by
  revert n
  decide

theorem sextet?_symbolByte {n : Nat} (small : n < 64) : sextet? (symbolByte n) = some n := by
  revert n
  decide

theorem symbolByte_ne_padding {n : Nat} (small : n < 64) : symbolByte n ≠ padding := by
  revert n
  decide

theorem symbolByte_of_sextet? {b : UInt8} {n : Nat} (read : sextet? b = some n) :
    n < 64 ∧ b = symbolByte n := by
  have all : ∀ v < 256, ∀ n ∈ sextet? (UInt8.ofNat v), n < 64 ∧ UInt8.ofNat v = symbolByte n := by
    decide +kernel
  simpa using all b.toNat b.toNat_lt n (by simpa using read)

/-- The numbers of six bits that bytes are written as. A rest is filled up with zero bits. -/
def spread : List UInt8 → List Nat
  | a :: b :: c :: bs =>
    a.toNat / 4 :: (a.toNat % 4 * 16 + b.toNat / 16) :: (b.toNat % 16 * 4 + c.toNat / 64) ::
      c.toNat % 64 :: spread bs
  | [a, b] => [a.toNat / 4, a.toNat % 4 * 16 + b.toNat / 16, b.toNat % 16 * 4]
  | [a] => [a.toNat / 4, a.toNat % 4 * 16]
  | [] => []

theorem encode_eq_map (bs : List UInt8) : encode bs = (spread bs).map symbol := by
  fun_induction spread bs with
  | case1 a b c bs ih => simp only [encode, List.map_cons, ih]
  | case2 a b => rfl
  | case3 a => rfl
  | case4 => rfl

/-- Numbers that spell bytes: each has six bits, they do not end in a group of one, and the bits of
the last one that belong to no byte are zero. -/
structure Canonical (ns : List Nat) : Prop where
  small : ∀ n ∈ ns, n < 64
  grouped : ns.length % 4 ≠ 1
  filled : hasSpareBits ns.length (ns.getLastD 0) = false

theorem hasSpareBits_add_four (count n : Nat) :
    hasSpareBits (count + 4) n = hasSpareBits count n := by
  simp only [hasSpareBits, Nat.add_mod_right]

theorem getLastD_of_ne_nil {ns : List Nat} (some : ns ≠ []) (m n : Nat) :
    ns.getLastD m = ns.getLastD n := by
  cases ns with
  | nil => exact absurd rfl some
  | cons a ns => simp only [List.getLastD_cons]

theorem hasSpareBits_cons_four (a b c d : Nat) (ns : List Nat) :
    hasSpareBits (a :: b :: c :: d :: ns).length ((a :: b :: c :: d :: ns).getLastD 0) =
      hasSpareBits ns.length (ns.getLastD 0) := by
  simp only [List.length_cons, List.getLastD_cons, hasSpareBits_add_four]
  by_cases none : ns = []
  · subst none
    rfl
  · rw [getLastD_of_ne_nil none d 0]

theorem canonical_cons_four {a b c d : Nat} {ns : List Nat} :
    Canonical (a :: b :: c :: d :: ns) ↔
      (a < 64 ∧ b < 64 ∧ c < 64 ∧ d < 64) ∧ Canonical ns := by
  constructor
  · intro ⟨small, grouped, filled⟩
    rw [hasSpareBits_cons_four] at filled
    simp only [List.forall_mem_cons] at small
    simp only [List.length_cons] at grouped
    exact ⟨⟨small.1, small.2.1, small.2.2.1, small.2.2.2.1⟩, small.2.2.2.2, by omega, filled⟩
  · intro given
    obtain ⟨⟨ha, hb, hc, hd⟩, small, grouped, filled⟩ := given
    refine ⟨?_, ?_, ?_⟩
    · simp only [List.forall_mem_cons]
      exact ⟨ha, hb, hc, hd, small⟩
    · simp only [List.length_cons]
      omega
    · rwa [hasSpareBits_cons_four]

theorem spread_canonical (bs : List UInt8) : Canonical (spread bs) := by
  fun_induction spread bs with
  | case1 a b c bs ih =>
    have ha := a.toNat_lt
    have hb := b.toNat_lt
    have hc := c.toNat_lt
    exact canonical_cons_four.mpr ⟨⟨by omega, by omega, by omega, by omega⟩, ih⟩
  | case2 a b =>
    have ha := a.toNat_lt
    have hb := b.toNat_lt
    refine ⟨?_, by simp, ?_⟩
    · simp only [List.forall_mem_cons, List.not_mem_nil, false_implies, implies_true, and_true]
      omega
    · simp [hasSpareBits]
  | case3 a =>
    have ha := a.toNat_lt
    refine ⟨?_, by simp, ?_⟩
    · simp only [List.forall_mem_cons, List.not_mem_nil, false_implies, implies_true, and_true]
      omega
    · simp [hasSpareBits]
  | case4 => exact ⟨by simp, by simp, rfl⟩

theorem assemble_spread (bs : List UInt8) : assemble (spread bs) = bs := by
  fun_induction spread bs with
  | case1 a b c bs ih =>
    have ha := a.toNat_lt
    have hb := b.toNat_lt
    have hc := c.toNat_lt
    rw [assemble, ih, Utf8.byte_eq (b := a) (by omega), Utf8.byte_eq (b := b) (by omega),
      Utf8.byte_eq (b := c) (by omega)]
  | case2 a b =>
    have ha := a.toNat_lt
    have hb := b.toNat_lt
    rw [assemble, Utf8.byte_eq (b := a) (by omega), Utf8.byte_eq (b := b) (by omega)]
  | case3 a =>
    have ha := a.toNat_lt
    rw [assemble, Utf8.byte_eq (b := a) (by omega)]
  | case4 => rfl

theorem spread_assemble {ns : List Nat} (canonical : Canonical ns) : spread (assemble ns) = ns := by
  fun_induction assemble ns with
  | case1 a b c d ns ih =>
    obtain ⟨⟨ha, hb, hc, hd⟩, rest⟩ := canonical_cons_four.mp canonical
    rw [spread, ih rest, Utf8.toNat_byte (by omega), Utf8.toNat_byte (by omega),
      Utf8.toNat_byte (by omega)]
    congr <;> omega
  | case2 a b c =>
    obtain ⟨small, -, filled⟩ := canonical
    simp only [List.forall_mem_cons, hasSpareBits] at small filled
    simp at filled
    rw [spread, Utf8.toNat_byte (by omega), Utf8.toNat_byte (by omega)]
    congr <;> omega
  | case3 a b =>
    obtain ⟨small, -, filled⟩ := canonical
    simp only [List.forall_mem_cons, hasSpareBits] at small filled
    simp at filled
    rw [spread, Utf8.toNat_byte (by omega)]
    congr <;> omega
  | case4 ns notFour notThree notTwo =>
    rcases ns with _ | ⟨a, _ | ⟨b, _ | ⟨c, _ | ⟨d, ns⟩⟩⟩⟩
    · rfl
    · exact absurd rfl canonical.grouped
    · exact (notTwo a b rfl).elim
    · exact (notThree a b c rfl).elim
    · exact (notFour a b c d ns rfl).elim

/-! Reading symbols. -/

theorem sextets_map {ns : List Nat} (small : ∀ n ∈ ns, n < 64) :
    sextets (ns.map symbolByte) = (ns, []) := by
  induction ns with
  | nil => rfl
  | cons n ns ih =>
    rw [List.forall_mem_cons] at small
    simp only [List.map_cons, sextets, sextet?_symbolByte small.1, ih small.2]

theorem map_of_sextets {bs : List UInt8} (whole : (sextets bs).2 = []) :
    (∀ n ∈ (sextets bs).1, n < 64) ∧ bs = (sextets bs).1.map symbolByte := by
  induction bs with
  | nil => exact ⟨by simp [sextets], rfl⟩
  | cons b bs ih =>
    cases read : sextet? b with
    | none => simp [sextets, read] at whole
    | some n =>
      simp only [sextets, read] at whole ⊢
      obtain ⟨small, same⟩ := ih whole
      obtain ⟨first, symbol⟩ := symbolByte_of_sextet? read
      exact ⟨List.forall_mem_cons.mpr ⟨first, small⟩, by rw [List.map_cons, ← same, symbol]⟩

theorem lastGroup_map {ns : List Nat} (small : ∀ n ∈ ns, n < 64) (offset before : Nat) :
    lastGroup offset before (ns.map symbolByte) = .ok (ns, false) := by
  induction ns generalizing before with
  | nil => rfl
  | cons n ns ih =>
    rw [List.forall_mem_cons] at small
    simp only [List.map_cons, lastGroup, symbolByte_ne_padding small.1, ↓reduceIte,
      sextet?_symbolByte small.1, ih small.2]
    rfl

theorem map_of_lastGroup {offset before : Nat} {bs : List UInt8} {ns : List Nat}
    (success : lastGroup offset before bs = .ok (ns, false)) :
    (∀ n ∈ ns, n < 64) ∧ bs = ns.map symbolByte := by
  induction bs generalizing before ns with
  | nil =>
    cases success
    exact ⟨by simp, rfl⟩
  | cons b bs ih =>
    unfold lastGroup at success
    split at success
    · split at success
      · cases success
      · split at success <;> cases success
    · split at success
      · cases success
      · rename_i n read
        cases rest : lastGroup offset (before + 1) bs with
        | error fault =>
          rw [rest] at success
          cases success
        | ok group =>
          obtain ⟨ms, padded⟩ := group
          rw [rest] at success
          cases success
          obtain ⟨small, same⟩ := ih rest
          obtain ⟨first, symbol⟩ := symbolByte_of_sextet? read
          exact ⟨List.forall_mem_cons.mpr ⟨first, small⟩, by rw [List.map_cons, ← same, symbol]⟩

theorem lastGroupStart_mod (length : Nat) : lastGroupStart length % 4 = 0 := by
  unfold lastGroupStart
  omega

theorem lastGroupStart_le (length : Nat) : lastGroupStart length ≤ length := by
  unfold lastGroupStart
  omega

theorem lastGroupStart_lt {length : Nat} (positive : 0 < length) :
    lastGroupStart length < length ∧ length ≤ lastGroupStart length + 4 := by
  unfold lastGroupStart
  omega

/-- The last symbol alone decides on spare bits, so it may be looked for in the last group. -/
theorem hasSpareBits_append (front last : List Nat) (whole : front.length % 4 = 0)
    (present : last = [] → front = []) :
    hasSpareBits (front ++ last).length ((front ++ last).getLastD 0) =
      hasSpareBits last.length (last.getLastD 0) := by
  by_cases none : last = []
  · rw [none, present none, List.nil_append]
  · have count : (front ++ last).length % 4 = last.length % 4 := by
      rw [List.length_append]
      omega
    have final : (front ++ last).getLastD 0 = last.getLastD 0 := by
      simp only [List.getLastD_eq_getLast?, List.getLast?_append,
        List.getLast?_eq_some_getLast none, Option.some_or]
    simp only [hasSpareBits, count, final]

theorem strayByte?_of_grouped {bs : List UInt8} (grouped : bs.length % 4 ≠ 1) :
    strayByte? bs = none := by
  rw [strayByte?, if_neg grouped]

/-- Texts that spell numbers canonically are read. -/
theorem decode_map {ns : List Nat} (canonical : Canonical ns) :
    decode (ns.map symbolByte) = .ok (assemble ns) := by
  obtain ⟨small, grouped, filled⟩ := canonical
  generalize begins : lastGroupStart ns.length = start
  have whole : start % 4 = 0 := begins ▸ lastGroupStart_mod ns.length
  have inside : start ≤ ns.length := begins ▸ lastGroupStart_le ns.length
  have front := sextets_map fun n member => small n (List.mem_of_mem_take (i := start) member)
  have last := lastGroup_map (fun n member => small n (List.mem_of_mem_drop (i := start) member))
    start 0
  have stray : strayByte? (ns.map symbolByte) = none :=
    strayByte?_of_grouped (by rwa [List.length_map])
  have long : ¬ (ns.map symbolByte ≠ [] ∧ (ns.drop start).length < 2) := by
    intro given
    obtain ⟨present, short⟩ := given
    have positive : 0 < ns.length := List.length_pos_iff.mpr (by simpa using present)
    have bounds := begins ▸ lastGroupStart_lt positive
    rw [List.length_drop] at short
    omega
  have spare : hasSpareBits (ns.drop start).length ((ns.drop start).getLastD 0) = false := by
    rw [← filled, ← hasSpareBits_append (ns.take start), List.take_append_drop]
    · rw [List.length_take]
      omega
    · intro empty
      have past : ns.length ≤ start := List.drop_eq_nil_iff.mp empty
      rcases Nat.eq_zero_or_pos ns.length with none | positive
      · rw [List.eq_nil_of_length_eq_zero none, List.take_nil]
      · have bounds := begins ▸ lastGroupStart_lt positive
        omega
  simp only [decode, stray, List.length_map, begins, ← List.map_take, ← List.map_drop, front, last,
    long, spare, Bool.false_eq_true, ↓reduceIte, List.take_append_drop]

/-- Nothing else is read. -/
theorem canonical_of_decode {bs out : List UInt8} (success : decode bs = .ok out) :
    ∃ ns, Canonical ns ∧ bs = ns.map symbolByte ∧ out = assemble ns := by
  unfold decode at success
  split at success
  · cases success
  · dsimp only at success
    generalize begins : lastGroupStart bs.length = start at success
    have whole : start % 4 = 0 := begins ▸ lastGroupStart_mod bs.length
    have inside : start ≤ bs.length := begins ▸ lastGroupStart_le bs.length
    split at success
    · cases success
    · rename_i front read
      have frontSpelled := map_of_sextets (congrArg Prod.snd read)
      simp only [read] at frontSpelled
      split at success
      · cases success
      · rename_i last padded group
        split at success
        · cases success
        · rename_i long
          split at success
          · cases success
          · rename_i unpadded
            split at success
            · cases success
            · rename_i filled
              cases success
              rw [Bool.not_eq_true] at unpadded filled
              rw [unpadded] at group
              have lastSpelled := map_of_lastGroup group
              have spelled : bs = (front ++ last).map symbolByte := by
                rw [List.map_append, ← frontSpelled.2, ← lastSpelled.2, List.take_append_drop]
              have frontCount : front.length = start := by
                have count := congrArg List.length frontSpelled.2
                rw [List.length_take, List.length_map] at count
                omega
              have lastCount : last.length = bs.length - start := by
                have count := congrArg List.length lastSpelled.2
                rw [List.length_drop, List.length_map] at count
                omega
              have bounds : bs.length = 0 ∨ 2 ≤ last.length ∧ last.length ≤ 4 := by
                rcases Nat.eq_zero_or_pos bs.length with none | positive
                · exact Or.inl none
                · have present : bs ≠ [] := List.length_pos_iff.mp positive
                  have most := begins ▸ lastGroupStart_lt positive
                  have least : ¬ last.length < 2 := fun short => long ⟨present, short⟩
                  omega
              refine ⟨front ++ last, ⟨?_, ?_, ?_⟩, spelled, rfl⟩
              · intro n member
                rcases List.mem_append.mp member with member | member
                · exact frontSpelled.1 n member
                · exact lastSpelled.1 n member
              · rw [List.length_append]
                omega
              · rw [hasSpareBits_append front last (by omega), filled]
                intro none
                rw [none, List.length_nil] at bounds lastCount
                exact List.eq_nil_of_length_eq_zero (by omega)

theorem encode_symbols (bs : List UInt8) :
    Utf8.encode (encode bs) = (spread bs).map symbolByte := by
  rw [encode_eq_map]
  have small := (spread_canonical bs).small
  generalize spread bs = ns at small
  induction ns with
  | nil => rfl
  | cons n ns ih =>
    rw [List.forall_mem_cons] at small
    rw [List.map_cons, Utf8.encode_cons, encodeChar_symbol small.1, ih small.2]
    rfl

/-- `decode` inverts `encode`, and only texts of `encode` are read. -/
theorem decode_eq_ok_iff {bs out : List UInt8} :
    decode bs = .ok out ↔ bs = Utf8.encode (encode out) := by
  constructor
  · intro success
    obtain ⟨ns, canonical, spelled, rfl⟩ := canonical_of_decode success
    rw [encode_symbols, spread_assemble canonical, spelled]
  · intro spelled
    rw [spelled, encode_symbols, decode_map (spread_canonical out), assemble_spread]

end SafetyCenter.Base64Url
