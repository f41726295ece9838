import Mathlib.Algebra.Order.Floor.Div
import Mathlib.Order.Bounds.Defs
import Scanout.Geometry.Alignment

/-!
# Words and the grid of a plane

A checked operation has the exact result or none. A grid whose step is a power of two begins and
ends where the words do, so that rounding to a grid line has a result for every word: for origins
also with the step `2^31`, which the signed word reads as `-2^31`.
-/

namespace Scanout

def IsWord (v : Int) : Prop := -2147483648 ≤ v ∧ v < 2147483648

instance (v : Int) : Decidable (IsWord v) := inferInstanceAs (Decidable (_ ∧ _))

theorem isWord_toInt (w : Int32) : IsWord w.toInt := ⟨w.le_toInt, w.toInt_lt⟩

theorem toInt_ofInt {v : Int} (word : IsWord v) : (Int32.ofInt v).toInt = v :=
  Int32.toInt_ofInt_of_le word.1 word.2

theorem toNat_toUInt32 {w : Int32} (nonneg : 0 ≤ w.toInt) : (w.toUInt32.toNat : Int) = w.toInt := by
  have clamped : w.toUInt32.toNat = w.toNatClampNeg :=
    Int32.toNat_toUInt32_of_le (Int32.le_iff_toInt_le.mpr nonneg)
  have cast : (w.toNatClampNeg : Int) = w.toInt := Int.toNat_of_nonneg nonneg
  omega

theorem bind_eq_ok {ε α β : Type} {first : Except ε α} {next : α → Except ε β} {b : β} :
    first >>= next = .ok b ↔ ∃ a, first = .ok a ∧ next a = .ok b := by
  cases first <;> simp [bind, Except.bind]

namespace Checked

theorem int32_of_isWord {fault : ArithmeticFault} {v : Int} (word : IsWord v) :
    int32 fault v = .ok (Int32.ofInt v) :=
  if_pos word

theorem sub_of_isWord {a b : Int32} (word : IsWord (a.toInt - b.toInt)) :
    sub a b = .ok (Int32.ofInt (a.toInt - b.toInt)) :=
  int32_of_isWord word

theorem sub_of_not_isWord {a b : Int32} (large : ¬IsWord (a.toInt - b.toInt)) :
    sub a b = .error .subtraction :=
  if_neg large

theorem mul_of_isWord {a b : Int32} (word : IsWord (a.toInt * b.toInt)) :
    mul a b = .ok (Int32.ofInt (a.toInt * b.toInt)) :=
  int32_of_isWord word

theorem div_of_isWord {a b : Int32} (nonzero : b.toInt ≠ 0) (word : IsWord (a.toInt / b.toInt)) :
    div a b = .ok (Int32.ofInt (a.toInt / b.toInt)) := by
  have divisor : b ≠ 0 := fun zero => nonzero (zero ▸ rfl)
  exact (if_neg divisor).trans (int32_of_isWord word)

theorem ceilDiv_of_lt {a b : UInt32} (nonzero : b.toNat ≠ 0)
    (small : a.toNat ⌈/⌉ b.toNat < 4294967296) :
    ceilDiv a b = .ok (UInt32.ofNat (a.toNat ⌈/⌉ b.toNat)) := by
  have divisor : b ≠ 0 := fun zero => nonzero (zero ▸ rfl)
  exact (if_neg divisor).trans (if_pos small)

end Checked

namespace Alignment

theorem isPowerOfTwo_iff {v : UInt32} : isPowerOfTwo v ↔ v.toNat.isPowerOfTwo := by
  rw [← Nat.ne_zero_and_sub_one_eq_zero_iff_isPowerOfTwo]
  by_cases zero : v = 0
  · subst zero
    decide
  · have positive : v.toNat ≠ 0 := fun none => zero (UInt32.toNat_inj.mp none)
    have below : (v - 1).toNat = v.toNat - 1 := by
      have one : (1 : UInt32) ≤ v := UInt32.le_iff_toNat_le.mpr (Nat.one_le_iff_ne_zero.mpr positive)
      exact UInt32.toNat_sub_of_le v 1 one
    simp [isPowerOfTwo, zero, positive, ← UInt32.toNat_inj, below]

/-- Exactly the pairs of powers of two are grids, and a grid has the steps it is made of. -/
theorem ofGrid_eq_ok {origin extent : UInt32} {align : Alignment} :
    ofGrid origin extent = .ok align ↔
      origin.toNat.isPowerOfTwo ∧ extent.toNat.isPowerOfTwo ∧ align = ⟨origin, extent⟩ := by
  unfold ofGrid
  by_cases first : isPowerOfTwo origin
  · by_cases second : isPowerOfTwo extent
    · simp [first, second, isPowerOfTwo_iff.mp first, isPowerOfTwo_iff.mp second, eq_comm]
    · have other : ¬extent.toNat.isPowerOfTwo := fun two => second (isPowerOfTwo_iff.mpr two)
      simp [first, second, other]
  · have other : ¬origin.toNat.isPowerOfTwo := fun two => first (isPowerOfTwo_iff.mpr two)
    simp [first, other]

/-- The powers of two among the words are those up to `2^31`. -/
theorem isPowerOfTwo_word {v : UInt32} : v.toNat.isPowerOfTwo ↔ ∃ k ≤ 31, v.toNat = 2 ^ k := by
  constructor
  · rintro ⟨k, value⟩
    have bound : 2 ^ k < 2 ^ 32 := value ▸ v.toNat_lt
    exact ⟨k, Nat.le_of_lt_succ ((Nat.pow_lt_pow_iff_right (by decide)).mp bound), value⟩
  · rintro ⟨k, -, value⟩
    exact ⟨k, value⟩

/-- A power of two that is a word divides `2^31`, where the signed words end. -/
theorem dvd_of_isPowerOfTwo {step : UInt32} (power : step.toNat.isPowerOfTwo) :
    step.toNat ∣ 2147483648 := by
  obtain ⟨k, small, value⟩ := isPowerOfTwo_word.mp power
  rw [value]
  exact Nat.pow_dvd_pow 2 small

/-- Read as a signed word, the step of a grid is itself or, for `2^31`, its opposite. -/
theorem toInt_toInt32 {step : UInt32} (power : step.toNat.isPowerOfTwo) :
    step.toInt32.toInt = step.toNat ∨
      step.toNat = 2147483648 ∧ step.toInt32.toInt = -2147483648 := by
  have bound : step.toNat ≤ 2147483648 := Nat.le_of_dvd (by decide) (dvd_of_isPowerOfTwo power)
  have value : step.toInt32.toInt = (step.toNat : Int).bmod 4294967296 :=
    BitVec.toInt_eq_toNat_bmod _
  rw [value, Int.bmod_def]
  omega

theorem isGreatest_floor {n : Int} (positive : 0 < n) (v : Int) :
    IsGreatest { line : Int | n ∣ line ∧ line ≤ v } (n * (v / n)) := by
  constructor
  · exact ⟨Int.dvd_mul_right n _, Int.mul_ediv_self_le positive.ne'⟩
  · rintro line ⟨⟨count, rfl⟩, below⟩
    have most : count ≤ v / n := (Int.le_ediv_iff_mul_le positive).mpr (by rwa [Int.mul_comm])
    exact Int.mul_le_mul_of_nonneg_left most positive.le

theorem isLeast_ceil {n : Nat} (positive : 0 < n) (v : Nat) :
    IsLeast { line : Int | (n : Int) ∣ line ∧ (v : Int) ≤ line } (n * (v ⌈/⌉ n) : Nat) := by
  constructor
  · have above : v ≤ n * (v ⌈/⌉ n) := le_smul_ceilDiv positive
    exact ⟨Int.natCast_dvd_natCast.mpr (Nat.dvd_mul_right n _), Int.ofNat_le.mpr above⟩
  · rintro line ⟨multiple, above⟩
    obtain ⟨line, rfl⟩ := Int.eq_ofNat_of_zero_le (Int.le_trans (Int.natCast_nonneg v) above)
    obtain ⟨count, rfl⟩ := Int.natCast_dvd_natCast.mp multiple
    have most : v ⌈/⌉ n ≤ count := (ceilDiv_le_iff_le_mul positive).mpr (Int.ofNat_le.mp above)
    exact Int.ofNat_le.mpr (Nat.mul_le_mul_left n most)

/-- The last grid line up to a word is a word, since the words begin on a grid line. -/
theorem isWord_floor {step : UInt32} (power : step.toNat.isPowerOfTwo) (v : Int32) :
    IsWord (step.toNat * (v.toInt / step.toNat)) := by
  have positive : (0 : Int) < step.toNat := Int.natCast_pos.mpr (Nat.pos_of_isPowerOfTwo power)
  have greatest := isGreatest_floor positive v.toInt
  have first : (step.toNat : Int) ∣ -2147483648 :=
    Int.dvd_neg.mpr (Int.natCast_dvd_natCast.mpr (dvd_of_isPowerOfTwo power))
  constructor
  · exact greatest.2 ⟨first, (isWord_toInt v).1⟩
  · exact Int.lt_of_le_of_lt greatest.1.2 (isWord_toInt v).2

/-- The quotient by the step, read as a signed word, is a word and leads to the last grid line. By
`-2^31` it is the opposite of the quotient by `2^31`, so the line is the same. -/
theorem isWord_ediv {step : UInt32} (power : step.toNat.isPowerOfTwo) (v : Int32) :
    IsWord (v.toInt / step.toInt32.toInt) ∧
      v.toInt / step.toInt32.toInt * step.toInt32.toInt = step.toNat * (v.toInt / step.toNat) := by
  have line := isWord_floor power v
  have positive : (0 : Int) < step.toNat := Int.natCast_pos.mpr (Nat.pos_of_isPowerOfTwo power)
  obtain same | ⟨last, opposite⟩ := toInt_toInt32 power
  · rw [same]
    refine ⟨?_, Int.mul_comm _ _⟩
    have shrinks : (v.toInt / step.toNat).natAbs ≤ v.toInt.natAbs := Int.natAbs_ediv_le_natAbs _ _
    have word := isWord_toInt v
    have sign : v.toInt < 0 → v.toInt / step.toNat < 0 := fun negative =>
      Int.ediv_neg_of_neg_of_pos negative positive
    unfold IsWord at word ⊢
    omega
  · have word := isWord_toInt v
    rw [opposite, last, Int.ediv_neg]
    unfold IsWord at word ⊢
    omega

theorem alignOrigin_eq_ok {align : Alignment} (power : align.origin.toNat.isPowerOfTwo)
    (v : Int32) :
    ∃ line, align.alignOrigin v = .ok line ∧
      line.toInt = align.origin.toNat * (v.toInt / align.origin.toNat) := by
  obtain ⟨quotient, product⟩ := isWord_ediv power v
  have line := isWord_floor power v
  have nonzero : align.origin.toInt32.toInt ≠ 0 := by
    have value := toInt_toInt32 power
    have positive := Nat.pos_of_isPowerOfTwo power
    omega
  refine ⟨Int32.ofInt _, ?_, toInt_ofInt line⟩
  calc align.alignOrigin v
      = (Checked.div v align.origin.toInt32 >>= (Checked.mul · align.origin.toInt32)) := rfl
    _ = Checked.mul (Int32.ofInt _) align.origin.toInt32 := by
      rw [Checked.div_of_isWord nonzero quotient]
      rfl
    _ = .ok (Int32.ofInt _) := by
      rw [← product, ← toInt_ofInt quotient] at line
      rw [Checked.mul_of_isWord line, toInt_ofInt quotient, product]

theorem alignOrigin_isGreatest {align : Alignment} (power : align.origin.toNat.isPowerOfTwo)
    (v : Int32) :
    ∃ line, align.alignOrigin v = .ok line ∧
      IsGreatest { line : Int | (align.origin.toNat : Int) ∣ line ∧ line ≤ v.toInt } line.toInt := by
  obtain ⟨line, aligned, value⟩ := alignOrigin_eq_ok power v
  have positive : (0 : Int) < align.origin.toNat :=
    Int.natCast_pos.mpr (Nat.pos_of_isPowerOfTwo power)
  have greatest := isGreatest_floor positive v.toInt
  rw [← value] at greatest
  exact ⟨line, aligned, greatest⟩

/-- Going up to a grid line is checked once, at the end: the quotient is never more than the word. -/
theorem alignExtent_eq {align : Alignment} (power : align.extent.toNat.isPowerOfTwo) (v : UInt32) :
    align.alignExtent v = Checked.uint32 .multiplication
      (align.extent.toNat * (v.toNat ⌈/⌉ align.extent.toNat)) := by
  have positive : 0 < align.extent.toNat := Nat.pos_of_isPowerOfTwo power
  have quotient : v.toNat ⌈/⌉ align.extent.toNat < 4294967296 := by
    have shrinks : v.toNat ⌈/⌉ align.extent.toNat ≤ v.toNat :=
      (ceilDiv_le_iff_le_mul positive).mpr (Nat.le_mul_of_pos_left _ positive)
    exact Nat.lt_of_le_of_lt shrinks v.toNat_lt
  calc align.alignExtent v
      = (Checked.ceilDiv v align.extent >>= (Checked.umul · align.extent)) := rfl
    _ = Checked.umul (UInt32.ofNat _) align.extent := by
      rw [Checked.ceilDiv_of_lt positive.ne' quotient]
      rfl
    _ = Checked.uint32 .multiplication _ := by
      rw [Checked.umul, UInt32.toNat_ofNat_of_lt' quotient, Nat.mul_comm]

/-- From at most `2^31` the first grid line is at most `2^31`, since that is one. -/
theorem ceil_le {step : UInt32} (power : step.toNat.isPowerOfTwo) {v : Nat}
    (signed : v ≤ 2147483648) : step.toNat * (v ⌈/⌉ step.toNat) ≤ 2147483648 := by
  obtain ⟨count, total⟩ := dvd_of_isPowerOfTwo power
  have most : v ⌈/⌉ step.toNat ≤ count :=
    (ceilDiv_le_iff_le_mul (Nat.pos_of_isPowerOfTwo power)).mpr (total ▸ signed)
  exact total ▸ Nat.mul_le_mul_left _ most

/-- Going up to a grid line from at most `2^31`, a word is reached. -/
theorem alignExtent_eq_ok {align : Alignment} (power : align.extent.toNat.isPowerOfTwo)
    {v : UInt32} (signed : v.toNat ≤ 2147483648) :
    ∃ line, align.alignExtent v = .ok line ∧
      line.toNat = align.extent.toNat * (v.toNat ⌈/⌉ align.extent.toNat) := by
  have small : align.extent.toNat * (v.toNat ⌈/⌉ align.extent.toNat) < 4294967296 :=
    Nat.lt_of_le_of_lt (ceil_le power signed) (by decide)
  refine ⟨UInt32.ofNat _, ?_, UInt32.toNat_ofNat_of_lt' small⟩
  rw [alignExtent_eq power]
  exact if_pos small

end Alignment

end Scanout
