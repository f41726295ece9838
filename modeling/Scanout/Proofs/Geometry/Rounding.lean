import Scanout.Proofs.Geometry.Grid

/-!
# Rounding to the grid of a plane

Origins go down to the greatest grid line that is not above them, extents go up to the least that is
not below them. That both keep the order, and that rounding again changes nothing, follows from this
alone.
-/

namespace Scanout.Alignment

def linesUpTo (step : UInt32) (v : Int) : Set Int := { line | (step.toNat : Int) ∣ line ∧ line ≤ v }

def linesFrom (step : UInt32) (v : Int) : Set Int := { line | (step.toNat : Int) ∣ line ∧ v ≤ line }

section Lines

variable {step : UInt32} {v w a b : Int}

theorem isGreatest_mono (le : v ≤ w) (below : IsGreatest (linesUpTo step v) a)
    (top : IsGreatest (linesUpTo step w) b) : a ≤ b :=
  top.2 ⟨below.1.1, below.1.2.trans le⟩

theorem isGreatest_idem (below : IsGreatest (linesUpTo step v) a)
    (again : IsGreatest (linesUpTo step a) b) : b = a :=
  again.unique ⟨⟨below.1.1, le_rfl⟩, fun _ line => line.2⟩

theorem isLeast_mono (le : v ≤ w) (bottom : IsLeast (linesFrom step v) a)
    (above : IsLeast (linesFrom step w) b) : a ≤ b :=
  bottom.2 ⟨above.1.1, le.trans above.1.2⟩

theorem isLeast_idem (above : IsLeast (linesFrom step v) a)
    (again : IsLeast (linesFrom step a) b) : b = a :=
  again.unique ⟨⟨above.1.1, le_rfl⟩, fun _ line => line.2⟩

end Lines

/-- A grid rounds origins down and extents up, and nothing can go wrong but that an extent has no
grid line above it among the words. -/
structure Rounds (align : Alignment) : Prop where
  origin_greatest : ∀ v, ∃ line, align.alignOrigin v = .ok line ∧
    IsGreatest (linesUpTo align.origin v.toInt) line.toInt
  origin_mono : ∀ v w a b, v ≤ w → align.alignOrigin v = .ok a → align.alignOrigin w = .ok b → a ≤ b
  origin_idem : ∀ v a, align.alignOrigin v = .ok a → align.alignOrigin a = .ok a
  extent_least : ∀ v, ∃ first : Nat, IsLeast (linesFrom align.extent v.toNat) first ∧
    (first < 2 ^ 32 → ∃ line, align.alignExtent v = .ok line ∧ line.toNat = first) ∧
    (align.alignExtent v = .error .multiplication ↔ 2 ^ 32 ≤ first)
  extent_fits : ∀ v, v.toNat ≤ 2 ^ 31 → ∃ line, align.alignExtent v = .ok line
  extent_mono : ∀ v w b, v ≤ w → align.alignExtent w = .ok b →
    ∃ a, align.alignExtent v = .ok a ∧ a ≤ b
  extent_idem : ∀ v a, align.alignExtent v = .ok a → align.alignExtent a = .ok a

section Rounding

variable {align : Alignment}

theorem isGreatest_of_alignOrigin (power : align.origin.toNat.isPowerOfTwo) {v line : Int32}
    (aligned : align.alignOrigin v = .ok line) :
    IsGreatest (linesUpTo align.origin v.toInt) line.toInt := by
  obtain ⟨other, same, greatest⟩ := alignOrigin_isGreatest power v
  obtain rfl : line = other := Except.ok.inj (aligned.symm.trans same)
  exact greatest

theorem alignExtent_least (power : align.extent.toNat.isPowerOfTwo) (v : UInt32) :
    ∃ first : Nat, IsLeast (linesFrom align.extent v.toNat) first ∧
      align.alignExtent v = Checked.uint32 .multiplication first :=
  ⟨_, isLeast_ceil (Nat.pos_of_isPowerOfTwo power) v.toNat, alignExtent_eq power v⟩

theorem isLeast_of_alignExtent (power : align.extent.toNat.isPowerOfTwo) {v line : UInt32}
    (aligned : align.alignExtent v = .ok line) :
    IsLeast (linesFrom align.extent v.toNat) line.toNat := by
  obtain ⟨first, least, checked⟩ := alignExtent_least power v
  rw [checked, Checked.uint32] at aligned
  split at aligned
  · rename_i small
    obtain rfl : UInt32.ofNat first = line := Except.ok.inj aligned
    rwa [UInt32.toNat_ofNat_of_lt' small]
  · cases aligned

theorem alignExtent_of_line (power : align.extent.toNat.isPowerOfTwo) {v : UInt32} {line : Nat}
    (above : (line : Int) ∈ linesFrom align.extent v.toNat) (small : line < 4294967296) :
    ∃ a, align.alignExtent v = .ok a := by
  obtain ⟨first, least, checked⟩ := alignExtent_least power v
  have le : first ≤ line := Int.ofNat_le.mp (least.2 above)
  exact ⟨_, checked.trans (if_pos (Nat.lt_of_le_of_lt le small))⟩

theorem rounds_of_powers (origin : align.origin.toNat.isPowerOfTwo)
    (extent : align.extent.toNat.isPowerOfTwo) : Rounds align where
  origin_greatest := alignOrigin_isGreatest origin
  origin_mono v w a b le first second := by
    rw [Int32.le_iff_toInt_le] at le ⊢
    exact isGreatest_mono le (isGreatest_of_alignOrigin origin first)
      (isGreatest_of_alignOrigin origin second)
  origin_idem v a first := by
    obtain ⟨b, second, greatest⟩ := alignOrigin_isGreatest origin a
    have same := isGreatest_idem (isGreatest_of_alignOrigin origin first) greatest
    rwa [Int32.toInt_inj.mp same] at second
  extent_least v := by
    obtain ⟨first, least, checked⟩ := alignExtent_least extent v
    refine ⟨first, least, fun small => ?_, ?_⟩
    · exact ⟨_, checked.trans (if_pos small), UInt32.toNat_ofNat_of_lt' small⟩
    · rw [checked, Checked.uint32]
      split <;> simp <;> omega
  extent_fits v signed := by
    obtain ⟨line, aligned, -⟩ := alignExtent_eq_ok extent signed
    exact ⟨line, aligned⟩
  extent_mono v w b le second := by
    rw [UInt32.le_iff_toNat_le] at le
    have above := isLeast_of_alignExtent extent second
    obtain ⟨a, first⟩ := alignExtent_of_line extent
      ⟨above.1.1, (Int.ofNat_le.mpr le).trans above.1.2⟩ b.toNat_lt
    have ordered := isLeast_mono (Int.ofNat_le.mpr le) (isLeast_of_alignExtent extent first) above
    exact ⟨a, first, UInt32.le_iff_toNat_le.mpr (Int.ofNat_le.mp ordered)⟩
  extent_idem v a first := by
    have above := isLeast_of_alignExtent extent first
    obtain ⟨b, second⟩ := alignExtent_of_line extent ⟨above.1.1, le_rfl⟩ a.toNat_lt
    have same := isLeast_idem above (isLeast_of_alignExtent extent second)
    rwa [UInt32.toNat_inj.mp (Int.ofNat_inj.mp same)] at second

end Rounding

/-- Exactly the pairs of powers of two up to `2^31` are grids, and every grid rounds. -/
theorem ofGrid_rounds (origin extent : UInt32) :
    ((∃ align, ofGrid origin extent = .ok align) ↔
      (∃ i ≤ 31, origin.toNat = 2 ^ i) ∧ ∃ j ≤ 31, extent.toNat = 2 ^ j) ∧
    ∀ align, ofGrid origin extent = .ok align →
      align.origin = origin ∧ align.extent = extent ∧ align.Rounds := by
  constructor
  · simp only [ofGrid_eq_ok, ← isPowerOfTwo_word]
    exact ⟨fun ⟨_, first, second, _⟩ => ⟨first, second⟩,
      fun ⟨first, second⟩ => ⟨_, first, second, rfl⟩⟩
  · intro align accepted
    obtain ⟨first, second, rfl⟩ := ofGrid_eq_ok.mp accepted
    exact ⟨rfl, rfl, rounds_of_powers first second⟩

/-- The widest grid, at the lowest origin, and at the last extent that it can round and the next. -/
theorem ofGrid_rounds_widest : ∃ align, ofGrid 2147483648 2147483648 = .ok align ∧ align.Rounds ∧
    align.alignOrigin (-2147483648) = .ok (-2147483648) ∧
    align.alignExtent 2147483648 = .ok 2147483648 ∧
    align.alignExtent 2147483649 = .error .multiplication := by
  have accepted : ofGrid 2147483648 2147483648 = .ok ⟨2147483648, 2147483648⟩ := by decide
  exact ⟨_, accepted, ((ofGrid_rounds _ _).2 _ accepted).2.2, by decide, by decide, by decide⟩

end Scanout.Alignment
