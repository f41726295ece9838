import Scanout.Geometry.PlaneGeometry
import Scanout.Proofs.Geometry.Grid

/-!
# What becomes of two rectangles

The only arithmetic that can fail is a difference of two coordinates. Everything behind the checks
has a result, and the result is exact: fixed point is a multiplication by `2^16`, and the corners
and extents on the display are the nearest ones on the grid.
-/

namespace Scanout

namespace Rect

def exactWidth (r : Rect) : Int := r.x1.toInt - r.x0.toInt

def exactHeight (r : Rect) : Int := r.y1.toInt - r.y0.toInt

def IsPositive (r : Rect) : Prop := 0 < r.exactWidth ∧ 0 < r.exactHeight

instance (r : Rect) : Decidable r.IsPositive := inferInstanceAs (Decidable (_ ∧ _))

/-- An extent that is asked for is not a word. The height is asked for where the width is
positive. -/
inductive Overflows (r : Rect) : Prop where
  | width (large : ¬IsWord r.exactWidth)
  | height (wide : 0 < r.exactWidth) (large : ¬IsWord r.exactHeight)

theorem overflows_iff {r : Rect} :
    r.Overflows ↔ ¬IsWord r.exactWidth ∨ 0 < r.exactWidth ∧ ¬IsWord r.exactHeight := by
  constructor
  · rintro (large | ⟨wide, large⟩)
    · exact .inl large
    · exact .inr ⟨wide, large⟩
  · rintro (large | ⟨wide, large⟩)
    · exact .width large
    · exact .height wide large

instance (r : Rect) : Decidable r.Overflows := decidable_of_iff _ overflows_iff.symm

theorem isWord_exactWidth {r : Rect} (fits : ¬r.Overflows) : IsWord r.exactWidth := by
  by_contra large
  exact fits (.width large)

theorem isWord_exactHeight {r : Rect} (fits : ¬r.Overflows) (wide : 0 < r.exactWidth) :
    IsWord r.exactHeight := by
  by_contra large
  exact fits (.height wide large)

theorem isWord_of_isPositive {r : Rect} (fits : ¬r.Overflows) (positive : r.IsPositive) :
    IsWord r.exactWidth ∧ IsWord r.exactHeight :=
  ⟨isWord_exactWidth fits, isWord_exactHeight fits positive.1⟩

theorem width_eq_ok {r : Rect} (word : IsWord r.exactWidth) :
    r.width = .ok (Int32.ofInt r.exactWidth) :=
  Checked.sub_of_isWord word

theorem height_eq_ok {r : Rect} (word : IsWord r.exactHeight) :
    r.height = .ok (Int32.ofInt r.exactHeight) :=
  Checked.sub_of_isWord word

theorem ofInt_le_zero {v : Int} (word : IsWord v) : Int32.ofInt v ≤ 0 ↔ v ≤ 0 := by
  rw [Int32.le_iff_toInt_le, toInt_ofInt word]
  rfl

theorem isEmpty_of_overflows {r : Rect} (overflow : r.Overflows) :
    r.isEmpty = .error .subtraction := by
  by_cases word : IsWord r.exactWidth
  · cases overflow with
    | width large => exact absurd word large
    | height wide large =>
      have width := width_eq_ok word
      have height : r.height = .error .subtraction := Checked.sub_of_not_isWord large
      have positive : ¬Int32.ofInt r.exactWidth ≤ 0 := by
        rw [ofInt_le_zero word]
        omega
      simp [isEmpty, width, height, positive, bind, Except.bind]
  · have width : r.width = .error .subtraction := Checked.sub_of_not_isWord word
    simp [isEmpty, width, bind, Except.bind]

theorem isEmpty_of_fits {r : Rect} (fits : ¬r.Overflows) :
    r.isEmpty = .ok (decide ¬r.IsPositive) := by
  have across := isWord_exactWidth fits
  have width := width_eq_ok across
  by_cases wide : 0 < r.exactWidth
  · have down := isWord_exactHeight fits wide
    have height := height_eq_ok down
    have positive : ¬Int32.ofInt r.exactWidth ≤ 0 := by
      rw [ofInt_le_zero across]
      omega
    have empty : Int32.ofInt r.exactHeight ≤ 0 ↔ ¬r.IsPositive := by
      rw [ofInt_le_zero down]
      unfold IsPositive
      omega
    simp [isEmpty, width, height, positive, empty, bind, Except.bind, pure, Except.pure]
  · have empty : Int32.ofInt r.exactWidth ≤ 0 := by
      rw [ofInt_le_zero across]
      omega
    have none : ¬r.IsPositive := fun positive => wide positive.1
    simp [isEmpty, width, empty, none, bind, Except.bind, pure, Except.pure]

/-- A source is read from a corner inside the framebuffer on. -/
structure Readable (r : Rect) : Prop where
  positive : r.IsPositive
  left : 0 ≤ r.x0.toInt
  top : 0 ≤ r.y0.toInt

theorem readable_iff {r : Rect} :
    r.Readable ↔ r.IsPositive ∧ 0 ≤ r.x0.toInt ∧ 0 ≤ r.y0.toInt :=
  ⟨fun ⟨positive, left, top⟩ => ⟨positive, left, top⟩,
    fun ⟨positive, left, top⟩ => ⟨positive, left, top⟩⟩

instance (r : Rect) : Decidable r.Readable := decidable_of_iff _ readable_iff.symm

structure Narrow (r : Rect) : Prop where
  x : r.x0.toInt ≤ 65535
  y : r.y0.toInt ≤ 65535
  width : r.exactWidth ≤ 65535
  height : r.exactHeight ≤ 65535

end Rect

namespace Fault

variable {α β : Type}

-- Closed by a proof, so that `simp` leaves no comparison of two computations on words to the kernel.
@[simp] theorem ofArithmetic_ok (a : α) : ofArithmetic (.ok a) = .ok a := (rfl)

@[simp] theorem ok_bind (a : α) (next : α → Except Fault β) :
    (Except.ok a >>= next) = next a := (rfl)

theorem ofArithmetic_eq_ok {result : Except ArithmeticFault α} {a : α} :
    ofArithmetic result = .ok a ↔ result = .ok a := by
  cases result <;> simp [ofArithmetic]

theorem ofRefusal_eq_ok {result : Except PresentError α} {a : α} :
    ofRefusal result = .ok a ↔ result = .ok a := by
  cases result <;> simp [ofRefusal]

end Fault

namespace PlaneGeometry

variable {src dst : Rect}

/-- Looking at the two rectangles in turn, a difference is asked for that is not a word. The
destination is looked at where the source can be read. -/
inductive Overflows (src dst : Rect) : Prop where
  | source (overflow : src.Overflows)
  | destination (readable : src.Readable) (overflow : dst.Overflows)

structure Showable (src dst : Rect) : Prop where
  readable : src.Readable
  positive : dst.IsPositive
  narrow : src.Narrow

/-- The numbers of a plane that shows `src` at `dst`: fixed point is exact, the origin is the last
grid line up to the corner, and an extent is the first one from the extent on. -/
structure Shows (geometry : PlaneGeometry) (src dst : Rect) (align : Alignment) : Prop where
  srcX : (geometry.srcX.toNat : Int) = 65536 * src.x0.toInt
  srcY : (geometry.srcY.toNat : Int) = 65536 * src.y0.toInt
  srcW : (geometry.srcW.toNat : Int) = 65536 * src.exactWidth
  srcH : (geometry.srcH.toNat : Int) = 65536 * src.exactHeight
  crtcX : IsGreatest { line : Int | (align.origin.toNat : Int) ∣ line ∧ line ≤ dst.x0.toInt }
    geometry.crtcX.toInt
  crtcY : IsGreatest { line : Int | (align.origin.toNat : Int) ∣ line ∧ line ≤ dst.y0.toInt }
    geometry.crtcY.toInt
  crtcW : IsLeast { line : Int | (align.extent.toNat : Int) ∣ line ∧ dst.exactWidth ≤ line }
    geometry.crtcW.toNat
  crtcH : IsLeast { line : Int | (align.extent.toNat : Int) ∣ line ∧ dst.exactHeight ≤ line }
    geometry.crtcH.toNat

/-- What two rectangles come to, in the order in which they are looked at. -/
inductive Verdict (src dst : Rect) (align : Alignment) : Except Fault PlaneGeometry → Prop where
  | overflow (overflow : Overflows src dst) :
      Verdict src dst align (.error (.arithmetic .subtraction))
  | badSource (fits : ¬Overflows src dst) (unreadable : ¬src.Readable) :
      Verdict src dst align (.error (.refused (.badSource src)))
  | badDestination (fits : ¬Overflows src dst) (readable : src.Readable)
      (empty : ¬dst.IsPositive) :
      Verdict src dst align (.error (.refused (.badDestination dst)))
  | sourceTooLarge (fits : ¬Overflows src dst) (readable : src.Readable)
      (positive : dst.IsPositive) (wide : ¬src.Narrow) :
      Verdict src dst align (.error (.refused (.sourceTooLarge src)))
  | shown (fits : ¬Overflows src dst) (showable : Showable src dst) {geometry : PlaneGeometry}
      (shows : geometry.Shows src dst align) : Verdict src dst align (.ok geometry)

theorem checkSource_of_overflows (overflow : src.Overflows) :
    checkSource src = .error (.arithmetic .subtraction) := by
  simp [checkSource, Rect.isEmpty_of_overflows overflow, Fault.ofArithmetic, bind, Except.bind]

theorem checkSource_of_fits (fits : ¬src.Overflows) :
    checkSource src = if src.Readable then .ok () else .error (.refused (.badSource src)) := by
  have left : src.x0 < 0 ↔ ¬0 ≤ src.x0.toInt := by
    rw [Int32.lt_iff_toInt_lt, Int.not_le]
    rfl
  have top : src.y0 < 0 ↔ ¬0 ≤ src.y0.toInt := by
    rw [Int32.lt_iff_toInt_lt, Int.not_le]
    rfl
  have bad : (decide ¬src.IsPositive || decide (src.x0 < 0) || decide (src.y0 < 0)) = true ↔
      ¬src.Readable := by
    simp only [Bool.or_eq_true, decide_eq_true_eq, left, top, Rect.readable_iff]
    tauto
  have empty : Fault.ofArithmetic src.isEmpty = .ok (decide ¬src.IsPositive) := by
    rw [Rect.isEmpty_of_fits fits]
    rfl
  by_cases readable : src.Readable
  · have good := (not_congr bad).mpr (not_not.mpr readable)
    rw [if_pos readable, checkSource, empty]
    exact if_neg good
  · rw [if_neg readable, checkSource, empty]
    exact if_pos (bad.mpr readable)

theorem checkDestination_of_overflows (overflow : dst.Overflows) :
    checkDestination dst = .error (.arithmetic .subtraction) := by
  simp [checkDestination, Rect.isEmpty_of_overflows overflow, Fault.ofArithmetic, bind,
    Except.bind]

theorem checkDestination_of_fits (fits : ¬dst.Overflows) :
    checkDestination dst =
      if dst.IsPositive then .ok () else .error (.refused (.badDestination dst)) := by
  by_cases positive : dst.IsPositive
  · simp [checkDestination, Rect.isEmpty_of_fits fits, Fault.ofArithmetic, positive, bind,
      Except.bind, pure, Except.pure]
  · simp [checkDestination, Rect.isEmpty_of_fits fits, Fault.ofArithmetic, positive, bind,
      Except.bind]

theorem fixedPoint_of_le (src : Rect) {v : Int32} (nonneg : 0 ≤ v.toInt) (narrow : v.toInt ≤ 65535) :
    ∃ point, fixedPoint src v = .ok point ∧ (point.toNat : Int) = 65536 * v.toInt := by
  have value := toNat_toUInt32 nonneg
  have small : v.toUInt32.toNat * 65536 < 4294967296 := by omega
  refine ⟨v.toUInt32 * 65536, if_pos small, ?_⟩
  have product : (v.toUInt32 * 65536).toNat = v.toUInt32.toNat * 65536 := by
    rw [UInt32.toNat_mul]
    exact Nat.mod_eq_of_lt small
  omega

theorem fixedPoint_of_lt {v : Int32} (nonneg : 0 ≤ v.toInt) (wide : 65535 < v.toInt) :
    fixedPoint src v = .error (.sourceTooLarge src) := by
  have value := toNat_toUInt32 nonneg
  have large : ¬v.toUInt32.toNat * 65536 < 4294967296 := by omega
  exact if_neg large

/-- Behind the checks every extent is a word, and what is left is fixed point and the grid. -/
theorem ofRects_eq (align : Alignment) (fits : ¬Overflows src dst) (readable : src.Readable)
    (positive : dst.IsPositive) :
    ofRects src dst align = (do
      let srcX ← Fault.ofRefusal (fixedPoint src src.x0)
      let srcY ← Fault.ofRefusal (fixedPoint src src.y0)
      let srcW ← Fault.ofRefusal (fixedPoint src (Int32.ofInt src.exactWidth))
      let srcH ← Fault.ofRefusal (fixedPoint src (Int32.ofInt src.exactHeight))
      let crtcX ← Fault.ofArithmetic (align.alignOrigin dst.x0)
      let crtcY ← Fault.ofArithmetic (align.alignOrigin dst.y0)
      let crtcW ← Fault.ofArithmetic (align.alignExtent (Int32.ofInt dst.exactWidth).toUInt32)
      let crtcH ← Fault.ofArithmetic (align.alignExtent (Int32.ofInt dst.exactHeight).toUInt32)
      return { srcX, srcY, srcW, srcH, crtcX, crtcY, crtcW, crtcH }) := by
  have sourceFits : ¬src.Overflows := fun overflow => fits (.source overflow)
  have destinationFits : ¬dst.Overflows := fun overflow => fits (.destination readable overflow)
  have source : checkSource src = .ok () := by
    rw [checkSource_of_fits sourceFits, if_pos readable]
  have destination : checkDestination dst = .ok () := by
    rw [checkDestination_of_fits destinationFits, if_pos positive]
  obtain ⟨sourceAcross, sourceDown⟩ := Rect.isWord_of_isPositive sourceFits readable.positive
  obtain ⟨across, down⟩ := Rect.isWord_of_isPositive destinationFits positive
  rw [ofRects, source, destination, Rect.width_eq_ok sourceAcross, Rect.height_eq_ok sourceDown,
    Rect.width_eq_ok across, Rect.height_eq_ok down]
  simp only [Fault.ofArithmetic_ok, Fault.ok_bind]

theorem ofRects_of_wide (align : Alignment) (fits : ¬Overflows src dst) (readable : src.Readable)
    (positive : dst.IsPositive) (wide : ¬src.Narrow) :
    ofRects src dst align = .error (.refused (.sourceTooLarge src)) := by
  rw [ofRects_eq align fits readable positive]
  obtain ⟨across, down⟩ :=
    Rect.isWord_of_isPositive (fun overflow => fits (.source overflow)) readable.positive
  have width := toInt_ofInt across
  have height := toInt_ofInt down
  obtain ⟨⟨wider, higher⟩, left, top⟩ := readable
  -- The numbers are looked at in the order x, y, width, height; the first wide one is reported.
  by_cases x : 65535 < src.x0.toInt
  · rw [fixedPoint_of_lt left x]
    rfl
  obtain ⟨srcX, shown, -⟩ := fixedPoint_of_le src left (Int.not_lt.mp x)
  rw [shown]
  by_cases y : 65535 < src.y0.toInt
  · rw [fixedPoint_of_lt top y]
    rfl
  obtain ⟨srcY, shown, -⟩ := fixedPoint_of_le src top (Int.not_lt.mp y)
  rw [shown]
  by_cases w : 65535 < src.exactWidth
  · rw [fixedPoint_of_lt (v := Int32.ofInt src.exactWidth) (by omega) (by omega)]
    rfl
  obtain ⟨srcW, shown, -⟩ :=
    fixedPoint_of_le src (v := Int32.ofInt src.exactWidth) (by omega) (by omega)
  rw [shown]
  by_cases h : 65535 < src.exactHeight
  · rw [fixedPoint_of_lt (v := Int32.ofInt src.exactHeight) (by omega) (by omega)]
    rfl
  exact absurd ⟨Int.not_lt.mp x, Int.not_lt.mp y, Int.not_lt.mp w, Int.not_lt.mp h⟩ wide

theorem checkSource_eq_ok {u : Unit} :
    checkSource src = .ok u ↔ ¬src.Overflows ∧ src.Readable := by
  by_cases overflow : src.Overflows
  · simp [checkSource_of_overflows overflow, overflow]
  · by_cases readable : src.Readable <;> simp [checkSource_of_fits overflow, overflow, readable]

theorem checkDestination_eq_ok {u : Unit} :
    checkDestination dst = .ok u ↔ ¬dst.Overflows ∧ dst.IsPositive := by
  by_cases overflow : dst.Overflows
  · simp [checkDestination_of_overflows overflow, overflow]
  · by_cases positive : dst.IsPositive <;>
      simp [checkDestination_of_fits overflow, overflow, positive]

theorem fixedPoint_eq_ok {v : Int32} {point : UInt32} (nonneg : 0 ≤ v.toInt)
    (shown : fixedPoint src v = .ok point) : (point.toNat : Int) = 65536 * v.toInt := by
  by_cases narrow : v.toInt ≤ 65535
  · obtain ⟨other, same, value⟩ := fixedPoint_of_le src nonneg narrow
    cases shown.symm.trans same
    exact value
  · cases shown.symm.trans (fixedPoint_of_lt nonneg (Int.not_le.mp narrow))

/-- The numbers of a plane that shows `src` at `dst`, in terms of the alignment, whatever it is. -/
structure Places (geometry : PlaneGeometry) (src dst : Rect) (align : Alignment) : Prop where
  srcX : (geometry.srcX.toNat : Int) = 65536 * src.x0.toInt
  srcY : (geometry.srcY.toNat : Int) = 65536 * src.y0.toInt
  srcW : (geometry.srcW.toNat : Int) = 65536 * src.exactWidth
  srcH : (geometry.srcH.toNat : Int) = 65536 * src.exactHeight
  crtcX : align.alignOrigin dst.x0 = .ok geometry.crtcX
  crtcY : align.alignOrigin dst.y0 = .ok geometry.crtcY
  crtcW : ∃ width, dst.width = .ok width ∧ align.alignExtent width.toUInt32 = .ok geometry.crtcW
  crtcH : ∃ height, dst.height = .ok height ∧
    align.alignExtent height.toUInt32 = .ok geometry.crtcH

theorem places_of_ofRects {align : Alignment} {geometry : PlaneGeometry}
    (placed : ofRects src dst align = .ok geometry) : geometry.Places src dst align := by
  obtain ⟨_, source, rest⟩ := bind_eq_ok.mp placed
  obtain ⟨_, destination, -⟩ := bind_eq_ok.mp rest
  obtain ⟨sourceFits, readable⟩ := checkSource_eq_ok.mp source
  obtain ⟨destinationFits, positive⟩ := checkDestination_eq_ok.mp destination
  have fits : ¬Overflows src dst := by
    rintro (overflow | ⟨-, overflow⟩)
    · exact sourceFits overflow
    · exact destinationFits overflow
  obtain ⟨sourceAcross, sourceDown⟩ := Rect.isWord_of_isPositive sourceFits readable.positive
  obtain ⟨across, down⟩ := Rect.isWord_of_isPositive destinationFits positive
  have width := toInt_ofInt sourceAcross
  have height := toInt_ofInt sourceDown
  obtain ⟨wider, higher⟩ := readable.positive
  rw [ofRects_eq align fits readable positive] at placed
  obtain ⟨srcX, pointX, placed⟩ := bind_eq_ok.mp placed
  obtain ⟨srcY, pointY, placed⟩ := bind_eq_ok.mp placed
  obtain ⟨srcW, pointW, placed⟩ := bind_eq_ok.mp placed
  obtain ⟨srcH, pointH, placed⟩ := bind_eq_ok.mp placed
  obtain ⟨crtcX, lineX, placed⟩ := bind_eq_ok.mp placed
  obtain ⟨crtcY, lineY, placed⟩ := bind_eq_ok.mp placed
  obtain ⟨crtcW, lineW, placed⟩ := bind_eq_ok.mp placed
  obtain ⟨crtcH, lineH, ⟨⟩⟩ := bind_eq_ok.mp placed
  have valueW := fixedPoint_eq_ok (by omega) (Fault.ofRefusal_eq_ok.mp pointW)
  have valueH := fixedPoint_eq_ok (by omega) (Fault.ofRefusal_eq_ok.mp pointH)
  rw [width] at valueW
  rw [height] at valueH
  exact {
    srcX := fixedPoint_eq_ok readable.left (Fault.ofRefusal_eq_ok.mp pointX)
    srcY := fixedPoint_eq_ok readable.top (Fault.ofRefusal_eq_ok.mp pointY)
    srcW := valueW
    srcH := valueH
    crtcX := Fault.ofArithmetic_eq_ok.mp lineX
    crtcY := Fault.ofArithmetic_eq_ok.mp lineY
    crtcW := ⟨_, Rect.width_eq_ok across, Fault.ofArithmetic_eq_ok.mp lineW⟩
    crtcH := ⟨_, Rect.height_eq_ok down, Fault.ofArithmetic_eq_ok.mp lineH⟩ }

theorem alignExtent_isLeast {align : Alignment} (power : align.extent.toNat.isPowerOfTwo) {v : Int}
    (word : IsWord v) (positive : 0 < v) :
    ∃ line, align.alignExtent (Int32.ofInt v).toUInt32 = .ok line ∧
      IsLeast { line : Int | (align.extent.toNat : Int) ∣ line ∧ v ≤ line } line.toNat := by
  have signed := toInt_ofInt word
  have unsigned : ((Int32.ofInt v).toUInt32.toNat : Int) = v := by
    rw [toNat_toUInt32 (by omega), signed]
  have bound : (Int32.ofInt v).toUInt32.toNat ≤ 2147483648 := by
    have below := word.2
    omega
  obtain ⟨line, aligned, value⟩ := Alignment.alignExtent_eq_ok power bound
  have least := Alignment.isLeast_ceil (Nat.pos_of_isPowerOfTwo power)
    (Int32.ofInt v).toUInt32.toNat
  rw [unsigned, ← value] at least
  exact ⟨line, aligned, least⟩

theorem ofRects_of_narrow {align : Alignment} (origin : align.origin.toNat.isPowerOfTwo)
    (extent : align.extent.toNat.isPowerOfTwo) (fits : ¬Overflows src dst)
    (showable : Showable src dst) :
    ∃ geometry, ofRects src dst align = .ok geometry ∧ geometry.Shows src dst align := by
  obtain ⟨readable, positive, narrow⟩ := showable
  obtain ⟨sourceAcross, sourceDown⟩ :=
    Rect.isWord_of_isPositive (fun overflow => fits (.source overflow)) readable.positive
  obtain ⟨across, down⟩ :=
    Rect.isWord_of_isPositive (fun overflow => fits (.destination readable overflow)) positive
  have width := toInt_ofInt sourceAcross
  have height := toInt_ofInt sourceDown
  obtain ⟨wider, higher⟩ := readable.positive
  obtain ⟨srcX, pointX, valueX⟩ := fixedPoint_of_le src readable.left narrow.x
  obtain ⟨srcY, pointY, valueY⟩ := fixedPoint_of_le src readable.top narrow.y
  obtain ⟨srcW, pointW, valueW⟩ :=
    fixedPoint_of_le src (v := Int32.ofInt src.exactWidth) (by omega)
      (width.trans_le narrow.width)
  obtain ⟨srcH, pointH, valueH⟩ :=
    fixedPoint_of_le src (v := Int32.ofInt src.exactHeight) (by omega)
      (height.trans_le narrow.height)
  obtain ⟨crtcX, lineX, greatestX⟩ := Alignment.alignOrigin_isGreatest origin dst.x0
  obtain ⟨crtcY, lineY, greatestY⟩ := Alignment.alignOrigin_isGreatest origin dst.y0
  obtain ⟨crtcW, lineW, leastW⟩ := alignExtent_isLeast extent across positive.1
  obtain ⟨crtcH, lineH, leastH⟩ := alignExtent_isLeast extent down positive.2
  refine ⟨{ srcX, srcY, srcW, srcH, crtcX, crtcY, crtcW, crtcH }, ?_, ?_⟩
  · rw [ofRects_eq align fits readable positive, pointX, pointY, pointW, pointH, lineX, lineY,
      lineW, lineH]
    rfl
  · rw [width] at valueW
    rw [height] at valueH
    exact ⟨valueX, valueY, valueW, valueH, greatestX, greatestY, leastW, leastH⟩

/-- Two rectangles on a grid come to one of five results, each with what it says of them. -/
theorem ofRects_verdict (align : Alignment) (origin : align.origin.toNat.isPowerOfTwo)
    (extent : align.extent.toNat.isPowerOfTwo) (src dst : Rect) :
    Verdict src dst align (ofRects src dst align) := by
  by_cases overflow : Overflows src dst
  · have failed : ofRects src dst align = .error (.arithmetic .subtraction) := by
      cases overflow with
      | source overflow =>
        rw [ofRects, checkSource_of_overflows overflow]
        rfl
      | destination readable overflow =>
        by_cases first : src.Overflows
        · rw [ofRects, checkSource_of_overflows first]
          rfl
        · rw [ofRects, checkSource_of_fits first, if_pos readable,
            checkDestination_of_overflows overflow]
          rfl
    rw [failed]
    exact .overflow overflow
  have sourceFits : ¬src.Overflows := fun first => overflow (.source first)
  by_cases readable : src.Readable
  · have destinationFits : ¬dst.Overflows := fun second => overflow (.destination readable second)
    by_cases positive : dst.IsPositive
    · by_cases narrow : src.Narrow
      · have showable : Showable src dst := ⟨readable, positive, narrow⟩
        obtain ⟨geometry, done, shows⟩ := ofRects_of_narrow origin extent overflow showable
        rw [done]
        exact .shown overflow showable shows
      · rw [ofRects_of_wide align overflow readable positive narrow]
        exact .sourceTooLarge overflow readable positive narrow
    · have failed : ofRects src dst align = .error (.refused (.badDestination dst)) := by
        rw [ofRects, checkSource_of_fits sourceFits, if_pos readable,
          checkDestination_of_fits destinationFits, if_neg positive]
        rfl
      rw [failed]
      exact .badDestination overflow readable positive
  · have failed : ofRects src dst align = .error (.refused (.badSource src)) := by
      rw [ofRects, checkSource_of_fits sourceFits, if_neg readable]
      rfl
    rw [failed]
    exact .badSource overflow readable

/-- A frame is lost to arithmetic, refused as unusable, or shown. -/
theorem Verdict.trichotomy {align : Alignment} {result : Except Fault PlaneGeometry}
    (verdict : Verdict src dst align result) :
    (result = .error (.arithmetic .subtraction) ∧ Overflows src dst) ∨
    (∃ error, result = .error (.refused error) ∧ error.kind = .invalidFrame ∧
      ¬Overflows src dst ∧ ¬Showable src dst) ∨
    ∃ geometry, result = .ok geometry ∧ geometry.Shows src dst align ∧
      ¬Overflows src dst ∧ Showable src dst := by
  cases verdict with
  | overflow overflow => exact .inl ⟨rfl, overflow⟩
  | badSource fits unreadable =>
    exact .inr (.inl ⟨_, rfl, rfl, fits, fun showable => unreadable showable.readable⟩)
  | badDestination fits readable empty =>
    exact .inr (.inl ⟨_, rfl, rfl, fits, fun showable => empty showable.positive⟩)
  | sourceTooLarge fits readable positive wide =>
    exact .inr (.inl ⟨_, rfl, rfl, fits, fun showable => wide showable.narrow⟩)
  | shown fits showable shows => exact .inr (.inr ⟨_, rfl, shows, fits, showable⟩)

/-- On every grid, the only arithmetic that fails is a difference of coordinates that is not a word.
Otherwise the source is shown exactly, or refused as an unusable frame where an extent is not
positive, a corner of the source is negative or a number of it needs more than sixteen bits. -/
theorem ofRects_exact {origin extent : UInt32} {align : Alignment}
    (grid : Alignment.ofGrid origin extent = .ok align) (src dst : Rect) :
    (∀ fault, ofRects src dst align = .error (.arithmetic fault) ↔
      fault = .subtraction ∧ Overflows src dst) ∧
    ((∃ geometry, ofRects src dst align = .ok geometry) ↔
      ¬Overflows src dst ∧ Showable src dst) ∧
    (¬Overflows src dst → ¬Showable src dst →
      ∃ error, ofRects src dst align = .error (.refused error) ∧ error.kind = .invalidFrame) ∧
    ∀ geometry, ofRects src dst align = .ok geometry →
      geometry.Shows src dst ⟨origin, extent⟩ := by
  obtain ⟨originPower, extentPower, rfl⟩ := Alignment.ofGrid_eq_ok.mp grid
  have verdict := ofRects_verdict ⟨origin, extent⟩ originPower extentPower src dst
  obtain ⟨result, overflow⟩ | ⟨error, result, kind, fits, refused⟩ |
    ⟨geometry, result, shows, fits, showable⟩ := verdict.trichotomy
  · simp [result, overflow, eq_comm]
  · simp [result, fits, refused, kind]
  · simpa [result, fits, showable] using shows

/-- The widest grid and the largest source, at a corner left of the display. -/
theorem ofRects_exact_widest :
    Alignment.ofGrid 2147483648 2147483648 = .ok ⟨2147483648, 2147483648⟩ ∧
      ofRects ⟨0, 65535, 65535, 65536⟩ ⟨-1, 0, 2147483646, 1⟩ ⟨2147483648, 2147483648⟩ =
        .ok { srcX := 0, srcY := 4294901760, srcW := 4294901760, srcH := 65536,
              crtcX := -2147483648, crtcY := 0, crtcW := 2147483648, crtcH := 2147483648 } ∧
      Shows { srcX := 0, srcY := 4294901760, srcW := 4294901760, srcH := 65536,
              crtcX := -2147483648, crtcY := 0, crtcW := 2147483648, crtcH := 2147483648 }
        ⟨0, 65535, 65535, 65536⟩ ⟨-1, 0, 2147483646, 1⟩ ⟨2147483648, 2147483648⟩ := by
  have grid : Alignment.ofGrid 2147483648 2147483648 = .ok ⟨2147483648, 2147483648⟩ := by decide
  have shown : ofRects ⟨0, 65535, 65535, 65536⟩ ⟨-1, 0, 2147483646, 1⟩ ⟨2147483648, 2147483648⟩ =
      .ok { srcX := 0, srcY := 4294901760, srcW := 4294901760, srcH := 65536,
            crtcX := -2147483648, crtcY := 0, crtcW := 2147483648, crtcH := 2147483648 } := by
    decide
  exact ⟨grid, shown, (ofRects_exact grid _ _).2.2.2 _ shown⟩

end PlaneGeometry

end Scanout
