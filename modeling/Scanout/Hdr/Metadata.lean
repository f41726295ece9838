import Scanout.Hdr.Signal

/-!
# HDR static metadata

Source and panel describe themselves by a blob of fifteen 16-bit fields, low byte first. A blob
that is too short is read as if zeros followed, and what is over is not read.
-/

namespace Scanout

structure PerPrimary where
  red : UInt16
  green : UInt16
  blue : UInt16
  deriving DecidableEq, Repr

structure HdrMetadata where
  eotf : UInt16
  metadataType : UInt16
  primariesX : PerPrimary
  primariesY : PerPrimary
  whiteX : UInt16
  whiteY : UInt16
  maxMastering : UInt16
  minMastering : UInt16
  maxFrameAverage : UInt16
  maxContent : UInt16
  minContent : UInt16
  deriving DecidableEq, Repr

namespace HdrMetadata

def byteCount : Nat := 30

def words (m : HdrMetadata) : List UInt16 :=
  [m.eotf, m.metadataType, m.primariesX.red, m.primariesX.green, m.primariesX.blue,
    m.primariesY.red, m.primariesY.green, m.primariesY.blue, m.whiteX, m.whiteY,
    m.maxMastering, m.minMastering, m.maxFrameAverage, m.maxContent, m.minContent]

def wordBytes (w : UInt16) : List UInt8 := [w.toUInt8, (w >>> 8).toUInt8]

def toBytes (m : HdrMetadata) : List UInt8 := m.words.flatMap wordBytes

/-- The `i`-th 16-bit word of a blob that zeros follow. -/
def wordAt (blob : List UInt8) (i : Nat) : UInt16 :=
  (blob[2 * i]?.getD 0).toUInt16 ||| ((blob[2 * i + 1]?.getD 0).toUInt16 <<< 8)

def ofBlob (blob : List UInt8) : HdrMetadata where
  eotf := wordAt blob 0
  metadataType := wordAt blob 1
  primariesX := ⟨wordAt blob 2, wordAt blob 3, wordAt blob 4⟩
  primariesY := ⟨wordAt blob 5, wordAt blob 6, wordAt blob 7⟩
  whiteX := wordAt blob 8
  whiteY := wordAt blob 9
  maxMastering := wordAt blob 10
  minMastering := wordAt blob 11
  maxFrameAverage := wordAt blob 12
  maxContent := wordAt blob 13
  minContent := wordAt blob 14

def eotf? (m : HdrMetadata) : Option Eotf := Eotf.ofCode? m.eotf

def isHdr (m : HdrMetadata) : Bool := m.eotf != Eotf.traditionalGammaSdr.code

end HdrMetadata

/-- What the connected panel says about itself. -/
structure Panel where
  raw : HdrMetadata
  deriving DecidableEq, Repr

namespace Panel

def ofBlob (blob : List UInt8) : Panel := ⟨HdrMetadata.ofBlob blob⟩

def silent : Panel := ofBlob []

/-- A panel that names any transfer besides the traditional one takes HDR metadata. -/
def supportsHdr (p : Panel) : Bool := p.raw.isHdr

end Panel

end Scanout
