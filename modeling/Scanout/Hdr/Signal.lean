import Scanout.Frame.Color

/-!
# Values of the colour properties

The numbers are part of the display controller's interface.
-/

namespace Scanout

/-- Values of the plane's `EOTF` property. -/
inductive Eotf where
  | traditionalGammaSdr
  | traditionalGammaHdr
  | smpteSt2084
  | hlg
  deriving DecidableEq, Repr

namespace Eotf

def code : Eotf → UInt16
  | traditionalGammaSdr => 0
  | traditionalGammaHdr => 1
  | smpteSt2084 => 2
  | hlg => 3

def ofCode? (code : UInt16) : Option Eotf :=
  [traditionalGammaSdr, traditionalGammaHdr, smpteSt2084, hlg].find? (·.code == code)

def ofTransfer : Transfer → Eotf
  | .pq => smpteSt2084
  | .hlg => hlg
  | _ => traditionalGammaSdr

end Eotf

inductive ColorSpace where
  | default
  | smpte170m
  | rec709
  | srgb
  | bt2020
  | dciP3
  deriving DecidableEq, Repr

namespace ColorSpace

def code : ColorSpace → UInt32
  | default => 0
  | smpte170m => 1
  | rec709 => 3
  | srgb => 8
  | bt2020 => 10
  | dciP3 => 12

def ofTransfer (t : Transfer) : ColorSpace := if t.isHdr then bt2020 else default

end ColorSpace

inductive HdmiFormat where
  | defaultRgb
  | ycbcr444
  | ycbcr422
  | ycbcr420
  /-- The best subsampled format the sink accepts. -/
  | ycbcrHq
  /-- The least subsampled format the sink accepts. -/
  | ycbcrLq
  deriving DecidableEq, Repr

def HdmiFormat.code : HdmiFormat → UInt32
  | defaultRgb => 0
  | ycbcr444 => 1
  | ycbcr422 => 2
  | ycbcr420 => 3
  | ycbcrHq => 4
  | ycbcrLq => 5

end Scanout
