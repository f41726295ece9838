import Scanout.Hdr.Brightness
import Scanout.Hdr.Metadata

/-!
# Metadata of a stream

The metadata a source sends is derived from the colours of the stream's first image. Chromaticities
are coordinates of the CIE 1931 diagram, in ten thousandths; metadata carries them in units of
0.00002, five of which are one ten thousandth.
-/

namespace Scanout

/-- A point of the chromaticity diagram, in ten thousandths. -/
structure Chromaticity where
  x : UInt16
  y : UInt16
  deriving DecidableEq, Repr

structure Gamut where
  red : Chromaticity
  green : Chromaticity
  blue : Chromaticity
  white : Chromaticity
  deriving DecidableEq, Repr

namespace Gamut

def d65 : Chromaticity := ⟨3127, 3290⟩
def dciWhite : Chromaticity := ⟨3140, 3510⟩

def ofPrimaries : Primaries → Gamut
  | .bt601Line525 => ⟨⟨6300, 3400⟩, ⟨3100, 5950⟩, ⟨1550, 700⟩, d65⟩
  | .bt601Line625 => ⟨⟨6400, 3300⟩, ⟨2900, 6000⟩, ⟨1500, 600⟩, d65⟩
  | .bt709 => ⟨⟨6400, 3300⟩, ⟨3000, 6000⟩, ⟨1500, 600⟩, d65⟩
  | .bt2020 => ⟨⟨7080, 2920⟩, ⟨1700, 7970⟩, ⟨1310, 460⟩, d65⟩
  | .dciP3 => ⟨⟨6800, 3200⟩, ⟨2650, 6900⟩, ⟨1500, 600⟩, dciWhite⟩
  | .displayP3 => ⟨⟨6800, 3200⟩, ⟨2650, 6900⟩, ⟨1500, 600⟩, d65⟩
  | .apple => ⟨⟨6250, 3400⟩, ⟨2800, 5950⟩, ⟨1150, 700⟩, d65⟩
  | .adobe => ⟨⟨6400, 3300⟩, ⟨2100, 7100⟩, ⟨1500, 600⟩, d65⟩

def units (v : UInt16) : UInt16 := v * 5

def unitsX (g : Gamut) : PerPrimary := ⟨units g.red.x, units g.green.x, units g.blue.x⟩

def unitsY (g : Gamut) : PerPrimary := ⟨units g.red.y, units g.green.y, units g.blue.y⟩

end Gamut

def HdrMetadata.ofColor (color : Color) : HdrMetadata :=
  let gamut := Gamut.ofPrimaries color.primaries
  { eotf := (Eotf.ofTransfer color.transfer).code
    metadataType := 0
    primariesX := gamut.unitsX
    primariesY := gamut.unitsY
    whiteX := Gamut.units gamut.white.x
    whiteY := Gamut.units gamut.white.y
    maxMastering := (color.mastering.map (·.max.whole)).getD 0
    minMastering := (color.mastering.map (·.min.tenThousandths)).getD 0
    maxFrameAverage := (color.lightLevel.map (·.maxFrameAverage)).getD 0
    maxContent := (color.lightLevel.map (·.maxContent)).getD 0
    minContent := 0 }

end Scanout
