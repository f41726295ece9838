/-!
# Colour of a decoded image

What the decoder says about an image's colours: the transfer function, the primaries, and the two
optional descriptions of its brightness.
-/

namespace Scanout

inductive Transfer where
  | bt1886
  | srgb
  | linear
  | gamma22
  /-- SMPTE ST 2084. -/
  | pq
  /-- ARIB STD-B67. -/
  | hlg
  deriving DecidableEq, Repr, Inhabited

def Transfer.isHdr : Transfer → Bool
  | .pq | .hlg => true
  | _ => false

inductive Primaries where
  | bt601Line525
  | bt601Line625
  | bt709
  | bt2020
  | dciP3
  | displayP3
  | apple
  | adobe
  deriving DecidableEq, Repr

/-- A brightness in cd/m², as the 32 bits of an IEEE 754 single. -/
structure Luminance where
  bits : UInt32
  deriving DecidableEq, Repr

/-- Darkest and brightest level of the display the content was graded on. -/
structure Mastering where
  min : Luminance
  max : Luminance
  deriving DecidableEq, Repr

/-- Brightest pixel and brightest frame average of the content, in cd/m². -/
structure LightLevel where
  maxContent : UInt16
  maxFrameAverage : UInt16
  deriving DecidableEq, Repr

structure Color where
  primaries : Primaries := .bt709
  transfer : Transfer := .bt1886
  mastering : Option Mastering := none
  lightLevel : Option LightLevel := none
  deriving DecidableEq, Repr

end Scanout
