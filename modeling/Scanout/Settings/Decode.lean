import Scanout.Settings.Types
import Scanout.Toml.Document
import Scanout.Toml.Range

/-!
# Reading settings from a document

A section is a table, or an array that lists its settings in order. A setting that is not there has
its default, but in an array a setting without a default has to be there. Keys that mean nothing
are skipped.
-/

namespace Scanout.Settings

open Toml (Value Entries)

inductive Section where
  | named (entries : Entries)
  | listed (items : List Value)

/-- A date has no part that means anything. -/
def Section.ofValue? : Value → Option Section
  | .table _ entries => some (.named entries)
  | .array items | .tables items => some (.listed items)
  | .dateTime _ => some (.named [])
  | _ => none

namespace Section

def value? (s : Section) (place : Nat) (name : String) : Option Value :=
  match s with
  | named entries => entries.lookup name
  | listed items => items[place]?

/-- Everything else in the section can be skipped. -/
def knows (s : Section) (names : List String) : Bool :=
  match s with
  | named entries => Toml.entriesAreSkippable (entries.filter fun e => e.1 ∉ names)
  | listed _ => true

def withDefault {α : Type} (s : Section) (place : Nat) (name : String) (read : Value → Option α)
    (fallback : α) : Option α :=
  match s.value? place name with
  | some value => read value
  | none => some fallback

def unsettable {α : Type} (s : Section) (place : Nat) (name : String) (read : Value → Option α) :
    Option (Option α) :=
  match s.value? place name, s with
  | some value, _ => (read value).map some
  | none, named _ => some none
  | none, listed _ => none

end Section

def text : Value → Option String
  | .string text => some text
  | _ => none

def flag : Value → Option Bool
  | .boolean value => some value
  | _ => none

def word : Value → Option UInt32
  | .integer value => if 0 ≤ value ∧ value.toNat < Nat.pow 2 32 then some value.toNat.toUInt32 else none
  | _ => none

def longWord : Value → Option UInt64
  | .integer value => if 0 ≤ value ∧ value.toNat < Nat.pow 2 64 then some value.toNat.toUInt64 else none
  | _ => none

def readSection {α : Type} (names : List String) (read : Section → Option α) (value : Value) :
    Option α := do
  let s ← Section.ofValue? value
  if s.knows names then read s else none

def readGeneral : Value → Option GeneralSettings :=
  readSection ["log_level"] fun s => do
    let logLevel ← s.withDefault 0 "log_level" text "info"
    return { logLevel }

def readDrm : Value → Option DrmSettings :=
  readSection ["device", "connector_id", "crtc_id", "video_plane_id", "commit"] fun s => do
    let device ← s.withDefault 0 "device" text "/dev/dri/card0"
    let connectorId ← s.unsettable 1 "connector_id" word
    let crtcId ← s.unsettable 2 "crtc_id" word
    let videoPlaneId ← s.unsettable 3 "video_plane_id" word
    let commit ← s.withDefault 4 "commit" text "atomic"
    return { device, connectorId, crtcId, videoPlaneId, commit }

def readOverlay : Value → Option OverlaySettings :=
  let names := ["backend", "origin_alignment", "extent_alignment", "zpos", "osd_width",
    "osd_height"]
  readSection names fun s => do
    let backend ← s.withDefault 0 "backend" text "drm"
    let originAlignment ← s.withDefault 1 "origin_alignment" word 2
    let extentAlignment ← s.withDefault 2 "extent_alignment" word 2
    let zpos ← s.withDefault 3 "zpos" longWord 0
    let osdWidth ← s.unsettable 4 "osd_width" word
    let osdHeight ← s.unsettable 5 "osd_height" word
    return { backend, originAlignment, extentAlignment, zpos, osdWidth, osdHeight }

def readTexture : Value → Option TextureSettings :=
  readSection ["enabled"] fun s => do
    let enabled ← s.withDefault 0 "enabled" flag true
    return { enabled }

def ofEntries (entries : Entries) : Option Settings :=
  let all := readSection ["general", "drm", "overlay", "texture"] fun s => do
    let general ← s.withDefault 0 "general" readGeneral {}
    let drm ← s.withDefault 1 "drm" readDrm {}
    let overlay ← s.withDefault 2 "overlay" readOverlay {}
    let texture ← s.withDefault 3 "texture" readTexture {}
    return ({ general, drm, overlay, texture } : Settings)
  all (.table .explicit entries)

def ofText (text : String) : Option Settings := (Toml.document text).bind ofEntries

end Scanout.Settings
