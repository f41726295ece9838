import Scanout.Overlay.Config
import Scanout.Settings.Types

/-!
# Valid settings

Settings are valid if every name in them is one of those that mean something, if the alignments are
powers of two, and if the surface has both dimensions or none. Everything the program derives from
valid settings exists.
-/

namespace Scanout

inductive SettingsError where
  | unknownName (name : String) (known : List String)
  | badAlignment (cause : PresentError)
  | halfSurface
  deriving DecidableEq, Repr

def SettingsError.messages : SettingsError → List String
  | .unknownName name known =>
    [s!"Invalid value: {name} (expected one of: " ++ ", ".intercalate known ++ ")"]
  | .badAlignment cause => ["Invalid overlay alignment", cause.message]
  | .halfSurface => ["osd_width and osd_height must be set together"]

namespace Settings

def logLevels : List String := ["trace", "debug", "info", "warn", "error"]
def commits : List String := ["atomic", "legacy"]
def backends : List String := ["drm", "wayland"]

def checkName (known : List String) (name : String) : Except SettingsError Unit :=
  if name ∈ known then .ok () else .error (.unknownName name known)

/-- The alignment that is set, if it is one. -/
def alignment (s : Settings) : Except PresentError Alignment :=
  Alignment.ofGrid s.overlay.originAlignment s.overlay.extentAlignment

def validate (s : Settings) : Except SettingsError Unit := do
  checkName logLevels s.general.logLevel
  checkName commits s.drm.commit
  checkName backends s.overlay.backend
  let _ ← s.alignment.mapError SettingsError.badAlignment
  if s.overlay.osdWidth.isSome = s.overlay.osdHeight.isSome then .ok () else .error .halfSurface

def commitStrategy (s : Settings) : Except PresentError CommitStrategy :=
  CommitStrategy.ofName s.drm.commit

def osdSize (s : Settings) : Option Size :=
  match s.overlay.osdWidth, s.overlay.osdHeight with
  | some width, some height => some ⟨width, height⟩
  | _, _ => none

def targets (s : Settings) (found : Targets) : Targets where
  crtc := s.drm.crtcId.getD found.crtc
  connector := s.drm.connectorId.getD found.connector
  videoPlane := s.drm.videoPlaneId.getD found.videoPlane

def overlayConfig (s : Settings) (found : Targets) : Except PresentError Overlay.Config := do
  let strategy ← s.commitStrategy
  let alignment ← s.alignment
  return { targets := s.targets found, strategy, alignment, zpos := s.overlay.zpos
           osdSize := s.osdSize }

end Settings

end Scanout
