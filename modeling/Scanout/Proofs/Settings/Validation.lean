import Scanout.Proofs.Geometry.Grid
import Scanout.Settings.Location

/-!
# Settings that were loaded can be used

What is accepted is decided in three places: by the lists of names, by the names of the strategies
and by the test for powers of two. `Acceptable` says what the first means to accept, `Usable` what
the others have to yield, and the two are proved to go together.
-/

namespace Scanout

namespace Settings

variable {s : Settings} {found : Targets}

/-- Every name means something, the alignments are powers of two, and the surface has both
dimensions or none. -/
structure Acceptable (s : Settings) : Prop where
  logLevel : s.general.logLevel ∈ ["trace", "debug", "info", "warn", "error"]
  commit : s.drm.commit = "atomic" ∨ s.drm.commit = "legacy"
  backend : s.overlay.backend = "drm" ∨ s.overlay.backend = "wayland"
  origin : ∃ k, s.overlay.originAlignment.toNat = 2 ^ k
  extent : ∃ k, s.overlay.extentAlignment.toNat = 2 ^ k
  surface : s.overlay.osdWidth.isSome ↔ s.overlay.osdHeight.isSome

/-- An overlay with the objects that are set, and in place of the others those that were found. -/
structure Configures (s : Settings) (found : Targets) (config : Overlay.Config) : Prop where
  crtc : config.targets.crtc = s.drm.crtcId.getD found.crtc
  connector : config.targets.connector = s.drm.connectorId.getD found.connector
  videoPlane : config.targets.videoPlane = s.drm.videoPlaneId.getD found.videoPlane
  strategy : s.commitStrategy = .ok config.strategy
  alignment : Alignment.ofGrid s.overlay.originAlignment s.overlay.extentAlignment
    = .ok config.alignment
  zpos : config.zpos = s.overlay.zpos
  osdSize : ∀ size, config.osdSize = some size ↔
    s.overlay.osdWidth = some size.width ∧ s.overlay.osdHeight = some size.height
  /-- A surface is not lost because half of it is set. -/
  surface : config.osdSize.isSome ↔ s.overlay.osdWidth.isSome ∧ s.overlay.osdHeight.isSome

structure Usable (s : Settings) : Prop where
  strategy : ∃ strategy, s.commitStrategy = .ok strategy
  overlay : ∀ found, ∃ config, s.overlayConfig found = .ok config ∧ s.Configures found config

theorem mapError_eq_ok {ε ε' α : Type} {result : Except ε α} {blame : ε → ε'} {a : α} :
    result.mapError blame = .ok a ↔ result = .ok a := by
  cases result <;> simp [Except.mapError]

theorem checkName_eq_ok {known : List String} {name : String} {u : Unit} :
    checkName known name = .ok u ↔ name ∈ known := by
  unfold checkName
  split <;> simp_all

theorem alignment_eq_ok {align : Alignment} :
    s.alignment = .ok align ↔
      (∃ k, s.overlay.originAlignment.toNat = 2 ^ k) ∧
        (∃ k, s.overlay.extentAlignment.toNat = 2 ^ k) ∧
        align = ⟨s.overlay.originAlignment, s.overlay.extentAlignment⟩ :=
  Alignment.ofGrid_eq_ok

/-- The check accepts what it means to accept. -/
theorem validate_eq_ok : s.validate = .ok () ↔ s.Acceptable := by
  unfold validate
  constructor
  · intro valid
    obtain ⟨_, logLevel, valid⟩ := bind_eq_ok.mp valid
    obtain ⟨_, commit, valid⟩ := bind_eq_ok.mp valid
    obtain ⟨_, backend, valid⟩ := bind_eq_ok.mp valid
    obtain ⟨align, aligned, valid⟩ := bind_eq_ok.mp valid
    obtain ⟨origin, extent, -⟩ := alignment_eq_ok.mp (mapError_eq_ok.mp aligned)
    have surface : s.overlay.osdWidth.isSome = s.overlay.osdHeight.isSome := by
      by_contra half
      rw [if_neg half] at valid
      cases valid
    exact {
      logLevel := checkName_eq_ok.mp logLevel
      commit := by simpa [commits] using checkName_eq_ok.mp commit
      backend := by simpa [backends] using checkName_eq_ok.mp backend
      origin, extent
      surface := by rw [surface] }
  · rintro ⟨logLevel, commit, backend, origin, extent, surface⟩
    refine bind_eq_ok.mpr ⟨(), checkName_eq_ok.mpr logLevel, ?_⟩
    refine bind_eq_ok.mpr ⟨(), checkName_eq_ok.mpr (by simpa [commits] using commit), ?_⟩
    refine bind_eq_ok.mpr ⟨(), checkName_eq_ok.mpr (by simpa [backends] using backend), ?_⟩
    have aligned := alignment_eq_ok.mpr ⟨origin, extent, rfl⟩
    refine bind_eq_ok.mpr ⟨_, mapError_eq_ok.mpr aligned, ?_⟩
    exact if_pos (Bool.eq_iff_iff.mpr surface)

/-- The names that are accepted for the strategy are the names of strategies. -/
theorem commitStrategy_eq_ok (commit : s.drm.commit = "atomic" ∨ s.drm.commit = "legacy") :
    ∃ strategy, s.commitStrategy = .ok strategy := by
  rcases commit with name | name
  · exact ⟨.atomic, by rw [commitStrategy, name]; rfl⟩
  · exact ⟨.legacy, by rw [commitStrategy, name]; rfl⟩

theorem osdSize_eq_some {size : Size} :
    s.osdSize = some size ↔
      s.overlay.osdWidth = some size.width ∧ s.overlay.osdHeight = some size.height := by
  unfold osdSize
  split
  · rename_i width height across down
    rw [across, down]
    constructor
    · rintro ⟨⟩
      exact ⟨rfl, rfl⟩
    · rintro ⟨⟨⟩, ⟨⟩⟩
      rfl
  · rename_i half
    constructor
    · rintro ⟨⟩
    · rintro ⟨across, down⟩
      exact (half _ _ across down).elim

theorem osdSize_isSome :
    s.osdSize.isSome ↔ s.overlay.osdWidth.isSome ∧ s.overlay.osdHeight.isSome := by
  simp only [Option.isSome_iff_exists, osdSize_eq_some]
  constructor
  · rintro ⟨size, across, down⟩
    exact ⟨⟨_, across⟩, ⟨_, down⟩⟩
  · rintro ⟨⟨width, across⟩, ⟨height, down⟩⟩
    exact ⟨⟨width, height⟩, across, down⟩

theorem Acceptable.usable (acceptable : s.Acceptable) : s.Usable := by
  obtain ⟨strategy, named⟩ := commitStrategy_eq_ok acceptable.commit
  have aligned := alignment_eq_ok.mpr ⟨acceptable.origin, acceptable.extent, rfl⟩
  refine ⟨⟨strategy, named⟩, fun found => ?_⟩
  have made : s.overlayConfig found = .ok
      { targets := s.targets found, strategy, zpos := s.overlay.zpos, osdSize := s.osdSize
        alignment := ⟨s.overlay.originAlignment, s.overlay.extentAlignment⟩ } := by
    rw [overlayConfig, named, aligned]
    rfl
  exact ⟨_, made, {
    crtc := rfl
    connector := rfl
    videoPlane := rfl
    strategy := named
    alignment := aligned
    zpos := rfl
    osdSize := fun _ => osdSize_eq_some
    surface := osdSize_isSome }⟩

variable {decode : String → Option Settings} {path : String}

theorem readText_eq_ok {bytes : List UInt8} {text : String} :
    readText path bytes = .ok text ↔ String.fromUTF8? ⟨bytes.toArray⟩ = some text := by
  unfold readText
  split <;> simp_all

/-- A text comes to what it says, if that is valid. -/
theorem load_of_text {bytes : List UInt8} {text : String}
    (read : String.fromUTF8? ⟨bytes.toArray⟩ = some text) :
    (load decode path (.holding bytes)).2 = .ok s ↔
      decode text = some s ∧ s.validate = .ok () := by
  simp only [load, readText_eq_ok.mpr read]
  cases decoded : decode text with
  | none => simp
  | some settings =>
    cases valid : settings.validate with
    | error failure =>
      constructor
      · intro failed
        simp only [valid] at failed
        cases failed
      · rintro ⟨⟨⟩, accepted⟩
        cases valid.symm.trans accepted
    | ok _ =>
      constructor
      · intro loaded
        simp only [valid] at loaded
        cases loaded
        exact ⟨rfl, valid⟩
      · rintro ⟨⟨⟩, -⟩
        simp only [valid]

end Settings

namespace SettingsFile

/-- There is a file, whatever can be read of it. -/
def Exists : SettingsFile → Prop
  | .absent => False
  | .hidden _ | .unreadable _ | .holding _ => True

/-- There is a file, and its metadata can be read. -/
def Seen : SettingsFile → Prop
  | .absent | .hidden _ => False
  | .unreadable _ | .holding _ => True

end SettingsFile

namespace Settings

variable {s : Settings} {decode : String → Option Settings} {path : String} {file : SettingsFile}

/-- Where a file is seen, settings are what its text says, and they are valid. -/
theorem load_eq_ok (seen : file.Seen) :
    (load decode path file).2 = .ok s ↔ ∃ bytes text, file = .holding bytes ∧
      String.fromUTF8? ⟨bytes.toArray⟩ = some text ∧ decode text = some s ∧
      s.validate = .ok () := by
  cases file with
  | absent | hidden => exact seen.elim
  | unreadable cause => simp [load]
  | holding bytes =>
    constructor
    · intro loaded
      cases read : readText path bytes with
      | error failure =>
        simp only [load, read] at loaded
        cases loaded
      | ok text =>
        have utf8 := readText_eq_ok.mp read
        exact ⟨bytes, text, rfl, utf8, (load_of_text utf8).mp loaded⟩
    · rintro ⟨_, text, ⟨⟩, utf8, said⟩
      exact (load_of_text utf8).mpr said

/-- Where none is seen, the defaults hold, whether or not there is one. -/
theorem load_of_not_seen (unseen : ¬file.Seen) :
    load decode path file = ([.settingsAbsent path], .ok {}) := by
  cases file with
  | absent | hidden => rfl
  | unreadable | holding => exact absurd trivial unseen

/-- Settings are accepted exactly if they mean something, and then everything is derived from them.
Whatever is loaded is accepted, and what is loaded where a file is seen is what its text says: no such
file that cannot be read, understood or accepted leads to the defaults, or to any settings. -/
theorem loaded_usable :
    (∀ s : Settings, s.validate = .ok () ↔ s.Acceptable) ∧
    (∀ s : Settings, s.validate = .ok () → s.Usable) ∧
    (∀ (decode : String → Option Settings) path file s,
      (load decode path file).2 = .ok s → s.validate = .ok ()) ∧
    (∀ (decode : String → Option Settings) path (file : SettingsFile), file.Seen → ∀ s,
      (load decode path file).2 = .ok s ↔ ∃ bytes text, file = .holding bytes ∧
        String.fromUTF8? ⟨bytes.toArray⟩ = some text ∧ decode text = some s ∧
        s.validate = .ok ()) ∧
    ∀ (decode : String → Option Settings) path (file : SettingsFile), ¬file.Seen →
      load decode path file = ([.settingsAbsent path], .ok {}) := by
  refine ⟨fun s => validate_eq_ok, fun s valid => (validate_eq_ok.mp valid).usable, ?_,
    fun decode path file seen s => load_eq_ok seen, fun decode path file => load_of_not_seen⟩
  intro decode path file s loaded
  by_cases seen : file.Seen
  · obtain ⟨bytes, text, -, -, -, valid⟩ := (load_eq_ok seen).mp loaded
    exact valid
  · rw [load_of_not_seen seen] at loaded
    cases loaded
    decide

/-- A file that exists, in a directory that may not be searched, is passed over: the defaults are
loaded although nothing of it can be read. -/
theorem hidden_file_loads_defaults :
    (SettingsFile.hidden ⟨13⟩).Exists ∧ (⟨13⟩ : Errno).sentence = "Permission denied" ∧
      load (fun _ => none) "/root/.config/primeplane/config.toml" (.hidden ⟨13⟩)
        = ([.settingsAbsent "/root/.config/primeplane/config.toml"], .ok {}) :=
  ⟨trivial, rfl, rfl⟩

end Settings

end Scanout
