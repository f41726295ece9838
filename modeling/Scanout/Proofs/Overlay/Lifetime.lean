import Scanout.Proofs.Overlay.Outcome
import Scanout.Simulation.DisplayDevice

/-!
# The life of a manager

A manager is created, called any number of times, and dropped; then another may be created for the
same settings. A lifetime is such a sequence of acts with everything that happened on the device,
and a manager is reachable if some lifetime leads to it.

`Call.does` says once what each call can do. An invariant of all reachable managers is proved from
it, as `Sound` is.
-/

namespace Scanout.Overlay

open Display Proc

/-- What the owner of a manager can ask of it. -/
inductive Call where
  | present (image : Option Image) (src dst : Rect) (batch : Batch)
  | refreshDisplaySize
  | disablePlane
  | uninit

def Call.program (m : Manager) : Call → Program Manager
  | .present image src dst batch => Presentation.manager <$> m.present image src dst batch
  | .refreshDisplaySize => m.refreshDisplaySize
  | .disablePlane => (fun _ => m) <$> Overlay.disablePlane m.config
  | .uninit => m.uninit

/-- The calls after which nothing of the stream is left. -/
def Call.Closes : Call → Prop
  | .present image .. => image = none
  | .uninit => True
  | .refreshDisplaySize | .disablePlane => False

inductive Call.Does (m : Manager) : Call → List (Event interface) → Manager → Prop where
  | presented {image : Image} {src dst : Rect} {batch : Batch} {events : List (Event interface)}
      {p : Presentation} (presents : m.resumed.Presents image src dst batch events p) :
      Does m (.present (some image) src dst batch) events p.manager
  | ended {src dst : Rect} {batch : Batch} {events : List (Event interface)}
      (drains : m.Drains events) : Does m (.present none src dst batch) events m.ended
  | refreshed {events : List (Event interface)} {size : Option Size} (quiet : NoLeak events)
      (calls : requestsOf events = [.crtcModeSize m.config.targets.crtc]) :
      Does m .refreshDisplaySize events (m.withDisplaySize size)
  | disabled {events : List (Event interface)} (quiet : NoLeak events)
      (calls : requestsOf events = [disableRequest m.config]) : Does m .disablePlane events m
  | idle (torn : m.tornDown = true) : Does m .uninit [] m
  | released {events : List (Event interface)} (running : m.tornDown = false)
      (drains : m.Drains events) : Does m .uninit events m.released

theorem Call.does {m left : Manager} {call : Call} {events : List (Event interface)}
    (run : (call.program m).Runs events left) : call.Does m events left := by
  cases call with
  | present image src dst batch =>
    obtain ⟨p, presents, rfl⟩ := runs_map.mp run
    cases image with
    | none =>
      obtain ⟨drains, rfl⟩ := Manager.presentNone_runs presents
      exact .ended drains
    | some image => exact .presented (Manager.presentSome_runs presents)
  | refreshDisplaySize =>
    obtain ⟨answer, reports, rfl, rfl, silent, quiet⟩ := Manager.refreshDisplaySize_runs run
    exact .refreshed (by simpa using quiet) (by simp [silent])
  | disablePlane =>
    obtain ⟨_, disabling, rfl⟩ := runs_map.mp run
    obtain ⟨answer, reports, rfl, silent, quiet⟩ := disablePlane_runs disabling
    exact .disabled (by simpa using quiet) (by simp [silent])
  | uninit =>
    rcases Manager.uninit_runs run with ⟨torn, rfl, rfl⟩ | ⟨running, drains, rfl⟩
    · exact .idle torn
    · exact .released running drains

inductive Act where
  | create
  | call (call : Call)
  | drop

def Act.Closes : Act → Prop
  | .create => False
  | .call made => made.Closes
  | .drop => True

/-- What an act can do: there is no manager before it is created, nor if that is refused, nor after
it is dropped. -/
inductive Acts (config : Config) :
    Option Manager → Act → List (Event interface) → Option Manager → Prop where
  | refused {events : List (Event interface)} {e : PresentError}
      (creating : (Manager.create config).Runs events (.error e)) :
      Acts config none .create events none
  | created {events : List (Event interface)} {m : Manager}
      (creating : (Manager.create config).Runs events (.ok m)) :
      Acts config none .create events (some m)
  | called {events : List (Event interface)} {m left : Manager} {call : Call}
      (calling : (call.program m).Runs events left) :
      Acts config (some m) (.call call) events (some left)
  | dropped {events : List (Event interface)} {m : Manager} (dropping : m.drop.Runs events ()) :
      Acts config (some m) .drop events none

/-- A sequence of acts, what happened on the device, and the manager there is now. -/
inductive Lifetime (config : Config) :
    List Act → List (Event interface) → Option Manager → Prop where
  | start : Lifetime config [] [] none
  | next {acts : List Act} {act : Act} {before events : List (Event interface)}
      {owner left : Option Manager} (life : Lifetime config acts before owner)
      (step : Acts config owner act events left) :
      Lifetime config (acts ++ [act]) (before ++ events) left

/-- Some life of a manager with these settings leads here. -/
def Reachable (config : Config) (m : Manager) : Prop :=
  ∃ acts events, Lifetime config acts events (some m)

/-- What is true of a manager at any time. -/
structure Manager.Sound (config : Config) (m : Manager) : Prop where
  config_eq : m.config = config
  depth_eq : m.ring.depth = config.strategy.ringDepth
  /-- Every generation that is kept has been shown. -/
  framed : ∀ g ∈ m.ring.slots, g.framebuffer.isSome
  /-- What has been released holds nothing. -/
  torn : m.tornDown = true → m.ring.slots = [] ∧ m.hdr = none

namespace Manager.Sound

variable {config : Config} {m : Manager} {events : List (Event interface)}

theorem of_empty (config_eq : m.config = config) (depth_eq : m.ring.depth = config.strategy.ringDepth)
    (slots : m.ring.slots = []) (hdr : m.hdr = none) : m.Sound config where
  config_eq := config_eq
  depth_eq := depth_eq
  framed g member := by
    rw [slots] at member
    cases member
  torn _ := ⟨slots, hdr⟩

theorem torn_resources (sound : m.Sound config) (torn : m.tornDown = true) : m.resources = [] := by
  obtain ⟨slots, hdr⟩ := sound.torn torn
  rw [resources, sessionResources, slots, hdr]
  rfl

theorem two_le_depth (sound : m.Sound config) : 2 ≤ m.ring.depth := by
  rw [sound.depth_eq]
  cases config.strategy <;> decide

theorem depth_of_atomic (sound : m.Sound config) (atomic : m.config.strategy = .atomic) :
    m.ring.depth = 3 := by
  rw [sound.depth_eq, ← sound.config_eq, atomic]
  rfl

theorem videoPlane_eq (sound : m.Sound config) :
    m.config.targets.videoPlane = config.targets.videoPlane := by
  rw [sound.config_eq]

theorem resumed (sound : m.Sound config) : m.resumed.Sound config :=
  ⟨sound.config_eq, sound.depth_eq, sound.framed, fun torn => absurd torn Bool.false_ne_true⟩

theorem mem_slots_of_makeRoom {g : Generation} (member : g ∈ m.ring.makeRoom.2.slots) :
    g ∈ m.ring.slots := by
  rw [← Ring.makeRoom_slots]
  exact List.mem_append_right _ member

theorem presented {image : Image} {src dst : Rect} {batch : Batch} {p : Presentation}
    (sound : m.Sound config) (running : m.tornDown = false)
    (presents : m.Presents image src dst batch events p) : p.manager.Sound config := by
  cases outcome : p.outcome with
  | error fault =>
    have fails := presents.fails outcome
    have idle : p.manager.tornDown ≠ true := by simp [fails.tornDown_eq, running]
    refine ⟨fails.config_eq.trans sound.config_eq, ?_, ?_, fun torn => absurd torn idle⟩
    · cases fails.how with
      | check ring_eq => rw [ring_eq, sound.depth_eq]
      | device ring_eq => rw [ring_eq, Ring.makeRoom_depth, sound.depth_eq]
    · cases fails.how with
      | check ring_eq => rw [ring_eq]; exact sound.framed
      | device ring_eq =>
        rw [ring_eq]
        exact fun g member => sound.framed g (mem_slots_of_makeRoom member)
  | ok _ =>
    cases presents with
    | @shown _ _ _ size _ _ handles framebuffer left _ prepares importing submitted =>
      obtain ⟨hdr, reported, rfl⟩ := submitted.left_eq
      refine ⟨sound.config_eq, ?_, fun g member => ?_, fun torn => ?_⟩
      · exact (Ring.advance_depth _ _).trans ((Ring.makeRoom_depth _).trans sound.depth_eq)
      · rw [slots_installed m.ring.makeRoom_makeRoom] at member
        rcases List.mem_append.mp member with old | new
        · exact sound.framed g (mem_slots_of_makeRoom old)
        · rw [List.mem_singleton.mp new]
          rfl
      · exact absurd (running.symm.trans torn) Bool.false_ne_true
    | refused | importFailed | framebufferFailed | submitFailed => cases outcome

theorem does {call : Call} {left : Manager} (sound : m.Sound config)
    (does : call.Does m events left) : left.Sound config := by
  cases does with
  | presented presents => exact sound.resumed.presented rfl presents
  | ended | released => exact of_empty sound.config_eq sound.depth_eq rfl rfl
  | refreshed => exact ⟨sound.config_eq, sound.depth_eq, sound.framed, sound.torn⟩
  | disabled | idle => exact sound

end Manager.Sound

theorem Acts.sound {config : Config} {owner : Option Manager} {act : Act}
    {events : List (Event interface)} {m : Manager} (acts : Acts config owner act events (some m))
    (sound : ∀ before, owner = some before → before.Sound config) : m.Sound config := by
  cases acts with
  | created creating =>
    obtain ⟨size, panel, rfl⟩ := (Manager.create_runs creating).2.2 m rfl
    exact .of_empty rfl rfl rfl rfl
  | called calling => exact (sound _ rfl).does (Call.does calling)

theorem Lifetime.sound {config : Config} {acts : List Act} {events : List (Event interface)}
    {owner : Option Manager} (life : Lifetime config acts events owner) :
    ∀ m, owner = some m → m.Sound config := by
  induction life with
  | start =>
    intro m same
    cases same
  | next _ step ih =>
    rintro m rfl
    exact step.sound ih

/-! ### One life

A device that answers everything, and one image shown on it by atomic commits. -/

namespace Sample

open Simulation

def config : Config where
  targets := ⟨31, 41, 63⟩
  strategy := .atomic
  alignment := ⟨2, 2⟩
  zpos := 1
  osdSize := none

def image : Image where
  serial := 0
  descriptor :=
    { objects := [⟨⟨7⟩, 8294400⟩]
      layers := [⟨.xrgb8888, [⟨0, 0, 7680⟩]⟩]
      objects_allowed := by decide
      layers_allowed := by decide
      layers_fit := by simp [Layer.Fits, CountAllowed, maxPlanes] }
  size := ⟨1920, 1080⟩
  color := {}

def inPq : Image := { image with color := { transfer := .pq } }

def area : Rect := ⟨0, 0, 1920, 1080⟩

def device : DisplayDevice := ⟨true, some ⟨1920, 1080⟩, [], 0, [], [], [], []⟩

def created : Manager := .fresh config (some ⟨1920, 1080⟩) .silent

def creation : List (Event interface) :=
  ((Manager.create config).run DisplayDevice.answer device).1

theorem creation_runs : (Manager.create config).Runs creation (.ok created) :=
  runs_run (I := interface) DisplayDevice.answer (Manager.create config) device

def showing : List (Event interface) × Presentation × DisplayDevice :=
  (created.present (some image) area area .empty).run DisplayDevice.answer device

theorem showing_runs :
    (created.present (some image) area area .empty).Runs showing.1 showing.2.1 :=
  runs_run (I := interface) DisplayDevice.answer (created.present (some image) area area .empty) device

theorem shown_life : Lifetime config [.create, .call (.present (some image) area area .empty)]
    (creation ++ showing.1) (some showing.2.1.manager) :=
  .next (.next .start (.created creation_runs)) (.called (runs_map.mpr ⟨_, showing_runs, rfl⟩))

def presenting (m : Manager) (image : Image) (dst : Rect) (batch : Batch) (d : DisplayDevice) :
    List (Event interface) × Presentation × DisplayDevice :=
  (m.present (some image) area dst batch).run DisplayDevice.answer d

theorem presenting_runs (m : Manager) (image : Image) (dst : Rect) (batch : Batch)
    (d : DisplayDevice) :
    (m.present (some image) area dst batch).Runs (presenting m image dst batch d).1
      (presenting m image dst batch d).2.1 :=
  runs_run (I := interface) DisplayDevice.answer (m.present (some image) area dst batch) d

/-- The image is presented once more, after as many times as are said. -/
def showingAfter : Nat → List (Event interface) × Presentation × DisplayDevice
  | 0 => showing
  | n + 1 => presenting (showingAfter n).2.1.manager image area .empty (showingAfter n).2.2

theorem showingAfter_runs (n : Nat) :
    ((showingAfter n).2.1.manager.present (some image) area area .empty).Runs
      (showingAfter (n + 1)).1 (showingAfter (n + 1)).2.1 :=
  presenting_runs ..

def scaled : Config := { config with osdSize := some ⟨1920, 1080⟩ }

def smallDevice : DisplayDevice := { device with mode := some ⟨1280, 720⟩ }

def scaledCreated : Manager := .fresh scaled (some ⟨1280, 720⟩) .silent

def scaledCreation : List (Event interface) :=
  ((Manager.create scaled).run DisplayDevice.answer smallDevice).1

theorem scaledCreation_runs : (Manager.create scaled).Runs scaledCreation (.ok scaledCreated) :=
  runs_run (I := interface) DisplayDevice.answer (Manager.create scaled) smallDevice

end Sample

end Scanout.Overlay
