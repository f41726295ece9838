import Mathlib.Data.List.Basic
import Scanout.Proofs.Overlay.Lifetime

/-!
# The end of a stream, call by call

An end of stream cannot fail. What it asks of the device is written out here in full, for every ring
and whatever the device answers: the plane is disabled, then each generation is given up with its
framebuffer before its handles, and the metadata come last. A release of the overlay asks for the
same.
-/

namespace Scanout

open Display Proc

namespace HandleSet

theorem toList_slots (s : HandleSet) : s.slots.toList = (List.range maxPlanes).map s.get? := by
  apply List.ext_getElem
  · rw [Vector.length_toList, List.length_map, List.length_range]
  · intro i below _
    rw [Vector.length_toList] at below
    simp [get?, below]

theorem held_eq (s : HandleSet) : s.held = (List.range maxPlanes).filterMap s.get? := by
  rw [held, toList_slots, List.filterMap_map]
  rfl

end HandleSet

namespace Overlay

/-- A request by which the video plane is detached, at once and on its own. -/
def Config.Disables (config : Config) (request : Request) : Prop :=
  match config.strategy with
  | .atomic =>
    request = .commit ⟨[⟨.plane config.targets.videoPlane, Property.fbId, 0⟩,
      ⟨.plane config.targets.videoPlane, Property.crtcId, 0⟩]⟩ true
  | .legacy =>
    ∃ update, request = .setPlane update ∧ update.plane = config.targets.videoPlane ∧
      update.framebuffer = none

theorem disables_disableRequest (config : Config) : config.Disables (disableRequest config) := by
  unfold Config.Disables disableRequest
  cases config.strategy with
  | atomic => rfl
  | legacy => exact ⟨_, rfl, rfl, rfl⟩

def releasesOf (g : Generation) : List Request :=
  g.framebuffer.toList.map .destroyFramebuffer
    ++ ((List.range maxPlanes).filterMap g.handles.get?).map .closeHandle

theorem map_releaseCall_resources (g : Generation) :
    g.resources.map Resource.releaseCall = releasesOf g := by
  rw [Generation.resources, List.map_append, List.map_map, HandleSet.resources, List.map_map,
    HandleSet.held_eq]
  rfl

def zeroedSignals (targets : Targets) : List PropertyWrite :=
  [⟨.plane targets.videoPlane, Property.eotf, 0⟩,
    ⟨.plane targets.videoPlane, Property.colorSpace, 0⟩,
    ⟨.connector targets.connector, Property.hdmiOutputFormat, 0⟩,
    ⟨.connector targets.connector, Property.hdrSourceMetadata, 0⟩]

namespace Manager

variable {config : Config} {m : Manager} {src dst : Rect} {batch : Batch}
  {events : List (Event interface)} {p : Presentation}

/-- What an end of stream asks for, in order, of a manager that holds what this one holds. -/
structure EndCalls (config : Config) (m : Manager) (calls : List Request) : Prop where
  framed : ∀ g ∈ m.ring.slots, g.framebuffer.isSome
  calls_eq : ∃ disable, config.Disables disable ∧ calls
    = disable :: (m.ring.slots.flatMap releasesOf
        ++ m.hdr.toList.map fun session => .destroyBlob session.blob)

theorem Drains.requestsOf_eq (drains : m.Drains events) :
    requestsOf events = disableRequest m.config :: m.resources.map Resource.releaseCall := by
  obtain ⟨answer, releases, rfl, given⟩ := drains.calls
  rw [requestsOf_disableEvent, given]

theorem Drains.endCalls (drains : m.Drains events) (sound : m.Sound config) :
    EndCalls config m (requestsOf events) where
  framed := sound.framed
  calls_eq := by
    have each : (fun g : Generation => g.resources.map Resource.releaseCall) = releasesOf :=
      funext map_releaseCall_resources
    refine ⟨_, disables_disableRequest config, ?_⟩
    rw [drains.requestsOf_eq, sound.config_eq, resources, List.map_append, List.map_flatMap, each,
      sessionResources, List.map_map]
    rfl

/-- What an end of stream comes to. -/
structure EndsStream (config : Config) (m : Manager) (batch : Batch)
    (events : List (Event interface)) (p : Presentation) : Prop where
  outcome_eq : p.outcome = .ok ()
  calls : EndCalls config m (requestsOf events)
  slots_eq : p.manager.ring.slots = []
  hdr_eq : p.manager.hdr = none
  atomic : config.strategy = .atomic →
    p.batch.writes = batch.writes ++ zeroedSignals config.targets
  legacy : config.strategy = .legacy → p.batch = batch
  /-- A release asks for the same. -/
  released : m.tornDown = false → ∀ others left, m.uninit.Runs others left →
    requestsOf others = requestsOf events ∧ left.ring.slots = [] ∧ left.hdr = none

/-- At any time and whatever the device answers, a stream ends, and by the same calls. -/
theorem present_none_ends (reachable : Reachable config m)
    (run : (m.present none src dst batch).Runs events p) : EndsStream config m batch events p := by
  obtain ⟨acts, past, life⟩ := reachable
  have sound := life.sound m rfl
  obtain ⟨drains, rfl⟩ := presentNone_runs run
  constructor
  · rfl
  · exact drains.endCalls sound
  · rfl
  · rfl
  · intro atomic
    show (m.resetBatch batch).writes = _
    rw [resetBatch, sound.config_eq, atomic]
    rfl
  · intro legacy
    show m.resetBatch batch = batch
    rw [resetBatch, sound.config_eq, legacy]
  · intro running others left releasing
    rcases uninit_runs releasing with ⟨torn, -⟩ | ⟨-, drainsToo, rfl⟩
    · cases running.symm.trans torn
    · exact ⟨drainsToo.requestsOf_eq.trans drains.requestsOf_eq.symm, rfl, rfl⟩

/-- The stream ends after its first frame, on a device that refuses to disable the plane and to
destroy the framebuffer. -/
theorem present_none_ends_refused :
    ∃ events p, Reachable Sample.config Sample.showing.2.1.manager ∧
      (Sample.showing.2.1.manager.present none Sample.area Sample.area .empty).Runs events p ∧
      EndsStream Sample.config Sample.showing.2.1.manager .empty events p ∧
      requestsOf events = [.commit (disableBatch 63) true, .destroyFramebuffer ⟨2⟩,
        .closeHandle ⟨1⟩, .destroyBlob ⟨3⟩] := by
  have reachable : Reachable Sample.config Sample.showing.2.1.manager := ⟨_, _, Sample.shown_life⟩
  have run := runs_run (I := interface) Simulation.DisplayDevice.answer
    (Sample.showing.2.1.manager.present none Sample.area Sample.area .empty)
    { Sample.showing.2.2 with failures := [⟨"commit", 0, 1, "commit rejected"⟩,
      ⟨"destroy_framebuffer", 0, 1, "destroy_framebuffer rejected"⟩] }
  exact ⟨_, _, reachable, run, present_none_ends reachable run, by decide⟩

end Manager

end Overlay

end Scanout
