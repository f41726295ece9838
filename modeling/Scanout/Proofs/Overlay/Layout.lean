import Scanout.Proofs.Import.Order
import Scanout.Proofs.Overlay.Placement

/-!
# The layout of a framebuffer

A frame is shown by one framebuffer, whose layout has an entry for each of its planes. That every
entry is filled rests on bounds from three places: a descriptor is accepted only with planes that
lie in its objects (`Frame.Descriptor`), an import that succeeds has a handle for every object that
it was to import (`Extends.complete`), and there are no more planes than entries.
-/

namespace Scanout

open Display Proc HandleSet

theorem acquisitionsOf_exchangesOf (events : List (Event interface)) :
    acquisitionsOf (exchangesOf events) = acquisitionsOf events :=
  callsOf_callsOf (fun _ _ => rfl) events

theorem refused_acquisitionsOf {events : List (Event interface)} :
    Refused (acquisitionsOf events) ↔ Refused events :=
  exists_congr fun _ => exists_congr fun _ => mem_callsOf.trans (and_iff_left rfl)

theorem acquisitionsOf_exchanges (imports : List Imported) :
    acquisitionsOf (imports.map Imported.exchange) = imports.map Imported.exchange := by
  refine List.filter_eq_self.mpr fun event member => ?_
  obtain ⟨x, -, rfl⟩ := List.mem_map.mp member
  rfl

theorem acquiredOf_acquisitionsOf_sublist (events : List (Event interface)) :
    (acquiredOf (movementsOf (acquisitionsOf events))).Sublist (acquiredOf (movementsOf events)) :=
  (List.filter_sublist.filterMap _).filterMap _

theorem acquiredOf_exchanges (imports : List Imported) :
    acquiredOf (movementsOf (imports.map Imported.exchange))
      = (imports.map Imported.handle).map .handle := by
  induction imports with
  | nil => rfl
  | cons x rest ih =>
    rw [List.map_cons, Imported.exchange, movementsOf_answered, acquiredOf_append, ih]
    rfl

namespace Overlay

/-- A layout has an entry for every plane of an image's framebuffer, with the handle that the
plane's object was imported under, and no entry beside these. -/
structure Complete (image : Image) (imports : List Imported) (layout : FramebufferLayout) :
    Prop where
  size : layout.size = image.size
  format : image.descriptor.scanoutFormat = .ok layout.format
  count : CountAllowed image.descriptor.scanoutPlanes.length
  /-- Several layers are shown by the planes of the format that they are mapped to. -/
  mapped : image.descriptor.layers.length ≠ 1 →
    (layout.format = .nv12 ∨ layout.format = .p010) ∧
        image.descriptor.scanoutPlanes.length = 2 ∨
      layout.format = .yuv420 ∧ image.descriptor.scanoutPlanes.length = 3
  imported : ∀ x ∈ imports, image.descriptor.object? x.index = some x.memory
  entry : ∀ (i : Fin maxPlanes) (p : Plane), image.descriptor.scanoutPlanes[i.val]? = some p →
    ∃ x ∈ imports, x.index = p.object ∧ layout.handles[i] = some x.handle ∧
      layout.pitches[i] = p.pitch ∧ layout.offsets[i] = p.offset
  blank : ∀ i : Fin maxPlanes, image.descriptor.scanoutPlanes.length ≤ i →
    layout.handles[i] = none ∧ layout.pitches[i] = 0 ∧ layout.offsets[i] = 0

/-- Entries have the same handle where their planes lie in the same object. -/
def SharesByObject (planes : List Plane) (layout : FramebufferLayout) : Prop :=
  ∀ (i j : Fin maxPlanes) (p q : Plane), planes[i.val]? = some p → planes[j.val]? = some q →
    (layout.handles[i] = layout.handles[j] ↔ p.object = q.object)

theorem Complete.shares {image : Image} {imports : List Imported} {layout : FramebufferLayout}
    (complete : Complete image imports layout) (once : (imports.map Imported.index).Nodup)
    (apart : (imports.map Imported.handle).Nodup) :
    SharesByObject image.descriptor.scanoutPlanes layout := by
  intro i j p q first second
  obtain ⟨x, among, lies, handled, -⟩ := complete.entry i p first
  obtain ⟨y, amongToo, liesToo, handledToo, -⟩ := complete.entry j q second
  rw [handled, handledToo, ← lies, ← liesToo, Option.some.injEq]
  constructor
  · intro same
    rw [List.inj_on_of_nodup_map apart among amongToo same]
  · intro same
    rw [List.inj_on_of_nodup_map once among amongToo same]

theorem layoutOf_complete {image : Image} {format : Fourcc} {handles : HandleSet}
    {imports : List Imported}
    (formatted : image.descriptor.scanoutFormat = .ok format)
    (wanted : imports.map Imported.index = usedObjects image.descriptor.scanoutPlanes)
    (listed : ∀ x ∈ imports, image.descriptor.object? x.index = some x.memory)
    (held : ∀ x ∈ imports, handles.get? x.index = some x.handle) :
    Complete image imports (Manager.layoutOf image format handles) where
  size := rfl
  format := formatted
  count := ⟨List.length_pos_of_ne_nil image.descriptor.scanoutPlanes_ne_nil,
    image.descriptor.inBounds.slotted⟩
  mapped several := FrameDescriptor.planeCount_of_scanoutFormat several formatted
  imported := listed
  entry i p here := by
    have used : p.object ∈ usedObjects image.descriptor.scanoutPlanes :=
      mem_usedObjects.mpr ⟨p, List.mem_of_getElem? here, rfl⟩
    rw [← wanted] at used
    obtain ⟨x, among, same⟩ := List.mem_map.mp used
    refine ⟨x, among, same, ?_, ?_, ?_⟩
    · simp [Manager.layoutOf, framebufferLayout, here, ← same, held x among]
    · simp [Manager.layoutOf, framebufferLayout, here]
    · simp [Manager.layoutOf, framebufferLayout, here]
  blank i beyond := by
    have absent := List.getElem?_eq_none beyond
    simp [Manager.layoutOf, framebufferLayout, absent]

namespace Acquires

variable {placed : Except Fault PlaneGeometry} {image : Image} {calls : List (Event interface)}
  {result : Except Fault Acquired}

theorem complete (acquires : Acquires placed image calls result) {layout : FramebufferLayout}
    {answer : Except DeviceError FramebufferId}
    (asked : .answered (.addFramebuffer layout) answer ∈ calls) :
    ∃ imports, calls
        = imports.map Imported.exchange ++ [.answered (.addFramebuffer layout) answer] ∧
      (imports.map Imported.index).Nodup ∧ Complete image imports layout := by
  have unasked {events : List (Event interface)} {outcome : Except PresentError HandleSet}
      (importing : (ofPlanes image.descriptor image.descriptor.scanoutPlanes).Runs events outcome) :
      .answered (.addFramebuffer layout) answer ∉ acquisitionsOf events := by
    intro among
    have requested := mem_requestsOf (mem_callsOf.mp among).1
    rcases (extend_runs importing).request_cases requested with ⟨fd, ⟨⟩⟩ | ⟨h, ⟨⟩⟩
  cases acquires with
  | refused => cases asked
  | unimported _ importing => exact absurd asked (unasked importing)
  | answered checked importing reply =>
    rcases List.mem_append.mp asked with early | last
    · exact absurd early (unasked importing)
    cases List.mem_singleton.mp last
    obtain ⟨imports, wanted, exchanges, listed, adds⟩ := (extends_of_runs importing).complete
    rw [awaited_empty] at wanted
    refine ⟨imports, ?_, ?_, ?_⟩
    · rw [← acquisitionsOf_exchangesOf, exchanges, acquisitionsOf_exchanges]
    · rw [wanted]
      exact usedObjects_nodup _
    · refine layoutOf_complete (check_ok checked).2 wanted listed fun x among => ?_
      exact (adds.get?_iff x.index x.handle).mpr (.inr ⟨x, among, rfl, rfl⟩)

/-- To show a frame that can be shown, a framebuffer is asked for unless an object is refused. -/
theorem reached (acquires : Acquires placed image calls result) {geometry : PlaneGeometry}
    {format : Fourcc} (placed_eq : placed = .ok geometry)
    (formatted : image.descriptor.scanoutFormat = .ok format) (unrefused : ¬Refused calls) :
    ∃ layout answer, .answered (.addFramebuffer layout) answer ∈ calls := by
  cases acquires with
  | refused checked =>
    rcases check_error checked with misplaced | ⟨_, e, -, unformatted, -⟩
    · cases placed_eq.symm.trans misplaced
    · cases formatted.symm.trans unformatted
  | unimported checked importing =>
    obtain ⟨object, fd, cause, -, member⟩ := ofPlanes_error importing
    exact absurd (refused_acquisitionsOf.mpr ⟨fd, cause, member⟩) unrefused
  | answered checked importing answer =>
    exact ⟨_, answer, List.mem_append_right _ (List.mem_singleton_self _)⟩

end Acquires

namespace Manager

variable {m : Manager} {image : Image} {src dst : Rect} {batch : Batch}
  {events : List (Event interface)} {p : Presentation}

structure LaysOut (m : Manager) (image : Image) (src dst : Rect) (events : List (Event interface))
    (p : Presentation) : Prop where
  inBounds : image.descriptor.InBounds
  /-- No object of the planes is missing. -/
  present : ∀ imports i, ¬(ofPlanes image.descriptor image.descriptor.scanoutPlanes).Runs imports
    (.error (.missingObject i))
  complete : ∀ layout answer, .answered (.addFramebuffer layout) answer ∈ events →
    ∃ imports, acquisitionsOf events
        = imports.map Imported.exchange ++ [.answered (.addFramebuffer layout) answer] ∧
      Complete image imports layout ∧
      -- The device hands nothing out twice during the presentation.
      ((acquiredOf (movementsOf events)).Nodup →
        SharesByObject image.descriptor.scanoutPlanes layout)
  reached : ∀ geometry format,
    (m.withDisplaySize p.manager.displaySize).place src dst = .ok geometry →
    image.descriptor.scanoutFormat = .ok format → ¬Refused events →
    ∃ layout answer, .answered (.addFramebuffer layout) answer ∈ events

/-- A descriptor is accepted exactly if its parts are admissible. The framebuffer that is asked for
to show an image with it is complete, whatever part of the image is shown where. -/
theorem framebuffer_complete (run : (m.present (some image) src dst batch).Runs events p) :
    (∀ objects layers, (∃ d, FrameDescriptor.ofParts objects layers = .ok d) ↔
      FrameDescriptor.Admissible objects layers) ∧
    (∀ objects layers d, FrameDescriptor.ofParts objects layers = .ok d →
      d.objects = objects ∧ d.layers = layers) ∧
    m.LaysOut image src dst events p := by
  refine ⟨fun objects layers => FrameDescriptor.ofParts_isOk_iff,
    fun objects layers d => FrameDescriptor.ofParts_eq_ok.mp, ?_⟩
  obtain ⟨calls, result, acquires, ends⟩ := (presentSome_runs run).acquires
  have calls_eq := ends.acquisitionsOf_eq acquires.acquisitionsOf_eq
  have asked_iff (layout : FramebufferLayout) (answer : Except DeviceError FramebufferId) :
      .answered (.addFramebuffer layout) answer ∈ calls ↔
        .answered (.addFramebuffer layout) answer ∈ events := by
    rw [← calls_eq, mem_callsOf]
    exact and_iff_left rfl
  constructor
  · exact image.descriptor.inBounds
  · intro imports i missing
    obtain ⟨object, fd, cause, ⟨⟩, -⟩ := ofPlanes_error missing
  · intro layout answer asked
    obtain ⟨imports, exchanges, once, complete⟩ :=
      acquires.complete ((asked_iff layout answer).mpr asked)
    refine ⟨imports, calls_eq.trans exchanges, complete, fun distinct => ?_⟩
    have handed := (acquiredOf_acquisitionsOf_sublist events).nodup distinct
    rw [calls_eq, exchanges, movementsOf_append, acquiredOf_append, acquiredOf_exchanges] at handed
    exact complete.shares once handed.of_append_left.of_map
  · intro geometry format placed formatted unrefused
    rw [← refused_acquisitionsOf, calls_eq] at unrefused
    obtain ⟨layout, answer, asked⟩ := acquires.reached placed formatted unrefused
    exact ⟨layout, answer, (asked_iff layout answer).mp asked⟩

end Manager

namespace Sample

open Simulation

def separate : Image where
  serial := 0
  descriptor :=
    { objects := [⟨⟨8⟩, 3110400⟩]
      layers := [⟨.r8, [⟨0, 0, 1920⟩]⟩, ⟨.gr88, [⟨0, 2073600, 1920⟩]⟩]
      objects_allowed := by decide
      layers_allowed := by decide
      layers_fit := by simp [Layer.Fits, CountAllowed, maxPlanes] }
  size := ⟨1920, 1080⟩
  color := {}

end Sample

namespace Manager

/-- A part of an image whose two planes lie in the same object. -/
theorem framebuffer_complete_separate :
    ∃ events p, (Sample.created.present (some Sample.separate) ⟨0, 0, 640, 480⟩ Sample.area
        .empty).Runs events p ∧
      .addFramebuffer
          { size := ⟨1920, 1080⟩, format := .nv12, handles := #v[some ⟨1⟩, some ⟨1⟩, none, none]
            pitches := #v[1920, 1920, 0, 0], offsets := #v[0, 2073600, 0, 0] }
        ∈ requestsOf events ∧
      (acquiredOf (movementsOf events)).Nodup ∧
      Sample.created.LaysOut Sample.separate ⟨0, 0, 640, 480⟩ Sample.area events p := by
  have run := runs_run (I := interface) Simulation.DisplayDevice.answer
    (Sample.created.present (some Sample.separate) ⟨0, 0, 640, 480⟩ Sample.area .empty) Sample.device
  exact ⟨_, _, run, by decide, by decide, (framebuffer_complete run).2.2⟩

end Manager

end Overlay

end Scanout
