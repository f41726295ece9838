import Scanout.Proofs.Texture.Alive
import Scanout.Texture.Mapper

/-!
# Runs of the texture mapper

Every operation of a mapper gives back what is there before it makes anything, and leaves alive what
the mapper holds. `Turns` says so of a run: it is cut where the images of the earlier frame are gone
and none has been made yet.
-/

namespace Scanout.Texture

open Proc

namespace Mapper

def images (m : Mapper) : List ExternalImage := (m.mapped.map MappedFrame.images).getD []

def textureList (m : Mapper) : List TextureId := (m.textures.map Vector.toList).getD []

def bare : Mapper := { textures := none, mapped := none }

def alive (m : Mapper) : Alive := ⟨m.textureList, m.images⟩

variable {m left : Mapper} {events : List (Event interface)}

theorem flatMap_imagesMade_of_silent (silent : requestsOf events = []) :
    events.flatMap imagesMade = [] := by
  induction events with
  | nil => rfl
  | cons e rest ih =>
    cases e with
    | reported n => exact ih silent
    | answered request answer => cases silent

theorem destroyImages_runs {failed : PresentError → Notice} {destroyed : List ExternalImage} {u : Unit}
    (run : (destroyImages failed destroyed).Runs events u) (textures : List TextureId) :
    Leads ⟨textures, destroyed⟩ events ⟨textures, []⟩ ∧ events.flatMap imagesMade = [] := by
  induction destroyed generalizing events with
  | nil =>
    obtain ⟨rfl, -⟩ := runs_pure.mp run
    exact ⟨leads_nil _, rfl⟩
  | cons image rest ih =>
    obtain ⟨answer, others, rfl, reporting⟩ := runs_ask_bind.mp run
    obtain ⟨reports, _, later, rfl, reported, remaining⟩ := runs_bind.mp reporting
    obtain ⟨silent, -⟩ := noticeFailure_runs reported
    obtain ⟨leads, unmade⟩ := ih remaining
    refine ⟨?_, ?_⟩
    · exact leads_answered rfl (Alive.after_imageDestroyed ..)
        ((leads_of_silent silent).append leads)
    · simp [List.flatMap_append, flatMap_imagesMade_of_silent silent, unmade, imagesMade]

theorem unmap_runs (run : m.unmap.Runs events left) :
    left = { m with mapped := none } ∧ Leads m.alive events ⟨m.textureList, []⟩ ∧
      events.flatMap imagesMade = [] := by
  unfold unmap at run
  unfold alive images
  split at run
  · rename_i absent
    obtain ⟨rfl, rfl⟩ := runs_pure.mp run
    rw [absent]
    exact ⟨by rw [← absent], leads_nil _, rfl⟩
  · rename_i frame present
    obtain ⟨destroys, _, last, rfl, destroyed, done⟩ := runs_bind.mp run
    obtain ⟨rfl, rfl⟩ := runs_pure.mp done
    rw [present, List.append_nil]
    exact ⟨rfl, destroyImages_runs destroyed _⟩

theorem deleteTextures_runs (unmapped : m.mapped = none) (run : m.deleteTextures.Runs events left) :
    left = bare ∧ Leads m.alive events .nothing ∧
      events.flatMap imagesMade = [] := by
  obtain ⟨textures, mapped⟩ := m
  obtain rfl : mapped = none := unmapped
  cases textures with
  | none =>
    obtain ⟨rfl, rfl⟩ := runs_pure.mp run
    exact ⟨rfl, leads_nil _, rfl⟩
  | some textures =>
    obtain ⟨answer, later, rfl, done⟩ := runs_ask_bind.mp run
    obtain ⟨rfl, rfl⟩ := runs_pure.mp done
    exact ⟨rfl, leads_answered rfl (Alive.after_texturesDeleted ..) (leads_nil _), rfl⟩

theorem destroy_runs (run : m.destroy.Runs events left) :
    left = bare ∧ Leads m.alive events .nothing ∧
      events.flatMap imagesMade = [] := by
  obtain ⟨unmaps, cleared, deletes, rfl, unmapped, deleted⟩ := runs_bind.mp run
  obtain ⟨rfl, leads, unmade⟩ := unmap_runs unmapped
  obtain ⟨rfl, gone, none⟩ := deleteTextures_runs rfl deleted
  exact ⟨rfl, leads.append gone, by rw [List.flatMap_append, unmade, none]; rfl⟩

/-- What making the textures leaves: them, if there are any, and no frame. -/
structure Allocates (m : Mapper) (events : List (Event interface)) (left : Mapper)
    (outcome : Except PresentError (Vector TextureId maxPlanes)) : Prop where
  left_eq : left = { textures := outcome.toOption, mapped := none }
  leads : Leads m.alive events left.alive
  unmade : events.flatMap imagesMade = []

theorem allocate_runs {outcome : Except PresentError (Vector TextureId maxPlanes)}
    (run : m.allocate.Runs events (left, outcome)) : m.Allocates events left outcome := by
  obtain ⟨destroys, cleared, others, rfl, destroyed, rest⟩ := runs_bind.mp run
  obtain ⟨rfl, gone, unmade⟩ := destroy_runs destroyed
  obtain ⟨answer, later, rfl, done⟩ := runs_ask_bind.mp rest
  have permits : Alive.nothing.Permits (.createTextures maxPlanes) := ⟨rfl, rfl⟩
  cases answer with
  | ok textures =>
    obtain ⟨rfl, rfl, rfl⟩ := runs_pure_pair.mp done
    exact ⟨rfl, gone.append (leads_answered permits rfl (leads_nil _)),
      by simpa [imagesMade] using unmade⟩
  | error e =>
    obtain ⟨rfl, rfl, rfl⟩ := runs_pure_pair.mp done
    exact ⟨rfl, gone.append (leads_answered permits rfl (leads_nil _)),
      by simpa [imagesMade] using unmade⟩

theorem ensureTextures_runs {outcome : Except PresentError (Vector TextureId maxPlanes)}
    (unmapped : m.mapped = none) (run : m.ensureTextures.Runs events (left, outcome)) :
    m.Allocates events left outcome := by
  obtain ⟨textures, mapped⟩ := m
  obtain rfl : mapped = none := unmapped
  cases textures with
  | none => exact allocate_runs run
  | some textures =>
    obtain ⟨rfl, rfl, rfl⟩ := runs_pure_pair.mp run
    exact ⟨rfl, leads_nil _, rfl⟩

/-- Every image that is made is bound to a texture that is alive, and stays. -/
theorem bindLayers_runs {image : Image} {index : Nat} {pairs : List (Layer × TextureId)}
    {made : List ExternalImage} {outcome : Except PresentError (List Binding)}
    (run : (bindLayers image index pairs).Runs events (made, outcome)) {alive : Alive}
    (full : alive.textures.length = maxPlanes) (paired : ∀ pair ∈ pairs, pair.2 ∈ alive.textures) :
    Leads alive events ⟨alive.textures, alive.images ++ made⟩ := by
  induction pairs generalizing index events made outcome alive with
  | nil =>
    obtain ⟨rfl, rfl, rfl⟩ := runs_pure_pair.mp run
    rw [List.append_nil]
    exact leads_nil _
  | cons pair rest ih =>
    obtain ⟨layer, texture⟩ := pair
    obtain ⟨here, others⟩ := List.forall_mem_cons.mp paired
    simp only [bindLayers] at run
    split at run
    · obtain ⟨rfl, rfl, rfl⟩ := runs_pure_pair.mp run
      rw [List.append_nil]
      exact leads_nil _
    · obtain ⟨call, answer, later, rfl, asked, following⟩ := runs_bind.mp run
      obtain rfl := runs_ask.mp asked
      cases answer with
      | error e =>
        obtain ⟨rfl, rfl, rfl⟩ := runs_pure_pair.mp following
        rw [List.append_nil, List.append_nil]
        exact leads_answered full (Alive.after_imageRefused ..) (leads_nil _)
      | ok image =>
        obtain ⟨binding, bound, last, rfl, binds, remaining⟩ := runs_bind.mp following
        obtain rfl := runs_ask.mp binds
        have permits : Alive.Permits ⟨alive.textures, alive.images ++ [image]⟩
            (.bindImage texture image) := ⟨here, by simp⟩
        refine leads_answered full (Alive.after_imageMade ..)
          (leads_answered permits (Alive.after_bound ..) ?_)
        cases bound with
        | error e =>
          obtain ⟨rfl, rfl, rfl⟩ := runs_pure_pair.mp remaining
          exact leads_nil _
        | ok _ =>
          obtain ⟨recurses, ⟨more, rebound⟩, nothing, rfl, recursive, done⟩ := runs_bind.mp remaining
          obtain ⟨rfl, rfl, rfl⟩ := runs_pure_pair.mp done
          have later : Leads ⟨alive.textures, alive.images ++ [image]⟩ recurses
              ⟨alive.textures, alive.images ++ [image] ++ more⟩ := ih recursive full others
          rw [List.append_assoc] at later
          rw [List.append_nil]
          exact later

/-- A run that first gives back the images of the frame before, and only then makes its own. -/
def Replaces (m : Mapper) (events : List (Event interface)) (left : Mapper) : Prop :=
  ∃ cleared making textures, events = cleared ++ making ∧ cleared.flatMap imagesMade = [] ∧
    Leads m.alive cleared ⟨textures, []⟩ ∧ Leads ⟨textures, []⟩ making left.alive

theorem Replaces.of_unmapped (leads : Leads m.alive events left.alive)
    (unmade : events.flatMap imagesMade = []) (unmapped : left.mapped = none) :
    m.Replaces events left := by
  have cleared : left.alive = ⟨left.textureList, []⟩ := by
    rw [alive, images, unmapped]
    rfl
  exact ⟨events, [], left.textureList, (List.append_nil _).symm, unmade, cleared ▸ leads,
    cleared ▸ leads_nil _⟩

theorem mapFrame_runs {image : Image} {outcome : Except PresentError (List Binding)}
    (run : (m.mapFrame image).Runs events (left, outcome)) :
    m.Replaces events left ∧
      left.mapped.map MappedFrame.frame = if outcome.toBool then some image else none := by
  obtain ⟨unmaps, cleared, others, rfl, unmapped, rest⟩ := runs_bind.mp run
  obtain ⟨rfl, leads, unmade⟩ := unmap_runs unmapped
  obtain ⟨ensures, ⟨ready, ensured⟩, later, rfl, ensuring, mapping⟩ := runs_bind.mp rest
  obtain ⟨rfl, kept, none⟩ := ensureTextures_runs rfl ensuring
  have clears : (unmaps ++ ensures).flatMap imagesMade = [] := by
    rw [List.flatMap_append, unmade, none]
    rfl
  rw [← List.append_assoc]
  cases ensured with
  | error e =>
    obtain ⟨rfl, rfl, rfl⟩ := runs_pure_pair.mp mapping
    exact ⟨⟨_, _, _, rfl, clears, leads.append kept, leads_nil _⟩, rfl⟩
  | ok textures =>
    obtain ⟨binds, ⟨images, bound⟩, last, rfl, binding, done⟩ := runs_bind.mp mapping
    have made : Leads ⟨textures.toList, []⟩ binds ⟨textures.toList, images⟩ :=
      bindLayers_runs binding textures.length_toList fun pair member => (List.of_mem_zip member).2
    cases bound with
    | error e =>
      obtain ⟨destroys, _, nothing, rfl, destroyed, ending⟩ := runs_bind.mp done
      obtain ⟨rfl, rfl, rfl⟩ := runs_pure_pair.mp ending
      obtain ⟨gone, -⟩ := destroyImages_runs destroyed textures.toList
      refine ⟨⟨_, _, _, rfl, clears, leads.append kept, made.append ?_⟩, rfl⟩
      rw [List.append_nil]
      exact gone
    | ok bindings =>
      obtain ⟨rfl, rfl, rfl⟩ := runs_pure_pair.mp done
      refine ⟨⟨_, _, _, rfl, clears, leads.append kept, ?_⟩, rfl⟩
      rw [List.append_nil]
      exact made

/-- At every instant the images that are alive are of one frame: of the one before, and then none
has been made yet, or of the one that is being made. -/
theorem Replaces.one_frame (replaces : m.Replaces events left) {seen later : List (Event interface)}
    (cut : events = seen ++ later) :
    ((m.alive.run seen).images <:+ m.images ∧ seen.flatMap imagesMade = []) ∨
      (m.alive.run seen).images <:+ seen.flatMap imagesMade := by
  obtain ⟨cleared, making, textures, rfl, unmade, clears, makes⟩ := replaces
  rcases List.append_eq_append_iff.mp cut with ⟨begun, rfl, rfl⟩ | ⟨rest, rfl, rfl⟩
  · refine .inr ?_
    have books := (obeys_append.mp makes.obeys).1.images_eq
    rw [Alive.run_append, clears.run_eq, List.flatMap_append, unmade]
    exact ⟨_, books.symm⟩
  · have none : seen.flatMap imagesMade = [] := by
      rw [List.flatMap_append] at unmade
      exact (List.append_eq_nil_iff.mp unmade).1
    have books := (obeys_append.mp clears.obeys).1.images_eq
    rw [none, List.append_nil] at books
    exact .inl ⟨⟨_, books.symm⟩, none⟩

end Mapper

end Scanout.Texture
