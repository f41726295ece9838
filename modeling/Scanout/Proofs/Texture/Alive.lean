import Mathlib.Data.List.Nodup
import Scanout.Proofs.Proc.Runs
import Scanout.Texture.ImageApi

/-!
# What is alive on the GPU

The textures and images that a list of events has left alive: made, and not yet passed to the call
that gives them back. `Obeys` is the discipline of one frame at a time. Textures are made when
nothing is alive and deleted all at once, when no image is; images are made for a full set of
textures and destroyed in the order in which they were made.

Under that discipline the books balance as lists (`Obeys.images_eq`, `Obeys.textures_eq`), whatever
the names that the GPU gives out.
-/

namespace Scanout.Texture

structure Alive where
  textures : List TextureId
  images : List ExternalImage
  deriving DecidableEq

def texturesMade : Event interface → List TextureId
  | .answered (.createTextures _) (.ok made) => made.toList
  | _ => []

def texturesDeleted : Event interface → List TextureId
  | .answered (.deleteTextures textures) _ => textures
  | _ => []

def imagesMade : Event interface → List ExternalImage
  | .answered (.createImage _) (.ok made) => [made]
  | _ => []

def imagesDestroyed : Event interface → List ExternalImage
  | .answered (.destroyImage image) _ => [image]
  | _ => []

namespace Alive

def nothing : Alive := ⟨[], []⟩

/-- What is alive after an event. What is passed to its release call counts as gone, whatever the
answer. -/
def after (alive : Alive) (e : Event interface) : Alive where
  textures := alive.textures.diff (texturesDeleted e) ++ texturesMade e
  images := alive.images.diff (imagesDestroyed e) ++ imagesMade e

def run (alive : Alive) (events : List (Event interface)) : Alive := events.foldl after alive

/-- When a call may be made. -/
def Permits (alive : Alive) : Request → Prop
  | .createTextures count => count = maxPlanes ∧ alive = nothing
  | .deleteTextures textures => alive = ⟨textures, []⟩
  | .createImage _ => alive.textures.length = maxPlanes
  | .destroyImage image => alive.images.head? = some image
  | .bindImage texture image => texture ∈ alive.textures ∧ image ∈ alive.images

instance (alive : Alive) : DecidablePred alive.Permits
  | .createTextures count => inferInstanceAs (Decidable (count = maxPlanes ∧ alive = nothing))
  | .deleteTextures textures => inferInstanceAs (Decidable (alive = ⟨textures, []⟩))
  | .createImage _ => inferInstanceAs (Decidable (alive.textures.length = maxPlanes))
  | .destroyImage image => inferInstanceAs (Decidable (alive.images.head? = some image))
  | .bindImage texture image =>
    inferInstanceAs (Decidable (texture ∈ alive.textures ∧ image ∈ alive.images))

end Alive

/-- Every call is made when it may be. -/
def Obeys (alive : Alive) : List (Event interface) → Prop
  | [] => True
  | .reported _ :: rest => Obeys alive rest
  | .answered request answer :: rest =>
    alive.Permits request ∧ Obeys (alive.after (.answered request answer)) rest

section Runs

variable {alive : Alive} {events first rest : List (Event interface)}

@[simp] theorem Alive.run_cons (e : Event interface) :
    alive.run (e :: rest) = (alive.after e).run rest := rfl

@[simp] theorem Alive.run_append : alive.run (first ++ rest) = (alive.run first).run rest :=
  List.foldl_append

theorem Alive.after_reported (alive : Alive) (n : Notice) : alive.after (.reported n) = alive := by
  simp [Alive.after, texturesMade, texturesDeleted, imagesMade, imagesDestroyed]

@[simp] theorem Alive.run_reported (n : Notice) :
    alive.run (.reported n :: rest) = alive.run rest := by
  rw [Alive.run_cons, Alive.after_reported]

theorem obeys_append :
    Obeys alive (first ++ rest) ↔ Obeys alive first ∧ Obeys (alive.run first) rest := by
  induction first generalizing alive with
  | nil => simp [Obeys, Alive.run]
  | cons e first ih =>
    cases e with
    | reported n =>
      rw [Alive.run_reported]
      exact ih
    | answered request answer =>
      simp only [List.cons_append, Obeys, ih, Alive.run_cons, and_assoc]

theorem diff_self (textures : List TextureId) : textures.diff textures = [] := by
  induction textures with
  | nil => rfl
  | cons t rest ih => simpa using ih

namespace Alive

theorem after_imageDestroyed (textures : List TextureId) (image : ExternalImage)
    (images : List ExternalImage) (answer : interface.Answer (.destroyImage image)) :
    after ⟨textures, image :: images⟩ (.answered (.destroyImage image) answer)
      = ⟨textures, images⟩ := by
  simp [after, texturesMade, texturesDeleted, imagesMade, imagesDestroyed]

theorem after_texturesDeleted (textures : List TextureId)
    (answer : interface.Answer (.deleteTextures textures)) :
    after ⟨textures, []⟩ (.answered (.deleteTextures textures) answer) = nothing := by
  simp [after, texturesMade, texturesDeleted, imagesMade, imagesDestroyed, diff_self, nothing]

theorem after_imageMade (description : Description) (image : ExternalImage) :
    alive.after (.answered (.createImage description) (.ok image))
      = ⟨alive.textures, alive.images ++ [image]⟩ := by
  simp [after, texturesMade, texturesDeleted, imagesMade, imagesDestroyed]

theorem after_imageRefused (description : Description) (e : PresentError) :
    alive.after (.answered (.createImage description) (.error e)) = alive := by
  simp [after, texturesMade, texturesDeleted, imagesMade, imagesDestroyed]

theorem after_bound (texture : TextureId) (image : ExternalImage)
    (answer : interface.Answer (.bindImage texture image)) :
    alive.after (.answered (.bindImage texture image) answer) = alive := by
  simp [after, texturesMade, texturesDeleted, imagesMade, imagesDestroyed]

end Alive

/-- Books that every call keeps in balance: what was held and what was made are what was given back
and what is held, in this order. -/
theorem Obeys.balance {α : Type} {held : Alive → List α} {made given : Event interface → List α}
    (silent : ∀ n, made (.reported n) = [] ∧ given (.reported n) = [])
    (each : ∀ (alive : Alive) (request : Request) (answer : interface.Answer request),
      alive.Permits request → held alive ++ made (.answered request answer)
        = given (.answered request answer) ++ held (alive.after (.answered request answer)))
    (obeys : Obeys alive events) :
    held alive ++ events.flatMap made = events.flatMap given ++ held (alive.run events) := by
  induction events generalizing alive with
  | nil => exact List.append_nil _
  | cons e rest ih =>
    rw [List.flatMap_cons, List.flatMap_cons]
    cases e with
    | reported n =>
      obtain ⟨none, nothing⟩ := silent n
      rw [none, nothing, Alive.run_reported]
      exact ih obeys
    | answered request answer =>
      obtain ⟨permits, later⟩ := obeys
      rw [← List.append_assoc, each alive request answer permits, List.append_assoc, ih later,
        Alive.run_cons, List.append_assoc]

theorem Obeys.images_eq (obeys : Obeys alive events) :
    alive.images ++ events.flatMap imagesMade
      = events.flatMap imagesDestroyed ++ (alive.run events).images := by
  refine obeys.balance (fun _ => ⟨rfl, rfl⟩) fun alive request answer permits => ?_
  cases request with
  | destroyImage image =>
    obtain ⟨textures, images⟩ := alive
    obtain ⟨rest, rfl⟩ := List.head?_eq_some_iff.mp permits
    rw [Alive.after_imageDestroyed]
    exact List.append_nil _
  | _ => rfl

theorem Obeys.textures_eq (obeys : Obeys alive events) :
    alive.textures ++ events.flatMap texturesMade
      = events.flatMap texturesDeleted ++ (alive.run events).textures := by
  refine obeys.balance (fun _ => ⟨rfl, rfl⟩) fun alive request answer permits => ?_
  cases request with
  | deleteTextures textures =>
    obtain rfl : alive = ⟨textures, []⟩ := permits
    rw [Alive.after_texturesDeleted]
    rfl
  | _ => rfl

/-- The events obey the discipline, and lead from what was alive to what is. -/
structure Leads (alive : Alive) (events : List (Event interface)) (left : Alive) : Prop where
  obeys : Obeys alive events
  run_eq : alive.run events = left

theorem Leads.append {middle left : Alive} (before : Leads alive first middle)
    (later : Leads middle rest left) : Leads alive (first ++ rest) left := by
  obtain ⟨obeys, rfl⟩ := before
  exact ⟨obeys_append.mpr ⟨obeys, later.obeys⟩, by rw [Alive.run_append, later.run_eq]⟩

theorem leads_nil (alive : Alive) : Leads alive [] alive := ⟨trivial, rfl⟩

theorem leads_of_silent (silent : requestsOf events = []) : Leads alive events alive := by
  induction events with
  | nil => exact leads_nil alive
  | cons e rest ih =>
    cases e with
    | reported n =>
      obtain ⟨obeys, run_eq⟩ := ih silent
      exact ⟨obeys, by rw [Alive.run_reported, run_eq]⟩
    | answered request answer => cases silent

theorem leads_answered {request : Request} {answer : interface.Answer request} {next left : Alive}
    (permits : alive.Permits request) (after_eq : alive.after (.answered request answer) = next)
    (later : Leads next rest left) : Leads alive (.answered request answer :: rest) left := by
  subst after_eq
  exact ⟨⟨permits, later.obeys⟩, later.run_eq⟩

end Runs

end Scanout.Texture
