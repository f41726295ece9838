import Scanout.Gl.Images
import Scanout.Proofs.Gl.Errors
import Scanout.Proofs.Proc.Translate
import Scanout.Proofs.Texture.Alive

/-!
# What the library makes and gives back

Of the calls on the library, `resourceCalls` keeps those that make textures and images and those that
give them back. `Fulfils` says which of them each request of the image interface comes to. Only one
does more than its answer tells: textures that were made before one was refused are deleted again,
and the caller never learns of them.

For the books this is as good as nothing, so they balance on the library as they do on the image
interface (`Realizes.books`): whatever was alive or was made has been given back, or is alive.
-/

namespace Scanout.Gl

open Proc
open Texture (TextureId ExternalImage Alive Obeys externalTarget)

inductive ResourceCall where
  | textureMade (texture : TextureId)
  | textureRefused
  | textureDeleted (texture : TextureId)
  | imageMade (image : ExternalImage)
  | imageDestroyed (image : ExternalImage)
  deriving DecidableEq, Repr

def resourceCall : Event interface → List ResourceCall
  | .answered .genTexture (name : UInt32) =>
    [if name = 0 then .textureRefused else .textureMade ⟨name⟩]
  | .answered (.deleteTexture texture) _ => [.textureDeleted texture]
  | .answered (.createImage ..) (handle : UInt64) =>
    if handle = 0 then [] else [.imageMade ⟨handle⟩]
  | .answered (.destroyImage image) _ => [.imageDestroyed image]
  | _ => []

def resourceCalls (events : List (Event interface)) : List ResourceCall :=
  events.flatMap resourceCall

namespace ResourceCall

def madeTexture? : ResourceCall → Option TextureId
  | .textureMade texture => some texture
  | _ => none

def deletedTexture? : ResourceCall → Option TextureId
  | .textureDeleted texture => some texture
  | _ => none

def madeImage? : ResourceCall → Option ExternalImage
  | .imageMade image => some image
  | _ => none

def destroyedImage? : ResourceCall → Option ExternalImage
  | .imageDestroyed image => some image
  | _ => none

def OfImage : ResourceCall → Prop
  | .imageMade _ | .imageDestroyed _ => True
  | _ => False

end ResourceCall

def rollback (made : List TextureId) : List ResourceCall :=
  made.map .textureMade ++ .textureRefused :: made.map .textureDeleted

def noTexture : PresentError := .textureFailed "Unable to create Texture object"

/-- The calls that an answer to a request of the image interface comes to. -/
inductive Fulfils : (r : Texture.interface.Request) → Texture.interface.Answer r →
    List ResourceCall → Prop where
  | texturesMade {count : Nat} (textures : Vector TextureId count) :
      Fulfils (.createTextures count) (Except.ok textures) (textures.toList.map .textureMade)
  | texturesRefused {count : Nat} (made : List TextureId) (few : made.length < count) :
      Fulfils (.createTextures count) (Except.error noTexture) (rollback made)
  | texturesDeleted (textures : List TextureId) :
      Fulfils (.deleteTextures textures) () (textures.map .textureDeleted)
  | imageMade (d : Texture.Description) (image : ExternalImage) :
      Fulfils (.createImage d) (Except.ok image) [.imageMade image]
  | imageRefused (d : Texture.Description) (e : PresentError) :
      Fulfils (.createImage d) (Except.error e) []
  | imageDestroyed (image : ExternalImage) (outcome : Except PresentError Unit) :
      Fulfils (.destroyImage image) outcome [.imageDestroyed image]
  | bound (texture : TextureId) (image : ExternalImage) (outcome : Except PresentError Unit) :
      Fulfils (.bindImage texture image) outcome []

/-- Events on the library that requests of the image interface come to. -/
abbrev Realizes : List (Event Texture.interface) → List (Event interface) → Prop :=
  Implements fun r a own => Fulfils r a (resourceCalls own)

section Calls

variable {events : List (Event interface)}

@[simp] theorem resourceCalls_nil : resourceCalls [] = [] := rfl

@[simp] theorem resourceCalls_append (before after : List (Event interface)) :
    resourceCalls (before ++ after) = resourceCalls before ++ resourceCalls after :=
  List.flatMap_append

theorem resourceCalls_answered (r : Request) (a : interface.Answer r)
    (events : List (Event interface)) :
    resourceCalls (.answered r a :: events) = resourceCall (.answered r a) ++ resourceCalls events :=
  List.flatMap_cons

theorem prepareTexture_runs {texture : TextureId} {u : Unit}
    (run : (prepareTexture texture).Runs events u) : resourceCalls events = [] := by
  have parameters (settings : List (UInt32 × UInt32)) {events : List (Event interface)}
      (run : Proc.Runs (settings.forM fun setting =>
        Program.texParameter externalTarget setting.1 setting.2) events u) :
      resourceCalls events = [] := by
    induction settings generalizing events with
    | nil =>
      obtain ⟨rfl, -⟩ := runs_pure.mp run
      rfl
    | cons first rest ih =>
      obtain ⟨_, later, rfl, others⟩ := runs_ask_bind.mp run
      show resourceCalls later = []
      exact ih others
  obtain ⟨_, later, rfl, others⟩ := runs_ask_bind.mp run
  show resourceCalls later = []
  exact parameters textureParameters others

theorem deleteTextures_runs {textures : List TextureId} {u : Unit}
    (run : (deleteTextures textures).Runs events u) :
    resourceCalls events = textures.map .textureDeleted := by
  induction textures generalizing events with
  | nil =>
    obtain ⟨rfl, -⟩ := runs_pure.mp run
    rfl
  | cons first rest ih =>
    obtain ⟨_, later, rfl, others⟩ := runs_ask_bind.mp run
    rw [resourceCalls_answered, ih others]
    rfl

theorem makeTextures_runs {count : Nat} {before : List TextureId}
    {outcome : Except PresentError { l : List TextureId // l.length = count }}
    (run : (makeTextures count before).Runs events outcome) :
    (∃ made, outcome = .ok made ∧ resourceCalls events = made.1.map .textureMade) ∨
      outcome = .error noTexture ∧ ∃ made, made.length < count ∧ resourceCalls events
        = made.map .textureMade ++ .textureRefused :: (before ++ made).map .textureDeleted := by
  induction count generalizing before events with
  | zero =>
    obtain ⟨rfl, rfl⟩ := runs_pure.mp run
    exact .inl ⟨⟨[], rfl⟩, rfl, rfl⟩
  | succ count ih =>
    obtain ⟨name, later, rfl, rest⟩ := runs_ask_bind.mp run
    rw [resourceCalls_answered]
    split at rest
    case isTrue refused =>
      obtain rfl : name = (0 : UInt32) := refused
      obtain ⟨deletes, _, last, rfl, deleted, done⟩ := runs_bind.mp rest
      obtain ⟨rfl, rfl⟩ := runs_pure.mp done
      refine .inr ⟨rfl, [], Nat.succ_pos count, ?_⟩
      rw [resourceCalls_append, deleteTextures_runs deleted, List.append_nil, resourceCalls_nil,
        List.append_nil]
      rfl
    case isFalse there =>
      have made : resourceCall (.answered .genTexture name) = [.textureMade ⟨name⟩] :=
        congrArg ([·]) (if_neg there)
      obtain ⟨prepares, _, others, rfl, prepared, making⟩ := runs_bind.mp rest
      obtain ⟨makes, outcome, last, rfl, recursive, done⟩ := runs_bind.mp making
      rw [made, resourceCalls_append, resourceCalls_append, prepareTexture_runs prepared,
        List.nil_append]
      rcases ih recursive with ⟨⟨more, _⟩, rfl, calls⟩ | ⟨rfl, more, few, calls⟩
      · obtain ⟨rfl, rfl⟩ := runs_pure.mp done
        refine .inl ⟨_, rfl, ?_⟩
        rw [calls, resourceCalls_nil, List.append_nil]
        rfl
      · obtain ⟨rfl, rfl⟩ := runs_pure.mp done
        refine .inr ⟨rfl, ⟨name⟩ :: more, Nat.succ_lt_succ few, ?_⟩
        rw [calls, resourceCalls_nil, List.append_nil, List.append_assoc, List.singleton_append]
        rfl

theorem createTextures_fulfils {count : Nat}
    {outcome : Except PresentError (Vector TextureId count)}
    (run : (createTextures count).Runs events outcome) :
    Fulfils (.createTextures count) outcome (resourceCalls events) := by
  obtain ⟨makes, result, rest, rfl, made, done⟩ := runs_bind.mp run
  rw [resourceCalls_append]
  rcases makeTextures_runs made with ⟨⟨textures, length⟩, rfl, calls⟩ | ⟨rfl, textures, few, calls⟩
  · obtain ⟨answer, later, rfl, ending⟩ := runs_ask_bind.mp done
    obtain ⟨rfl, rfl⟩ := runs_pure.mp ending
    have unbound : resourceCalls [.answered (.bindTexture externalTarget none) answer] = [] := rfl
    rw [calls, unbound, List.append_nil]
    exact .texturesMade ⟨textures.toArray, length⟩
  · obtain ⟨rfl, rfl⟩ := runs_pure.mp done
    rw [calls, resourceCalls_nil, List.append_nil]
    exact .texturesRefused textures few

theorem createImage_fulfils {d : Texture.Description} {outcome : Except PresentError ExternalImage}
    (run : (createImage d).Runs events outcome) :
    Fulfils (.createImage d) outcome (resourceCalls events) := by
  obtain ⟨handle, later, rfl, rest⟩ := runs_ask_bind.mp run
  rw [resourceCalls_answered]
  split at rest
  case isTrue refused =>
    obtain ⟨rfl, rfl⟩ := runs_pure.mp rest
    have calls : resourceCall (.answered (.createImage _ _) handle) = [] := if_pos refused
    rw [calls]
    exact .imageRefused d _
  case isFalse there =>
    obtain ⟨rfl, rfl⟩ := runs_pure.mp rest
    have calls : resourceCall (.answered (.createImage _ _) handle) = [.imageMade ⟨handle⟩] :=
      if_neg there
    rw [calls]
    exact .imageMade d ⟨handle⟩

theorem destroyImage_fulfils {image : ExternalImage} {outcome : Except PresentError Unit}
    (run : (destroyImage image).Runs events outcome) :
    Fulfils (.destroyImage image) outcome (resourceCalls events) := by
  obtain ⟨destroyed, later, rfl, rest⟩ := runs_ask_bind.mp run
  rw [← apply_ite pure] at rest
  obtain ⟨rfl, rfl⟩ := runs_pure.mp rest
  exact .imageDestroyed image _

theorem drainErrors_runs {limit taken : Nat} (run : (drainErrors limit).Runs events taken) :
    resourceCalls events = [] := by
  induction limit generalizing events taken with
  | zero =>
    obtain ⟨rfl, -⟩ := runs_pure.mp run
    rfl
  | succ limit ih =>
    obtain ⟨code, rest, rfl, next⟩ := runs_ask_bind.mp run
    split at next
    case isTrue =>
      obtain ⟨rfl, -⟩ := runs_pure.mp next
      rfl
    case isFalse =>
      obtain ⟨drains, fewer, last, rfl, drained, done⟩ := runs_bind.mp next
      obtain ⟨rfl, -⟩ := runs_pure.mp done
      rw [List.append_nil]
      show resourceCalls drains = []
      exact ih drained

theorem bindImage_fulfils {texture : TextureId} {image : ExternalImage}
    {outcome : Except PresentError Unit} (run : (bindImage texture image).Runs events outcome) :
    Fulfils (.bindImage texture image) outcome (resourceCalls events) := by
  obtain ⟨drained, taken, told, code, rfl, drains, tells, -⟩ := bindImage_runs run
  have silent : resourceCalls told = [] := by
    rcases tells with rfl | rfl <;> rfl
  rw [resourceCalls_append, drainErrors_runs drains, resourceCalls_append, silent]
  exact .bound texture image outcome

theorem serve_fulfils (r : Texture.interface.Request) (c : Context) (own : List (Event interface))
    (a : Texture.interface.Answer r) (c' : Context) (run : (serve r c).Runs own (a, c')) :
    Fulfils r a (resourceCalls own) := by
  have answered {β : Type} {p : Program β} {b : β}
      (run : (do return (← p, c) : Program (β × Context)).Runs own (b, c')) : p.Runs own b := by
    obtain ⟨asks, _, last, rfl, asked, done⟩ := runs_bind.mp run
    obtain ⟨rfl, rfl, -⟩ := runs_pure_pair.mp done
    rwa [List.append_nil]
  cases r with
  | createTextures count => exact createTextures_fulfils (answered run)
  | deleteTextures textures =>
    rw [deleteTextures_runs (answered run)]
    exact .texturesDeleted textures
  | createImage d => exact createImage_fulfils (answered run)
  | destroyImage image => exact destroyImage_fulfils (answered run)
  | bindImage texture image => exact bindImage_fulfils (answered run)

theorem onContext_runs {α : Type} {c : Context} {p : Texture.Program α} {a : α}
    (run : (onContext c p).Runs events a) :
    ∃ requests, p.Runs requests a ∧ Realizes requests events := by
  obtain ⟨translated, ⟨value, left⟩, last, rfl, runs, done⟩ := runs_bind.mp run
  obtain ⟨rfl, rfl⟩ := runs_pure.mp done
  rw [List.append_nil]
  exact translate_runs serve_fulfils runs

end Calls

/-- What was alive or was made is what was given back and what is alive, in this order. What is
passed to the call that gives it back counts as given back, whatever the answer. -/
structure Books (alive : Alive) (calls : List ResourceCall) (left : Alive) : Prop where
  textures_eq : alive.textures ++ calls.filterMap ResourceCall.madeTexture?
    = calls.filterMap ResourceCall.deletedTexture? ++ left.textures
  images_eq : alive.images ++ calls.filterMap ResourceCall.madeImage?
    = calls.filterMap ResourceCall.destroyedImage? ++ left.images

section Books

variable {alive middle left : Alive} {calls more : List ResourceCall}

theorem Books.nil (alive : Alive) : Books alive [] alive :=
  ⟨List.append_nil _, List.append_nil _⟩

theorem Books.of_eq (books : Books alive calls middle) (same : left = middle) :
    Books alive calls left :=
  same ▸ books

theorem Books.append (first : Books alive calls middle) (second : Books middle more left) :
    Books alive (calls ++ more) left where
  textures_eq := by
    rw [List.filterMap_append, List.filterMap_append, ← List.append_assoc, first.textures_eq,
      List.append_assoc, second.textures_eq, List.append_assoc]
  images_eq := by
    rw [List.filterMap_append, List.filterMap_append, ← List.append_assoc, first.images_eq,
      List.append_assoc, second.images_eq, List.append_assoc]

theorem books_made (alive : Alive) (made : List TextureId) :
    Books alive (made.map .textureMade) ⟨alive.textures ++ made, alive.images⟩ := by
  constructor <;> simp [List.filterMap_map, Function.comp_def, ResourceCall.madeTexture?,
    ResourceCall.deletedTexture?, ResourceCall.madeImage?, ResourceCall.destroyedImage?]

theorem books_deleted (textures : List TextureId) (images : List ExternalImage) :
    Books ⟨textures, images⟩ (textures.map .textureDeleted) ⟨[], images⟩ := by
  constructor <;> simp [List.filterMap_map, Function.comp_def, ResourceCall.madeTexture?,
    ResourceCall.deletedTexture?, ResourceCall.madeImage?, ResourceCall.destroyedImage?]

/-- An attempt that fails is none for the books. -/
theorem books_rollback (images : List ExternalImage) (made : List TextureId) :
    Books ⟨[], images⟩ (rollback made) ⟨[], images⟩ := by
  have refused : Books ⟨made, images⟩ [.textureRefused] ⟨made, images⟩ :=
    ⟨List.append_nil _, List.append_nil _⟩
  exact (books_made ⟨[], images⟩ made).append (refused.append (books_deleted made images))

theorem Fulfils.books {r : Texture.interface.Request} {a : Texture.interface.Answer r}
    (fulfils : Fulfils r a calls) (permits : alive.Permits r) :
    Books alive calls (alive.after (.answered r a)) := by
  cases fulfils with
  | texturesMade textures =>
    obtain ⟨-, rfl⟩ := permits
    exact books_made .nothing textures.toList
  | texturesRefused made few =>
    obtain ⟨-, rfl⟩ := permits
    exact books_rollback [] made
  | texturesDeleted textures =>
    obtain rfl : alive = ⟨textures, []⟩ := permits
    exact (books_deleted textures []).of_eq (Alive.after_texturesDeleted ..)
  | imageMade d image =>
    have made : Books alive [.imageMade image] ⟨alive.textures, alive.images ++ [image]⟩ :=
      ⟨List.append_nil _, rfl⟩
    exact made.of_eq (Alive.after_imageMade ..)
  | imageRefused d e => exact (Books.nil alive).of_eq (Alive.after_imageRefused ..)
  | imageDestroyed image outcome =>
    obtain ⟨textures, images⟩ := alive
    obtain ⟨rest, rfl⟩ := List.head?_eq_some_iff.mp permits
    have destroyed : Books ⟨textures, image :: rest⟩ [.imageDestroyed image] ⟨textures, rest⟩ :=
      ⟨List.append_nil _, List.append_nil _⟩
    exact destroyed.of_eq (Alive.after_imageDestroyed ..)
  | bound texture image outcome => exact (Books.nil alive).of_eq (Alive.after_bound ..)

theorem Realizes.books {requests : List (Event Texture.interface)} {events : List (Event interface)}
    (realizes : Realizes requests events) (obeys : Obeys alive requests) :
    Books alive (resourceCalls events) (alive.run requests) := by
  induction realizes generalizing alive with
  | nil => exact .nil alive
  | reported n _ ih =>
    rw [Alive.run_reported]
    exact ih obeys
  | answered fulfils _ ih =>
    obtain ⟨permits, later⟩ := obeys
    rw [Alive.run_cons, resourceCalls_append]
    exact (fulfils.books permits).append (ih later)

end Books

end Scanout.Gl
