import Mathlib.Data.List.Forall2
import Scanout.Proofs.Texture.Lifetimes

/-!
# A texture for every layer

To map a frame, a mapper goes through its layers in order. A layer is described, made an image, and
bound to the texture of its own number, before the next is looked at. At the first call that is
refused the mapper destroys what it has made for the frame and hands the refusal out.

`Binds` says so of the layers and `Maps` of the whole mapping. What is left is that the number of
textures is no smaller than that of layers, which the descriptor sees to, and that a mapper keeps its
textures until it is asked to make them anew or to destroy them.
-/

namespace Scanout.Texture

open Proc

/-- An image plane is where a plane of the frame is, in the object that the plane lies in. -/
structure ImagePlane.Locates (q : ImagePlane) (d : FrameDescriptor) (p : Plane) : Prop where
  fd_eq : ∃ object, d.objects[p.object]? = some object ∧ q.fd = object.fd
  offset_eq : q.offset = p.offset
  pitch_eq : q.pitch = p.pitch

namespace Description

/-- The description is that of a layer: its format, the size of the whole image, and its planes in
order. -/
structure Describes (d : Description) (image : Image) (layer : Layer) : Prop where
  format_eq : d.format = layer.format
  size_eq : d.size = image.size
  planes : List.Forall₂ (fun q p => ImagePlane.Locates q image.descriptor p) d.planes layer.planes

theorem plane_locates {d : FrameDescriptor} {p : Plane} (bound : p.object < d.objects.length)
    (index : Nat) : ∃ q, plane d index p = .ok q ∧ q.Locates d p := by
  have present : d.objects[p.object]? = some d.objects[p.object] := List.getElem?_eq_getElem bound
  refine ⟨⟨d.objects[p.object].fd, p.offset, p.pitch⟩, ?_, ⟨_, present, rfl⟩, rfl, rfl⟩
  rw [plane, FrameDescriptor.object?, present]

theorem planes_located {d : FrameDescriptor} {planes : List Plane}
    (fit : ∀ p ∈ planes, p.object < d.objects.length) (index : Nat) :
    ∃ located, planes.mapM (plane d index) = .ok located ∧
      List.Forall₂ (fun q p => ImagePlane.Locates q d p) located planes := by
  induction planes with
  | nil => exact ⟨[], rfl, .nil⟩
  | cons p rest ih =>
    obtain ⟨here, others⟩ := List.forall_mem_cons.mp fit
    obtain ⟨q, found, locates⟩ := plane_locates here index
    obtain ⟨located, all, locate⟩ := ih others
    refine ⟨q :: located, ?_, .cons locates locate⟩
    rw [List.mapM_cons, found, all]
    rfl

theorem ofLayer_describes {image : Image} {index : Nat} {layer : Layer}
    (found : image.descriptor.layers[index]? = some layer) :
    ∃ d, ofLayer image index = .ok d ∧ d.Describes image layer := by
  have fits := image.descriptor.layers_fit layer (List.mem_of_getElem? found)
  obtain ⟨located, all, locate⟩ := planes_located fits.2 index
  refine ⟨⟨layer.format, image.size, located⟩, ?_, rfl, rfl, locate⟩
  rw [ofLayer, found]
  simp only [all]

end Description

/-- A layer that was made an image and bound to a texture. -/
structure BoundLayer where
  layer : Layer
  texture : TextureId
  description : Description
  made : ExternalImage

namespace BoundLayer

def calls (b : BoundLayer) : List (Event interface) :=
  [.answered (.createImage b.description) (.ok b.made),
    .answered (.bindImage b.texture b.made) (.ok ())]

/-- What is handed out for it: how to sample the texture. -/
structure Gives (b : BoundLayer) (image : Image) (binding : Binding) : Prop where
  texture_eq : binding.texture = b.texture
  target_eq : binding.target = externalTarget
  width_eq : ∃ first others, b.layer.planes = first :: others ∧ binding.width = first.pitch
  height_eq : binding.height = image.size.height

theorem textures_eq {image : Image} {bound : List BoundLayer} {bindings : List Binding}
    (gives : List.Forall₂ (fun b binding => Gives b image binding) bound bindings) :
    bindings.map Binding.texture = bound.map texture := by
  induction gives with
  | nil => rfl
  | cons first _ ih => rw [List.map_cons, List.map_cons, first.texture_eq, ih]

end BoundLayer

/-- A layer that fails: the calls that were made for it, and the image that there is of it. -/
inductive Fails (image : Image) (layer : Layer) (texture : TextureId) (e : PresentError) :
    List (Event interface) → List ExternalImage → Prop where
  | uncreated {d : Description} (describes : d.Describes image layer) :
      Fails image layer texture e [.answered (.createImage d) (.error e)] []
  | unbound {d : Description} {made : ExternalImage} (describes : d.Describes image layer) :
      Fails image layer texture e
        [.answered (.createImage d) (.ok made), .answered (.bindImage texture made) (.error e)]
        [made]

/-- How layers are bound to textures: the calls that are made, the images that there are then, and
what comes of it. -/
inductive Binds (image : Image) (layers : List Layer) (textures : List TextureId) :
    List (Event interface) → List ExternalImage → Except PresentError (List Binding) → Prop where
  | all (bound : List BoundLayer) {bindings : List Binding}
      (layers_eq : bound.map BoundLayer.layer = layers)
      (numbered : bound.map BoundLayer.texture <+: textures)
      (described : ∀ b ∈ bound, b.description.Describes image b.layer)
      (gives : List.Forall₂ (fun b binding => BoundLayer.Gives b image binding) bound bindings) :
      Binds image layers textures (bound.flatMap BoundLayer.calls) (bound.map BoundLayer.made)
        (.ok bindings)
  | stopped (bound : List BoundLayer) {layer : Layer} {texture : TextureId} {e : PresentError}
      {attempt : List (Event interface)} {left : List ExternalImage}
      (first : bound.map BoundLayer.layer ++ [layer] <+: layers)
      (numbered : bound.map BoundLayer.texture ++ [texture] <+: textures)
      (described : ∀ b ∈ bound, b.description.Describes image b.layer)
      (fails : Fails image layer texture e attempt left) :
      Binds image layers textures (bound.flatMap BoundLayer.calls ++ attempt)
        (bound.map BoundLayer.made ++ left) (.error e)

theorem Binds.cons {image : Image} {layers : List Layer} {textures : List TextureId}
    {events : List (Event interface)} {made : List ExternalImage}
    {outcome : Except PresentError (List Binding)} {b : BoundLayer} {binding : Binding}
    (described : b.description.Describes image b.layer) (gives : b.Gives image binding)
    (later : Binds image layers textures events made outcome) :
    Binds image (b.layer :: layers) (b.texture :: textures) (b.calls ++ events) (b.made :: made)
      (outcome.map (binding :: ·)) := by
  cases later with
  | all bound layers_eq numbered others all =>
    have everyone : ∀ x ∈ b :: bound, x.description.Describes image x.layer :=
      List.forall_mem_cons.mpr ⟨described, others⟩
    apply Binds.all (b :: bound) _ _ everyone (.cons gives all)
    · rw [List.map_cons, layers_eq]
    · exact List.cons_prefix_cons.mpr ⟨rfl, numbered⟩
  | @stopped bound _ _ _ attempt _ first numbered others fails =>
    have everyone : ∀ x ∈ b :: bound, x.description.Describes image x.layer :=
      List.forall_mem_cons.mpr ⟨described, others⟩
    have calls : b.calls ++ (bound.flatMap BoundLayer.calls ++ attempt)
        = (b :: bound).flatMap BoundLayer.calls ++ attempt := by
      rw [List.flatMap_cons, List.append_assoc]
    rw [calls]
    apply Binds.stopped (b :: bound) _ _ everyone fails
    · exact List.cons_prefix_cons.mpr ⟨rfl, first⟩
    · exact List.cons_prefix_cons.mpr ⟨rfl, numbered⟩

namespace Mapper

variable {m left : Mapper} {image : Image} {events : List (Event interface)}
  {outcome : Except PresentError (List Binding)}

theorem binding_gives {layer : Layer} (member : layer ∈ image.descriptor.layers)
    (texture : TextureId) (d : Description) (made : ExternalImage) :
    BoundLayer.Gives ⟨layer, texture, d, made⟩ image (binding image layer texture) := by
  have some := (image.descriptor.layers_fit layer member).1.1
  obtain ⟨first, others, planes⟩ := List.exists_cons_of_length_pos some
  refine ⟨rfl, rfl, ⟨first, others, planes, ?_⟩, rfl⟩
  simp [binding, planes]

/-- Where there are enough textures, no layer is skipped and none is looked for in vain. -/
theorem bindLayers_binds {index : Nat} {layers : List Layer} {textures : List TextureId}
    {made : List ExternalImage} (remaining : image.descriptor.layers.drop index = layers)
    (enough : layers.length ≤ textures.length)
    (run : (bindLayers image index (layers.zip textures)).Runs events (made, outcome)) :
    Binds image layers textures events made outcome := by
  induction layers generalizing index textures events made outcome with
  | nil =>
    obtain ⟨rfl, rfl, rfl⟩ := runs_pure_pair.mp run
    exact .all [] rfl List.nil_prefix (by simp) .nil
  | cons layer rest ih =>
    obtain ⟨texture, others, rfl⟩ := List.exists_cons_of_length_pos
      (Nat.lt_of_lt_of_le (Nat.succ_pos _) enough)
    have found : image.descriptor.layers[index]? = some layer := by
      rw [← List.head?_drop, remaining, List.head?_cons]
    have later : image.descriptor.layers.drop (index + 1) = rest := by
      rw [← List.tail_drop, remaining, List.tail_cons]
    obtain ⟨d, described, describes⟩ := Description.ofLayer_describes found
    simp only [List.zip_cons_cons, bindLayers, described] at run
    obtain ⟨answer, following, rfl, created⟩ := runs_ask_bind.mp run
    cases answer with
    | error e =>
      obtain ⟨rfl, rfl, rfl⟩ := runs_pure_pair.mp created
      exact .stopped [] (List.cons_prefix_cons.mpr ⟨rfl, List.nil_prefix⟩)
        (List.cons_prefix_cons.mpr ⟨rfl, List.nil_prefix⟩) (by simp) (.uncreated describes)
    | ok image' =>
      obtain ⟨answer, last, rfl, bound⟩ := runs_ask_bind.mp created
      cases answer with
      | error e =>
        obtain ⟨rfl, rfl, rfl⟩ := runs_pure_pair.mp bound
        exact .stopped [] (List.cons_prefix_cons.mpr ⟨rfl, List.nil_prefix⟩)
          (List.cons_prefix_cons.mpr ⟨rfl, List.nil_prefix⟩) (by simp) (.unbound describes)
      | ok _ =>
        obtain ⟨recurses, ⟨more, rebound⟩, nothing, rfl, recursive, done⟩ := runs_bind.mp bound
        obtain ⟨rfl, rfl, rfl⟩ := runs_pure_pair.mp done
        have enoughLater : rest.length ≤ others.length := Nat.le_of_succ_le_succ enough
        have binds := ih later enoughLater recursive
        have gives := binding_gives (List.mem_of_getElem? found) texture d image'
        rw [List.append_nil]
        exact binds.cons (b := ⟨layer, texture, d, image'⟩) describes gives

theorem requestsOf_destroyImages {failed : PresentError → Notice} {images : List ExternalImage}
    {u : Unit} (run : (destroyImages failed images).Runs events u) :
    requestsOf events = images.map .destroyImage := by
  induction images generalizing events with
  | nil =>
    obtain ⟨rfl, -⟩ := runs_pure.mp run
    rfl
  | cons first rest ih =>
    obtain ⟨answer, others, rfl, reporting⟩ := runs_ask_bind.mp run
    obtain ⟨reports, _, later, rfl, reported, remaining⟩ := runs_bind.mp reporting
    show Request.destroyImage first :: requestsOf (reports ++ later) = _
    rw [requestsOf_append, (noticeFailure_runs reported).1, ih remaining]
    rfl

theorem requestsOf_unmap (run : m.unmap.Runs events left) :
    requestsOf events = m.images.map .destroyImage := by
  unfold unmap at run
  unfold images
  split at run
  · rename_i absent
    obtain ⟨rfl, rfl⟩ := runs_pure.mp run
    rw [absent]
    rfl
  · rename_i frame present
    obtain ⟨destroys, _, last, rfl, destroyed, done⟩ := runs_bind.mp run
    obtain ⟨rfl, rfl⟩ := runs_pure.mp done
    rw [present, List.append_nil, requestsOf_destroyImages destroyed]
    rfl

/-- How a mapper comes by its textures: they are there, or they are made now. -/
inductive Obtains : Option (Vector TextureId maxPlanes) → List (Event interface) →
    Vector TextureId maxPlanes → Prop where
  | kept (textures : Vector TextureId maxPlanes) : Obtains (some textures) [] textures
  | made (textures : Vector TextureId maxPlanes) :
      Obtains none [.answered (.createTextures maxPlanes) (.ok textures)] textures

/-- How a frame is mapped. The images of the frame before are destroyed first of all. -/
inductive Maps (m : Mapper) (image : Image) :
    List (Event interface) → Mapper → Except PresentError (List Binding) → Prop where
  | untextured {cleared : List (Event interface)} {e : PresentError}
      (clears : requestsOf cleared = m.images.map .destroyImage) (none : m.textures = none) :
      Maps m image (cleared ++ [.answered (.createTextures maxPlanes) (.error e)]) bare (.error e)
  | mapped {cleared making binding : List (Event interface)}
      {textures : Vector TextureId maxPlanes} {images : List ExternalImage}
      {bindings : List Binding} (clears : requestsOf cleared = m.images.map .destroyImage)
      (obtains : Obtains m.textures making textures)
      (binds : Binds image image.descriptor.layers textures.toList binding images (.ok bindings)) :
      Maps m image (cleared ++ (making ++ binding)) ⟨some textures, some ⟨images, image⟩⟩
        (.ok bindings)
  | rolledBack {cleared making binding destroying : List (Event interface)}
      {textures : Vector TextureId maxPlanes} {images : List ExternalImage} {e : PresentError}
      (clears : requestsOf cleared = m.images.map .destroyImage)
      (obtains : Obtains m.textures making textures)
      (binds : Binds image image.descriptor.layers textures.toList binding images (.error e))
      (destroys : requestsOf destroying = images.map .destroyImage) :
      Maps m image (cleared ++ (making ++ (binding ++ destroying))) ⟨some textures, none⟩ (.error e)

theorem ensureTextures_obtains {ensured : Except PresentError (Vector TextureId maxPlanes)}
    (unmapped : m.mapped = none) (run : m.ensureTextures.Runs events (left, ensured)) :
    (∃ textures, ensured = .ok textures ∧ left = ⟨some textures, none⟩ ∧
        Obtains m.textures events textures) ∨
      ∃ e, ensured = .error e ∧ left = bare ∧ m.textures = none ∧
        events = [.answered (.createTextures maxPlanes) (.error e)] := by
  obtain ⟨textures, mapped⟩ := m
  obtain rfl : mapped = none := unmapped
  cases textures with
  | some textures =>
    obtain ⟨rfl, rfl, rfl⟩ := runs_pure_pair.mp run
    exact .inl ⟨textures, rfl, rfl, .kept textures⟩
  | none =>
    obtain ⟨destroys, cleared, others, rfl, destroyed, rest⟩ := runs_bind.mp run
    obtain ⟨rfl, rfl⟩ := runs_pure.mp destroyed
    obtain ⟨answer, later, rfl, done⟩ := runs_ask_bind.mp rest
    cases answer with
    | ok textures =>
      obtain ⟨rfl, rfl, rfl⟩ := runs_pure_pair.mp done
      exact .inl ⟨textures, rfl, rfl, .made textures⟩
    | error e =>
      obtain ⟨rfl, rfl, rfl⟩ := runs_pure_pair.mp done
      exact .inr ⟨e, rfl, rfl, rfl, rfl⟩

theorem mapFrame_maps (run : (m.mapFrame image).Runs events (left, outcome)) :
    m.Maps image events left outcome := by
  obtain ⟨unmaps, cleared, others, rfl, unmapped, rest⟩ := runs_bind.mp run
  have clears := requestsOf_unmap unmapped
  obtain ⟨rfl, -, -⟩ := unmap_runs unmapped
  obtain ⟨ensures, ⟨ready, ensured⟩, later, rfl, ensuring, mapping⟩ := runs_bind.mp rest
  rcases ensureTextures_obtains rfl ensuring with
    ⟨textures, rfl, rfl, obtains⟩ | ⟨e, rfl, rfl, none, rfl⟩
  · have enough : image.descriptor.layers.length ≤ textures.toList.length := by
      rw [textures.length_toList]
      exact image.descriptor.layers_allowed.2
    obtain ⟨binding, ⟨images, bound⟩, last, rfl, layers, done⟩ := runs_bind.mp mapping
    have binds := bindLayers_binds List.drop_zero enough layers
    cases bound with
    | ok bindings =>
      obtain ⟨rfl, rfl, rfl⟩ := runs_pure_pair.mp done
      rw [List.append_nil]
      exact .mapped clears obtains binds
    | error e =>
      obtain ⟨destroys, _, nothing, rfl, destroyed, ending⟩ := runs_bind.mp done
      obtain ⟨rfl, rfl, rfl⟩ := runs_pure_pair.mp ending
      rw [List.append_nil]
      exact .rolledBack clears obtains binds (requestsOf_destroyImages destroyed)
  · obtain ⟨rfl, rfl, rfl⟩ := runs_pure_pair.mp mapping
    exact .untextured clears none

end Mapper

/-- A call that a mapping cannot do without is refused. It can do without a destruction. -/
def refuses : Event interface → Bool
  | .answered (.createTextures _) (.error _) => true
  | .answered (.createImage _) (.error _) => true
  | .answered (.bindImage ..) (.error _) => true
  | _ => false

def Refused (events : List (Event interface)) : Prop := ∃ e ∈ events, refuses e

section Refusals

variable {before after events : List (Event interface)}

theorem refused_append : Refused (before ++ after) ↔ Refused before ∨ Refused after := by
  simp only [Refused, List.mem_append, or_and_right, exists_or]

theorem not_refused_of_destroys {images : List ExternalImage}
    (destroys : requestsOf events = images.map .destroyImage) : ¬Refused events := by
  rintro ⟨event, member, refused⟩
  cases event with
  | reported n => cases refused
  | answered request answer =>
    have asked := mem_requestsOf member
    rw [destroys] at asked
    obtain ⟨image, -, rfl⟩ := List.mem_map.mp asked
    cases refused

theorem not_refused_calls (bound : List BoundLayer) :
    ¬Refused (bound.flatMap BoundLayer.calls) := by
  rintro ⟨event, member, refused⟩
  obtain ⟨b, -, called⟩ := List.mem_flatMap.mp member
  simp only [BoundLayer.calls, List.mem_cons, List.not_mem_nil, or_false] at called
  rcases called with rfl | rfl <;> cases refused

theorem Fails.refused {image : Image} {layer : Layer} {texture : TextureId} {e : PresentError}
    {left : List ExternalImage} (fails : Fails image layer texture e events left) :
    Refused events := by
  cases fails with
  | uncreated => exact ⟨_, List.mem_singleton_self _, rfl⟩
  | unbound => exact ⟨_, List.mem_cons_of_mem _ (List.mem_singleton_self _), rfl⟩

theorem Binds.refused_iff {image : Image} {layers : List Layer} {textures : List TextureId}
    {made : List ExternalImage} {outcome : Except PresentError (List Binding)}
    (binds : Binds image layers textures events made outcome) :
    Refused events ↔ ∃ e, outcome = .error e := by
  cases binds with
  | all _ _ _ _ _ => exact iff_of_false (not_refused_calls _) (by simp)
  | stopped _ _ _ _ fails =>
    exact iff_of_true (refused_append.mpr (.inr fails.refused)) ⟨_, rfl⟩

namespace Mapper

variable {m left : Mapper} {image : Image} {outcome : Except PresentError (List Binding)}

theorem Obtains.not_refused {held : Option (Vector TextureId maxPlanes)}
    {textures : Vector TextureId maxPlanes} (obtains : Obtains held events textures) :
    ¬Refused events := by
  cases obtains with
  | kept => simp [Refused]
  | made => simp [Refused, refuses]

theorem Maps.succeeds_iff (maps : m.Maps image events left outcome) :
    (∃ bindings, outcome = .ok bindings) ↔ ¬Refused events := by
  cases maps with
  | untextured =>
    refine iff_of_false (by simp) (not_not.mpr (refused_append.mpr (.inr ?_)))
    exact ⟨_, List.mem_singleton_self _, rfl⟩
  | mapped clears obtains binds =>
    refine iff_of_true ⟨_, rfl⟩ ?_
    rw [refused_append, refused_append, binds.refused_iff]
    simp [not_refused_of_destroys clears, obtains.not_refused]
  | rolledBack clears obtains binds destroys =>
    refine iff_of_false (by simp) (not_not.mpr ?_)
    rw [refused_append, refused_append, refused_append]
    exact .inr (.inr (.inl (binds.refused_iff.mpr ⟨_, rfl⟩)))

end Mapper

end Refusals

theorem Binds.textures_prefix {image : Image} {layers : List Layer} {textures : List TextureId}
    {events : List (Event interface)} {made : List ExternalImage} {bindings : List Binding}
    (binds : Binds image layers textures events made (.ok bindings)) :
    bindings.map Binding.texture <+: textures := by
  cases binds with
  | all bound _ numbered _ gives =>
    rw [BoundLayer.textures_eq gives]
    exact numbered

/-- Textures outlast a turn that does not renew them. -/
structure KeepsTextures (m left : Mapper) (outcome : Except PresentError (List Binding)) : Prop where
  kept : m.textureList <+: left.textureList
  handed : ∀ bindings, outcome = .ok bindings →
    bindings.map Binding.texture <+: left.textureList

theorem Mapper.Obtains.begins {held : Option (Vector TextureId maxPlanes)}
    {textures : Vector TextureId maxPlanes} {events : List (Event interface)}
    (obtains : Obtains held events textures) :
    (held.map Vector.toList).getD [] <+: textures.toList := by
  cases obtains with
  | kept => exact List.prefix_refl _
  | made => exact List.nil_prefix

theorem Mapper.Maps.keepsTextures {m left : Mapper} {image : Image}
    {events : List (Event interface)} {outcome : Except PresentError (List Binding)}
    (maps : m.Maps image events left outcome) : KeepsTextures m left outcome := by
  cases maps with
  | untextured _ none =>
    have nothing : m.textureList = [] := by
      rw [textureList, none]
      rfl
    exact ⟨nothing ▸ List.nil_prefix, by simp⟩
  | mapped _ obtains binds =>
    refine ⟨obtains.begins, ?_⟩
    rintro _ ⟨⟩
    exact binds.textures_prefix
  | rolledBack _ obtains binds _ => exact ⟨obtains.begins, by simp⟩

/-- The textures are made anew by this operation, or are gone after it. -/
def Operation.Renews : Operation → Prop
  | .reinit | .destroy => True
  | .mapFrame _ | .unmap => False

theorem Operation.keepsTextures {m : Mapper} {asked : Operation} {events : List (Event interface)}
    {reply : Mapper × Except PresentError (List Binding)}
    (run : (asked.reply m).Runs events reply) (steady : ¬asked.Renews) :
    KeepsTextures m reply.1 reply.2 := by
  cases asked with
  | reinit => exact absurd trivial steady
  | destroy => exact absurd trivial steady
  | mapFrame image => exact (Mapper.mapFrame_maps run).keepsTextures
  | unmap =>
    obtain ⟨left, unmaps, rfl⟩ := runs_map.mp run
    obtain ⟨rfl, -, -⟩ := Mapper.unmap_runs unmaps
    refine ⟨List.prefix_refl _, ?_⟩
    rintro _ ⟨⟩
    exact List.nil_prefix

section Histories

variable {turns : List Turn} {start m : Mapper} {opening : List (Event interface)}

/-- As long as nothing renews them, every frame is handed the first of the same textures. -/
theorem History.handed_prefix (history : History start turns m)
    (steady : ∀ t ∈ turns, ¬t.asked.Renews) :
    ∀ t ∈ turns, ∀ bindings, t.reply.2 = .ok bindings →
      bindings.map Binding.texture <+: m.textureList := by
  induction history with
  | nil => simp
  | concat _ run ih =>
    intro t member bindings handed
    obtain ⟨earlier, last⟩ := List.forall_mem_append.mp steady
    have keeps := Operation.keepsTextures run (last _ (List.mem_singleton_self _))
    rcases List.mem_append.mp member with past | now
    · exact (ih earlier t past bindings handed).trans keeps.kept
    · obtain rfl := List.mem_singleton.mp now
      exact keeps.handed bindings handed

theorem Obeys.textures_nodup {alive : Alive} {events : List (Event interface)}
    (obeys : Obeys alive events) (apart : alive.textures.Nodup)
    (distinct : ∀ e ∈ events, (texturesMade e).Nodup) : (alive.run events).textures.Nodup := by
  induction events generalizing alive with
  | nil => exact apart
  | cons e rest ih =>
    obtain ⟨here, later⟩ := List.forall_mem_cons.mp distinct
    cases e with
    | reported n =>
      rw [Alive.run_reported]
      exact ih obeys apart later
    | answered request answer =>
      obtain ⟨permits, others⟩ := obeys
      refine ih others ?_ later
      have remaining : (alive.textures.diff (texturesDeleted (.answered request answer))).Nodup :=
        apart.sublist (List.diff_sublist _ _)
      cases request with
      | createTextures count =>
        obtain ⟨-, rfl⟩ := permits
        exact here
      | _ => simpa [Alive.after, texturesMade] using remaining

/-- What a mapper has done for all the frames it was asked to map in these turns. -/
structure BindsLayers (events : List (Event interface)) (turns : List Turn) : Prop where
  /-- The number of a layer is that of a texture, and every layer can be described. -/
  described : ∀ (image : Image) (l : Nat), l < image.descriptor.layers.length →
    l < maxPlanes ∧ ∃ d, Description.ofLayer image l = .ok d
  maps : ∀ t ∈ turns, ∀ image, t.asked = .mapFrame image →
    t.before.Maps image t.events t.reply.1 t.reply.2
  succeeds_iff : ∀ t ∈ turns, ∀ image, t.asked = .mapFrame image →
    ((∃ bindings, t.reply.2 = .ok bindings) ↔ ¬Refused t.events)
  /-- Different layers have different textures, if the textures that one call makes differ. -/
  apart : (∀ e ∈ events, (texturesMade e).Nodup) → ∀ t ∈ turns, ∀ image,
    t.asked = .mapFrame image → ∀ bindings, t.reply.2 = .ok bindings →
      (bindings.map Binding.texture).Nodup
  /-- They are the same for all frames, until something renews them. -/
  steady : ∀ earlier lasting later, turns = earlier ++ lasting ++ later →
    (∀ t ∈ lasting, ¬t.asked.Renews) → ∃ textures, ∀ t ∈ lasting, ∀ bindings,
      t.reply.2 = .ok bindings → bindings.map Binding.texture <+: textures

theorem History.runs (history : History start turns m) {t : Turn} (member : t ∈ turns) :
    (t.asked.reply t.before).Runs t.events t.reply := by
  obtain ⟨past, rest, -, upToHere⟩ := Scanout.History.upTo history member
  exact (Scanout.History.concat_iff.mp upToHere).2.1

/-- Whatever was asked of the mapper before, and whatever fails: every layer of a frame is bound to
the texture of its number, or the frame leaves nothing behind. -/
theorem mapFrame_binds_layers (creating : Mapper.create.Runs opening start)
    (history : History start turns m) : BindsLayers (opening ++ journal turns) turns := by
  obtain ⟨rfl, -⟩ := Mapper.create_runs creating
  have maps : ∀ t ∈ turns, ∀ image, t.asked = .mapFrame image →
      t.before.Maps image t.events t.reply.1 t.reply.2 := by
    intro t member image asked
    have run := history.runs member
    rw [asked] at run
    exact Mapper.mapFrame_maps run
  refine ⟨?described, maps, fun t member image asked => (maps t member image asked).succeeds_iff,
    ?apart, ?steady⟩
  case described =>
    intro image l inside
    obtain ⟨d, described, -⟩ := Description.ofLayer_describes (List.getElem?_eq_getElem inside)
    exact ⟨Nat.lt_of_lt_of_le inside image.descriptor.layers_allowed.2, d, described⟩
  case apart =>
    intro distinct t member image asked bindings handed
    obtain ⟨past, rest, rfl, upToHere⟩ := Scanout.History.upTo history member
    have leads := History.leads upToHere
    have distinctSoFar : ∀ e ∈ journal (past ++ [t]), (texturesMade e).Nodup := by
      intro e happened
      apply distinct
      rw [journal_append]
      exact List.mem_append_right _ (List.mem_append_left _ happened)
    have whole := leads.obeys.textures_nodup List.nodup_nil distinctSoFar
    rw [leads.run_eq] at whole
    exact whole.sublist ((maps t member image asked).keepsTextures.handed bindings handed).sublist
  case steady =>
    intro earlier lasting later split unrenewed
    rw [split] at history
    obtain ⟨_, front, -⟩ := Scanout.History.append_iff.mp history
    obtain ⟨_, -, segment⟩ := Scanout.History.append_iff.mp front
    exact ⟨_, History.handed_prefix segment unrenewed⟩

end Histories

/-- Two frames are bound to the same textures, and a third fails at its second layer. -/
theorem mapFrame_binds_layers_failed_layer :
    ∃ opening start turns m, Mapper.create.Runs opening start ∧ History start turns m ∧
      (∀ e ∈ opening ++ journal turns, (texturesMade e).Nodup) ∧
      turns.map (fun t => t.reply.2.map (·.map Binding.texture))
        = [.ok [⟨1000⟩, ⟨1001⟩], .ok [⟨1000⟩, ⟨1001⟩], .error (.imageFailed ⟨1920, 1080⟩ .xrgb8888)] ∧
      BindsLayers (opening ++ journal turns) turns := by
  have creating := runs_run (I := interface) Simulation.ImageApi.answer Mapper.create Sample.api
  have history := Sample.operations_history [.mapFrame Sample.twoLayers, .mapFrame Sample.twoLayers,
    .mapFrame Sample.twoLayers]
  exact ⟨_, _, _, _, creating, history, by decide, by decide,
    mapFrame_binds_layers creating history⟩

end Scanout.Texture
