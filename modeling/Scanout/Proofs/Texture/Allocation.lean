import Scanout.Proofs.Texture.Binding

/-!
# When textures are made

A mapper makes textures when it is asked to, and when it has none and is to map a frame. Before that
it gives back all that it holds, the images first and then the textures. If there are no new ones it
is left with nothing, and if there are it goes on to images only.
-/

namespace Scanout.Texture

open Proc

def Request.OfImage : Request → Prop
  | .createTextures _ | .deleteTextures _ => False
  | .createImage _ | .destroyImage _ | .bindImage .. => True

def Request.Releases : Request → Prop
  | .deleteTextures _ | .destroyImage _ => True
  | .createTextures _ | .createImage _ | .bindImage .. => False

def OnlyImages (events : List (Event interface)) : Prop :=
  ∀ r ∈ requestsOf events, Request.OfImage r

/-- Asked of this mapper, the operation makes textures. -/
def Operation.NeedsTextures (m : Mapper) : Operation → Prop
  | .reinit => True
  | .mapFrame _ => m.textures = none
  | .unmap | .destroy => False

namespace Mapper

variable {m left : Mapper} {events : List (Event interface)}

/-- The requests by which a mapper gives back what it holds. -/
def clearing (m : Mapper) : List Request :=
  m.images.map Request.destroyImage
    ++ (m.textures.map fun held => Request.deleteTextures held.toList).toList

theorem releases_of_mem_clearing {r : Request} (member : r ∈ m.clearing) : r.Releases := by
  rcases List.mem_append.mp member with image | textures
  · obtain ⟨_, -, rfl⟩ := List.mem_map.mp image
    trivial
  · obtain ⟨_, -, rfl⟩ := Option.map_eq_some_iff.mp (Option.mem_toList.mp textures)
    trivial

theorem requestsOf_destroy (run : m.destroy.Runs events left) : requestsOf events = m.clearing := by
  obtain ⟨unmaps, cleared, deletes, rfl, unmapped, deleted⟩ := runs_bind.mp run
  obtain ⟨rfl, -, -⟩ := unmap_runs unmapped
  rw [requestsOf_append, requestsOf_unmap unmapped, clearing]
  refine congrArg (m.images.map Request.destroyImage ++ ·) ?_
  obtain ⟨textures, mapped⟩ := m
  cases textures with
  | none =>
    obtain ⟨rfl, -⟩ := runs_pure.mp deleted
    rfl
  | some held =>
    obtain ⟨_, later, rfl, done⟩ := runs_ask_bind.mp deleted
    obtain ⟨rfl, -⟩ := runs_pure.mp done
    rfl

theorem allocate_clears {outcome : Except PresentError (Vector TextureId maxPlanes)}
    (run : m.allocate.Runs events (left, outcome)) :
    ∃ cleared, events = cleared ++ [.answered (.createTextures maxPlanes) outcome] ∧
      requestsOf cleared = m.clearing := by
  obtain ⟨destroys, cleared, others, rfl, destroyed, rest⟩ := runs_bind.mp run
  obtain ⟨answer, later, rfl, done⟩ := runs_ask_bind.mp rest
  refine ⟨destroys, ?_, requestsOf_destroy destroyed⟩
  cases answer with
  | ok textures =>
    obtain ⟨rfl, -, rfl⟩ := runs_pure_pair.mp done
    rfl
  | error e =>
    obtain ⟨rfl, -, rfl⟩ := runs_pure_pair.mp done
    rfl

theorem clearing_of_untextured (none : m.textures = none) :
    m.clearing = m.images.map Request.destroyImage := by
  rw [clearing, none]
  exact List.append_nil _

end Mapper

/-- What an operation does about textures, and what it replies. -/
inductive Makes (m : Mapper) (asked : Operation) :
    List (Event interface) → Mapper × Except PresentError (List Binding) → Prop where
  | nothing {events : List (Event interface)} {reply : Mapper × Except PresentError (List Binding)}
      (idle : ¬asked.NeedsTextures m)
      (unasked : ∀ count, Request.createTextures count ∉ requestsOf events) :
      Makes m asked events reply
  | refused {cleared : List (Event interface)} {e : PresentError} (needs : asked.NeedsTextures m)
      (clears : requestsOf cleared = m.clearing) :
      Makes m asked (cleared ++ [.answered (.createTextures maxPlanes) (.error e)]) (.bare, .error e)
  | textures {cleared rest : List (Event interface)} {held : Vector TextureId maxPlanes}
      {reply : Mapper × Except PresentError (List Binding)} (needs : asked.NeedsTextures m)
      (clears : requestsOf cleared = m.clearing) (images : OnlyImages rest)
      (holds : reply.1.textures = some held) :
      Makes m asked (cleared ++ .answered (.createTextures maxPlanes) (.ok held) :: rest) reply

section Images

variable {before after events : List (Event interface)}

theorem onlyImages_append : OnlyImages (before ++ after) ↔ OnlyImages before ∧ OnlyImages after := by
  rw [OnlyImages, requestsOf_append]
  exact List.forall_mem_append

theorem onlyImages_of_destroys {images : List ExternalImage}
    (destroys : requestsOf events = images.map Request.destroyImage) : OnlyImages events := by
  intro r asked
  rw [destroys] at asked
  obtain ⟨image, -, rfl⟩ := List.mem_map.mp asked
  trivial

theorem OnlyImages.unasked (images : OnlyImages events) (count : Nat) :
    Request.createTextures count ∉ requestsOf events :=
  images _

theorem onlyImages_calls (bound : List BoundLayer) :
    OnlyImages (bound.flatMap BoundLayer.calls) := by
  induction bound with
  | nil => exact fun r asked => absurd asked List.not_mem_nil
  | cons b rest ih =>
    rw [List.flatMap_cons, onlyImages_append]
    refine ⟨?_, ih⟩
    rintro r (_ | ⟨_, _ | ⟨_, ⟨⟩⟩⟩) <;> trivial

variable {image : Image} {outcome : Except PresentError (List Binding)}

theorem Binds.onlyImages {layers : List Layer} {textures : List TextureId}
    {made : List ExternalImage} (binds : Binds image layers textures events made outcome) :
    OnlyImages events := by
  cases binds with
  | all bound => exact onlyImages_calls bound
  | stopped bound _ _ _ fails =>
    refine onlyImages_append.mpr ⟨onlyImages_calls bound, ?_⟩
    cases fails with
    | uncreated => rintro r (_ | ⟨_, ⟨⟩⟩); trivial
    | unbound => rintro r (_ | ⟨_, _ | ⟨_, ⟨⟩⟩⟩) <;> trivial

variable {m left : Mapper}

theorem Mapper.Obtains.makes {cleared making rest : List (Event interface)}
    {held : Vector TextureId maxPlanes} {reply : Mapper × Except PresentError (List Binding)}
    (clears : requestsOf cleared = m.images.map Request.destroyImage)
    (obtains : Obtains m.textures making held) (images : OnlyImages rest)
    (holds : reply.1.textures = some held) :
    Makes m (.mapFrame image) (cleared ++ (making ++ rest)) reply := by
  generalize there : m.textures = textures at obtains
  cases obtains with
  | kept =>
    refine .nothing (fun none => ?_) (OnlyImages.unasked ?_)
    · cases there.symm.trans none
    · exact onlyImages_append.mpr ⟨onlyImages_of_destroys clears, images⟩
  | made => exact .textures there (clears.trans (clearing_of_untextured there).symm) images holds

theorem Mapper.Maps.makes (maps : m.Maps image events left outcome) :
    Makes m (.mapFrame image) events (left, outcome) := by
  cases maps with
  | untextured clears none => exact .refused none (clears.trans (clearing_of_untextured none).symm)
  | mapped clears obtains binds => exact obtains.makes clears binds.onlyImages rfl
  | rolledBack clears obtains binds destroys =>
    exact obtains.makes clears
      (onlyImages_append.mpr ⟨binds.onlyImages, onlyImages_of_destroys destroys⟩) rfl

end Images

variable {m : Mapper} {asked : Operation} {events : List (Event interface)}
  {reply : Mapper × Except PresentError (List Binding)}

theorem Operation.makes (run : (asked.reply m).Runs events reply) : Makes m asked events reply := by
  cases asked with
  | reinit =>
    obtain ⟨⟨left, outcome⟩, reinits, rfl⟩ := runs_map.mp run
    obtain ⟨allocates, ⟨ready, made⟩, last, rfl, allocated, done⟩ := runs_bind.mp reinits
    obtain ⟨rfl, rfl, rfl⟩ := runs_pure_pair.mp done
    obtain ⟨cleared, rfl, clears⟩ := Mapper.allocate_clears allocated
    obtain ⟨rfl, -, -⟩ := Mapper.allocate_runs allocated
    rw [List.append_nil]
    cases made with
    | ok held =>
      exact .textures trivial clears (fun r asked => absurd asked List.not_mem_nil) rfl
    | error e => exact .refused trivial clears
  | mapFrame image => exact (Mapper.mapFrame_maps run).makes
  | unmap =>
    obtain ⟨left, unmaps, rfl⟩ := runs_map.mp run
    exact .nothing id (onlyImages_of_destroys (Mapper.requestsOf_unmap unmaps)).unasked
  | destroy =>
    obtain ⟨left, destroys, rfl⟩ := runs_map.mp run
    refine .nothing id fun count asked => ?_
    rw [Mapper.requestsOf_destroy destroys] at asked
    exact Mapper.releases_of_mem_clearing asked

theorem Operation.idle_of_bare (idle : asked = .unmap ∨ asked = .destroy)
    (run : (asked.reply .bare).Runs events reply) : requestsOf events = [] ∧ reply.1 = .bare := by
  rcases idle with rfl | rfl
  · obtain ⟨left, unmaps, rfl⟩ := runs_map.mp run
    exact ⟨Mapper.requestsOf_unmap unmaps, (Mapper.unmap_runs unmaps).1⟩
  · obtain ⟨left, destroys, rfl⟩ := runs_map.mp run
    exact ⟨Mapper.requestsOf_destroy destroys, (Mapper.destroy_runs destroys).1⟩

end Scanout.Texture
