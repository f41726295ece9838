import Scanout.Proofs.Gl.Resources
import Scanout.Proofs.Texture.Allocation

/-!
# Textures that cannot be made

A mapper on the graphics library gives back all that it holds before it makes textures. If one of
them is refused, those that were made in the same attempt are deleted, and nothing is left: whatever
was made since the mapper came into use has been given back once. From then on the mapper holds
nothing and makes no call, until it is to make textures or to map a frame. It then makes all of its
textures before anything else.
-/

namespace Scanout.Gl

open Proc
open Texture (TextureId Mapper Operation Binding OnlyImages)

abbrev Turn : Type :=
  Scanout.Turn interface Mapper Operation (Mapper × Except PresentError (List Binding))

/-- What a mapper was asked for on a context. -/
abbrev History (c : Context) (start : Mapper) (turns : List Turn) (m : Mapper) : Prop :=
  Scanout.History (fun m asked => onContext c (Operation.reply m asked)) Prod.fst start turns m

def ResourceCall.attempt? : ResourceCall → Option (Option TextureId)
  | .textureMade texture => some (some texture)
  | .textureRefused => some none
  | _ => none

def attempts (calls : List ResourceCall) : List (Option TextureId) :=
  calls.filterMap ResourceCall.attempt?

def givesBack (m : Mapper) : List ResourceCall :=
  m.images.map .imageDestroyed ++ m.textureList.map .textureDeleted

section Attempts

@[simp] theorem attempts_append (calls more : List ResourceCall) :
    attempts (calls ++ more) = attempts calls ++ attempts more :=
  List.filterMap_append

theorem attempts_made (made : List TextureId) :
    attempts (made.map .textureMade) = made.map some := by
  simp [attempts, List.filterMap_map, ResourceCall.attempt?, Function.comp_def]

theorem attempts_deleted (textures : List TextureId) :
    attempts (textures.map .textureDeleted) = [] := by
  simp [attempts, List.filterMap_map, ResourceCall.attempt?, Function.comp_def]

theorem attempts_of_images {calls : List ResourceCall} (images : ∀ call ∈ calls, call.OfImage) :
    attempts calls = [] := by
  refine List.filterMap_eq_nil_iff.mpr fun call member => ?_
  have ofImage := images call member
  cases call with
  | imageMade _ => rfl
  | imageDestroyed _ => rfl
  | _ => exact absurd ofImage id

theorem attempts_givesBack (m : Mapper) : attempts (givesBack m) = [] := by
  rw [givesBack, attempts_append, attempts_deleted, List.append_nil]
  refine attempts_of_images fun call member => ?_
  obtain ⟨image, -, rfl⟩ := List.mem_map.mp member
  trivial

theorem attempts_rollback (made : List TextureId) :
    attempts (rollback made) = made.map some ++ [none] := by
  rw [rollback, attempts_append, attempts_made]
  exact congrArg (made.map some ++ none :: ·) (attempts_deleted made)

theorem attempts_refused (m : Mapper) (made : List TextureId) :
    attempts (givesBack m ++ rollback made) = made.map some ++ [none] := by
  rw [attempts_append, attempts_givesBack, attempts_rollback, List.nil_append]

theorem attempts_full (m : Mapper) (held : List TextureId) {rest : List ResourceCall}
    (images : ∀ call ∈ rest, call.OfImage) :
    attempts (givesBack m ++ (held.map .textureMade ++ rest)) = held.map some := by
  rw [attempts_append, attempts_givesBack, attempts_append, attempts_made, attempts_of_images images,
    List.append_nil, List.nil_append]

/-- The attempt that was refused comes after those that were not. -/
theorem length_of_refused {made : List TextureId} {k : Nat}
    (refused : (made.map some ++ [none])[k]? = some none) : made.length = k := by
  rcases Nat.lt_or_ge k (made.map some).length with before | behind
  · rw [List.getElem?_append_left before, List.getElem?_map] at refused
    simp at refused
  · rw [List.getElem?_append_right behind, List.getElem?_singleton] at refused
    rw [List.length_map] at refused behind
    split at refused
    · omega
    · cases refused

end Attempts

section Realizes

variable {requests : List (Event Texture.interface)} {events : List (Event interface)} {m : Mapper}
  {r : Texture.interface.Request} {a : Texture.interface.Answer r} {calls : List ResourceCall}

def released : Texture.Request → List ResourceCall
  | .deleteTextures textures => textures.map .textureDeleted
  | .destroyImage image => [.imageDestroyed image]
  | _ => []

theorem Fulfils.released (fulfils : Fulfils r a calls) (releases : Texture.Request.Releases r) :
    calls = released r := by
  cases fulfils with
  | texturesMade _ => exact absurd releases id
  | texturesRefused _ _ => exact absurd releases id
  | imageMade _ _ => exact absurd releases id
  | _ => rfl

theorem Fulfils.images (fulfils : Fulfils r a calls) (ofImage : Texture.Request.OfImage r) :
    ∀ call ∈ calls, call.OfImage := by
  cases fulfils with
  | texturesMade _ => exact absurd ofImage id
  | texturesRefused _ _ => exact absurd ofImage id
  | texturesDeleted _ => exact absurd ofImage id
  | imageMade _ _ => exact List.forall_mem_singleton.mpr trivial
  | imageRefused _ _ => exact List.forall_mem_nil _
  | imageDestroyed _ _ => exact List.forall_mem_singleton.mpr trivial
  | bound _ _ _ => exact List.forall_mem_nil _

theorem Realizes.images (realizes : Realizes requests events) (images : OnlyImages requests) :
    ∀ call ∈ resourceCalls events, call.OfImage :=
  realizes.forall_flatMap (fun _ => rfl) fun r asked _ _ fulfils => fulfils.images (images r asked)

theorem flatMap_released_clearing (m : Mapper) : m.clearing.flatMap released = givesBack m := by
  have images : (m.images.map Texture.Request.destroyImage).flatMap released
      = m.images.map .imageDestroyed := by
    rw [List.flatMap_map]
    exact List.map_eq_flatMap.symm
  rw [Mapper.clearing, List.flatMap_append, images, givesBack, Mapper.textureList]
  cases m.textures with
  | none => rfl
  | some held => exact congrArg _ (List.append_nil _)

theorem Realizes.clearing (realizes : Realizes requests events)
    (clears : requestsOf requests = m.clearing) : resourceCalls events = givesBack m := by
  rw [← flatMap_released_clearing, ← clears]
  refine realizes.flatMap_eq (fun _ => rfl) fun r asked a own fulfils => ?_
  rw [clears] at asked
  exact fulfils.released (Mapper.releases_of_mem_clearing asked)

theorem Fulfils.attempts_eq_nil (fulfils : Fulfils r a calls)
    (unasked : ∀ count, r ≠ Texture.Request.createTextures count) : attempts calls = [] := by
  cases fulfils with
  | texturesMade _ => exact absurd rfl (unasked _)
  | texturesRefused _ _ => exact absurd rfl (unasked _)
  | texturesDeleted textures => exact attempts_deleted textures
  | _ => rfl

theorem Realizes.unasked (realizes : Realizes requests events)
    (unasked : ∀ count, Texture.Request.createTextures count ∉ requestsOf requests) :
    attempts (resourceCalls events) = [] := by
  refine List.filterMap_eq_nil_iff.mpr ?_
  refine realizes.forall_flatMap (fun _ => rfl) fun r asked a own fulfils => ?_
  refine List.filterMap_eq_nil_iff.mp (fulfils.attempts_eq_nil ?_)
  rintro count rfl
  exact unasked count asked

end Realizes

inductive Turn.Makes (t : Turn) : Prop where
  | nothing (idle : ¬t.asked.NeedsTextures t.before)
      (none : attempts (resourceCalls t.events) = [])
  | refused (needs : t.asked.NeedsTextures t.before) (made : List TextureId)
      (few : made.length < maxPlanes)
      (calls_eq : resourceCalls t.events = givesBack t.before ++ rollback made)
      (reply_eq : t.reply = (.bare, .error noTexture))
  | textures (needs : t.asked.NeedsTextures t.before) (held : Vector TextureId maxPlanes)
      (rest : List ResourceCall) (images : ∀ call ∈ rest, call.OfImage)
      (calls_eq : resourceCalls t.events
        = givesBack t.before ++ (held.toList.map .textureMade ++ rest))
      (holds : t.reply.1.textures = some held)

theorem Turn.makes {c : Context} {t : Turn}
    (run : (onContext c (t.asked.reply t.before)).Runs t.events t.reply) : t.Makes := by
  obtain ⟨before, asked, events, reply⟩ := t
  obtain ⟨requests, runs, realizes⟩ := onContext_runs run
  cases Operation.makes runs with
  | nothing idle unasked => exact .nothing idle (realizes.unasked unasked)
  | refused needs clears =>
    obtain ⟨cleared, others, rfl, clearing, rest⟩ := realizes.of_append
    obtain ⟨own, last, rfl, fulfils, done⟩ := rest.of_cons
    cases done
    rw [List.append_nil]
    generalize calls : resourceCalls own = made at fulfils
    cases fulfils with
    | texturesRefused made few =>
      refine .refused needs made few ?_ rfl
      rw [resourceCalls_append, Realizes.clearing clearing clears, calls]
  | @textures _ _ held _ needs clears images holds =>
    obtain ⟨cleared, others, rfl, clearing, rest⟩ := realizes.of_append
    obtain ⟨own, last, rfl, fulfils, done⟩ := rest.of_cons
    generalize calls : resourceCalls own = made at fulfils
    cases fulfils with
    | texturesMade _ =>
      refine .textures needs held (resourceCalls last) (Realizes.images done images) ?_ holds
      rw [resourceCalls_append, resourceCalls_append, Realizes.clearing clearing clears, calls]

/-- What is left of a turn in which a texture was refused when so many had been made. The earlier
turns are those since the mapper came into use, with what it then held. -/
structure LeavesNothing (start : Mapper) (past : List Turn) (t : Turn) (k : Nat) : Prop where
  /-- All that was held is given back, and then all that was made. -/
  calls_eq : ∃ made : List TextureId, made.length = k ∧ k < maxPlanes ∧
    resourceCalls t.events = givesBack t.before ++ rollback made
  reply_eq : ∃ e : PresentError, t.reply = (.bare, .error e) ∧ e.kind = .importing
  /-- In the whole life of the mapper nothing was made that is not given back. -/
  books : Books start.alive (resourceCalls (journal (past ++ [t]))) .nothing

/-- All textures are made, before anything else. If one of them is refused, it is as before. -/
structure StartsAnew (t : Turn) : Prop where
  all : none ∉ attempts (resourceCalls t.events) →
    ∃ (held : Vector TextureId maxPlanes) (rest : List ResourceCall),
      resourceCalls t.events = held.toList.map .textureMade ++ rest ∧
      (∀ call ∈ rest, call.OfImage) ∧ t.reply.1.textures = some held
  refused : none ∈ attempts (resourceCalls t.events) →
    ∃ made : List TextureId, made.length < maxPlanes ∧
      resourceCalls t.events = rollback made ∧ t.reply = (.bare, .error noTexture)

section Histories

variable {c : Context} {start m : Mapper} {turns : List Turn} {t : Turn}

theorem History.books (history : History c start turns m) :
    Books start.alive (resourceCalls (journal turns)) m.alive := by
  have each (s : Mapper) (asked : Operation) (events : List (Event interface))
      (reply : Mapper × Except PresentError (List Binding))
      (run : (onContext c (asked.reply s)).Runs events reply) := onContext_runs run
  obtain ⟨others, requests, realizes⟩ := Scanout.History.implements each history
  have leads := Texture.History.leads requests
  rw [← leads.run_eq]
  exact Realizes.books realizes leads.obeys

theorem History.idle (history : History c .bare turns m)
    (idle : ∀ u ∈ turns, u.asked = .unmap ∨ u.asked = .destroy) :
    m = .bare ∧ ∀ u ∈ turns, resourceCalls u.events = [] := by
  induction history with
  | nil => exact ⟨rfl, by simp⟩
  | @concat turns t _ run ih =>
    obtain ⟨earlier, last⟩ := List.forall_mem_append.mp idle
    obtain ⟨bare, silent⟩ := ih earlier
    obtain ⟨requests, runs, realizes⟩ := onContext_runs run
    rw [bare] at runs
    obtain ⟨none, left⟩ := Operation.idle_of_bare (last t (List.mem_singleton_self t)) runs
    have calls : resourceCalls t.events = givesBack .bare := Realizes.clearing realizes none
    refine ⟨left, List.forall_mem_append.mpr ⟨silent, ?_⟩⟩
    exact List.forall_mem_singleton.mpr calls

theorem Turn.Makes.startsAnew (makes : t.Makes) (bare : t.before = .bare)
    (asked : t.asked = .reinit ∨ ∃ image, t.asked = .mapFrame image) : StartsAnew t := by
  have nothing : givesBack t.before = [] := by
    rw [bare]
    rfl
  cases makes with
  | nothing idle _ =>
    refine absurd ?_ idle
    rcases asked with reinit | ⟨image, mapFrame⟩
    · rw [reinit]
      trivial
    · rw [mapFrame, bare]
      rfl
  | refused _ made few calls_eq reply_eq =>
    have attempted := attempts_refused t.before made
    rw [← calls_eq] at attempted
    rw [nothing, List.nil_append] at calls_eq
    refine ⟨fun all => absurd ?_ all, fun _ => ⟨made, few, calls_eq, reply_eq⟩⟩
    rw [attempted]
    exact List.mem_append_right _ (List.mem_singleton_self _)
  | textures _ held rest images calls_eq holds =>
    have attempted := attempts_full t.before held.toList images
    rw [← calls_eq] at attempted
    rw [nothing, List.nil_append] at calls_eq
    refine ⟨fun _ => ⟨held, rest, calls_eq, images, holds⟩, fun refused => ?_⟩
    rw [attempted] at refused
    simp at refused

end Histories

/-- A texture that is refused leaves nothing behind, whatever the mapper held and however many were
made before it. -/
theorem failed_allocation_leaves_nothing {c : Context} {start m : Mapper} {past later : List Turn}
    {t : Turn} {k : Nat} (history : History c start (past ++ t :: later) m)
    (failed : (attempts (resourceCalls t.events))[k]? = some none) :
    LeavesNothing start past t k ∧
    ∀ idle next rest, later = idle ++ next :: rest →
      (∀ u ∈ idle, u.asked = .unmap ∨ u.asked = .destroy) →
      (next.asked = .reinit ∨ ∃ image, next.asked = .mapFrame image) →
      (∀ u ∈ idle, resourceCalls u.events = []) ∧ StartsAnew next := by
  rw [← List.singleton_append, ← List.append_assoc] at history
  obtain ⟨middle, upToHere, onward⟩ := Scanout.History.append_iff.mp history
  obtain ⟨-, run, rfl⟩ := Scanout.History.concat_iff.mp upToHere
  have books := History.books upToHere
  cases Turn.makes run with
  | nothing _ none =>
    rw [none] at failed
    cases failed
  | textures _ held rest images calls_eq _ =>
    rw [calls_eq, attempts_full t.before held.toList images, List.getElem?_map] at failed
    simp at failed
  | refused _ made few calls_eq reply_eq =>
    rw [reply_eq] at books onward
    rw [calls_eq, attempts_refused] at failed
    obtain rfl := length_of_refused failed
    refine ⟨⟨⟨made, rfl, few, calls_eq⟩, ⟨_, reply_eq, rfl⟩, books⟩, ?_⟩
    rintro idle next rest rfl idles asked
    have cut : idle ++ [next] <+: idle ++ next :: rest := by simp
    obtain ⟨before, runs⟩ := Scanout.History.of_prefix onward cut
    obtain ⟨bare, silent⟩ := History.idle before idles
    exact ⟨silent, (Turn.makes runs).startsAnew bare asked⟩

namespace Sample

def context : Context := ⟨1, 1, 1⟩

/-- Its seventh texture cannot be made. -/
def scarce : Simulation.GraphicsLibrary :=
  { faulty with pending := [], failures := [⟨"glGenTextures", 6, 1, ⟨0x505⟩⟩] }

/-- A frame is mapped, the textures are to be made anew, and the frame is mapped again. -/
def renewing : List Operation :=
  [.mapFrame Texture.Sample.twoLayers, .reinit, .unmap, .mapFrame Texture.Sample.twoLayers]

def renewed : List Turn × Mapper :=
  simulate (fun m asked => onContext context (Operation.reply m asked)) Prod.fst
    Simulation.GraphicsLibrary.answer renewing Mapper.bare scarce

theorem renewed_history : History context .bare renewed.1 renewed.2 :=
  simulate_history (I := interface) Simulation.GraphicsLibrary.answer renewing Mapper.bare scarce

theorem renewed_asked : renewed.1.map Turn.asked = renewing :=
  simulate_asked (I := interface) Simulation.GraphicsLibrary.answer renewing Mapper.bare scarce

/-- Two images, four textures and two more are gone in the second turn. -/
theorem renewed_calls : renewed.1.map (fun t => resourceCalls t.events) =
    [[.textureMade ⟨1⟩, .textureMade ⟨2⟩, .textureMade ⟨3⟩, .textureMade ⟨4⟩, .imageMade ⟨5⟩,
        .imageMade ⟨6⟩],
      [.imageDestroyed ⟨5⟩, .imageDestroyed ⟨6⟩, .textureDeleted ⟨1⟩, .textureDeleted ⟨2⟩,
        .textureDeleted ⟨3⟩, .textureDeleted ⟨4⟩, .textureMade ⟨7⟩, .textureMade ⟨8⟩,
        .textureRefused, .textureDeleted ⟨7⟩, .textureDeleted ⟨8⟩],
      [],
      [.textureMade ⟨9⟩, .textureMade ⟨10⟩, .textureMade ⟨11⟩, .textureMade ⟨12⟩, .imageMade ⟨13⟩,
        .imageMade ⟨14⟩]] := by
  decide +kernel

end Sample

/-- The third of the new textures is refused, and all four are made when the next frame is mapped. -/
theorem failed_allocation_leaves_nothing_third :
    ∃ past t idle next m, History Sample.context .bare (past ++ t :: (idle ++ [next])) m ∧
      (attempts (resourceCalls t.events))[2]? = some none ∧ LeavesNothing .bare past t 2 ∧
      attempts (resourceCalls next.events) = [some ⟨9⟩, some ⟨10⟩, some ⟨11⟩, some ⟨12⟩] ∧
      StartsAnew next := by
  obtain ⟨first, t, idle, next, turns⟩ := List.length_eq_four.mp
    ((List.length_map _).symm.trans (congrArg List.length Sample.renewed_asked))
  have asked := Sample.renewed_asked
  have calls := Sample.renewed_calls
  have history := Sample.renewed_history
  rw [turns] at asked calls history
  change History Sample.context .bare ([first] ++ t :: ([idle] ++ [next])) _ at history
  simp only [List.map_cons, List.map_nil, Sample.renewing, List.cons.injEq, and_true] at asked calls
  obtain ⟨-, -, unmaps, maps⟩ := asked
  obtain ⟨-, renewal, -, mapping⟩ := calls
  have failed : (attempts (resourceCalls t.events))[2]? = some none := by
    rw [renewal]
    rfl
  obtain ⟨leaves, later⟩ := failed_allocation_leaves_nothing history failed
  have anew := later [idle] next [] rfl (by simp [unmaps]) (.inr ⟨_, maps⟩)
  refine ⟨[first], t, [idle], next, _, history, failed, leaves, ?_, anew.2⟩
  rw [mapping]
  rfl

end Scanout.Gl
