import Scanout.Proofs.Proc.History
import Scanout.Proofs.Texture.Runs
import Scanout.Simulation.ImageApi

/-!
# The life of a texture mapper

A mapper is asked to map frames, to unmap, to make its textures anew and to destroy them, in any
order, and destroys them when it goes out of use. Whatever fails on the way, what is alive on the
GPU is what the mapper holds: the images of the one frame that is mapped, and all of its textures or
none.
-/

namespace Scanout.Texture

open Proc

inductive Operation where
  | reinit
  | mapFrame (image : Image)
  | unmap
  /-- It is also what a mapper does when it goes out of use. -/
  | destroy

/-- An operation as a program that yields all its caller sees. -/
def Operation.reply (m : Mapper) :
    Operation → Program (Mapper × Except PresentError (List Binding))
  | .reinit => (fun made => (made.1, made.2.map fun () => [])) <$> m.reinit
  | .mapFrame image => m.mapFrame image
  | .unmap => (fun left => (left, .ok [])) <$> m.unmap
  | .destroy => (fun left => (left, .ok [])) <$> m.destroy

abbrev Turn : Type :=
  Scanout.Turn interface Mapper Operation (Mapper × Except PresentError (List Binding))

abbrev History (start : Mapper) (turns : List Turn) (m : Mapper) : Prop :=
  Scanout.History (fun m asked => Operation.reply m asked) Prod.fst start turns m

def Turn.mapped? (t : Turn) : Option Image :=
  match t.asked, t.reply.2 with
  | .mapFrame image, .ok _ => some image
  | _, _ => none

/-- What a turn does, whatever it is. -/
structure Turn.Does (t : Turn) : Prop where
  replaces : t.before.Replaces t.events t.reply.1
  frame_eq : t.reply.1.mapped.map MappedFrame.frame = t.mapped?
  destroyed : t.asked = .destroy → t.reply.1 = .bare

theorem Operation.does {m : Mapper} {asked : Operation} {events : List (Event interface)}
    {reply : Mapper × Except PresentError (List Binding)}
    (run : (asked.reply m).Runs events reply) : Turn.Does ⟨m, asked, events, reply⟩ := by
  cases asked with
  | reinit =>
    obtain ⟨⟨left, outcome⟩, reinits, rfl⟩ := runs_map.mp run
    obtain ⟨allocates, ⟨ready, made⟩, last, rfl, allocated, done⟩ := runs_bind.mp reinits
    obtain ⟨rfl, rfl, rfl⟩ := runs_pure_pair.mp done
    obtain ⟨rfl, leads, unmade⟩ := Mapper.allocate_runs allocated
    rw [List.append_nil]
    exact ⟨.of_unmapped leads unmade rfl, rfl, fun other => by cases other⟩
  | mapFrame image =>
    obtain ⟨left, outcome⟩ := reply
    obtain ⟨replaces, frame_eq⟩ := Mapper.mapFrame_runs run
    refine ⟨replaces, frame_eq.trans ?_, fun other => by cases other⟩
    cases outcome <;> rfl
  | unmap =>
    obtain ⟨left, unmaps, rfl⟩ := runs_map.mp run
    obtain ⟨rfl, leads, unmade⟩ := Mapper.unmap_runs unmaps
    exact ⟨.of_unmapped leads unmade rfl, rfl, fun other => by cases other⟩
  | destroy =>
    obtain ⟨left, destroys, rfl⟩ := runs_map.mp run
    obtain ⟨rfl, leads, unmade⟩ := Mapper.destroy_runs destroys
    exact ⟨.of_unmapped leads unmade rfl, rfl, fun _ => rfl⟩

variable {turns : List Turn} {start m : Mapper} {opening : List (Event interface)}

theorem History.leads (history : History start turns m) :
    Leads start.alive (journal turns) m.alive := by
  induction history with
  | nil => exact leads_nil _
  | concat past run ih =>
    obtain ⟨cleared, making, textures, split, -, clears, makes⟩ := (Operation.does run).replaces
    rw [journal_append, journal_cons, journal_nil, List.append_nil]
    exact ih.append (split ▸ clears.append makes)

theorem History.does (history : History start turns m) : ∀ t ∈ turns, t.Does := by
  induction history with
  | nil => exact fun t member => absurd member List.not_mem_nil
  | concat past run ih =>
    intro t member
    rcases List.mem_append.mp member with earlier | last
    · exact ih t earlier
    · rw [List.mem_singleton.mp last]
      exact Operation.does run

theorem Mapper.create_runs (run : Mapper.create.Runs opening start) :
    start = bare ∧ requestsOf opening = [] := by
  obtain ⟨report, _, last, rfl, reported, done⟩ := runs_bind.mp run
  obtain rfl := runs_notice.mp reported
  obtain ⟨rfl, rfl⟩ := runs_pure.mp done
  exact ⟨rfl, rfl⟩

/-- What was made once has been given back once, unless it is held. -/
theorem count_given {α : Type} [DecidableEq α] {made given held : List α}
    (books : made = given ++ held) (fresh : made.Nodup) {a : α} (member : a ∈ made) :
    given.count a = if a ∈ held then 0 else 1 := by
  have once : given.count a + held.count a = 1 := by
    rw [← List.count_append, ← books]
    exact List.count_eq_one_of_mem fresh member
  split
  · rename_i present
    have := List.count_pos_iff.mpr present
    omega
  · rename_i absent
    rw [List.count_eq_zero_of_not_mem absent] at once
    exact once

/-- What is true of a mapper and of everything that has happened since it was created. -/
structure Conserves (events : List (Event interface)) (turns : List Turn) (m : Mapper) : Prop where
  /-- Every call was made when it may be, and what is alive is what the mapper holds. -/
  leads : Leads .nothing events m.alive
  /-- A frame is mapped if the last turn has mapped it. -/
  frame_eq : m.mapped.map MappedFrame.frame = turns.getLast?.bind Turn.mapped?
  textures_all : m.textureList = [] ∨ m.textureList.length = maxPlanes
  /-- Images are destroyed in the order in which they were made, and so are textures. -/
  images_eq : events.flatMap imagesMade = events.flatMap imagesDestroyed ++ m.images
  textures_eq : events.flatMap texturesMade = events.flatMap texturesDeleted ++ m.textureList
  /-- Under names of its own, every image has been destroyed once, unless its frame is mapped. -/
  images_once : (events.flatMap imagesMade).Nodup → ∀ image ∈ events.flatMap imagesMade,
    (events.flatMap imagesDestroyed).count image = if image ∈ m.images then 0 else 1
  textures_once : (events.flatMap texturesMade).Nodup → ∀ texture ∈ events.flatMap texturesMade,
    (events.flatMap texturesDeleted).count texture = if texture ∈ m.textureList then 0 else 1
  /-- At every instant of every turn the images that are alive are of one frame. -/
  one_frame : ∀ t ∈ turns, ∀ seen later, t.events = seen ++ later →
    ((t.before.alive.run seen).images <:+ t.before.images ∧ seen.flatMap imagesMade = []) ∨
      (t.before.alive.run seen).images <:+ seen.flatMap imagesMade
  destroyed : ∀ t, turns.getLast? = some t → t.asked = .destroy →
    m = .bare

/-- At any time, and whatever fails. -/
theorem images_and_textures_conserved (creating : Mapper.create.Runs opening start)
    (history : History start turns m) : Conserves (opening ++ journal turns) turns m := by
  obtain ⟨rfl, silent⟩ := Mapper.create_runs creating
  have leads : Leads .nothing (opening ++ journal turns) m.alive :=
    (leads_of_silent silent).append history.leads
  have images_eq := leads.obeys.images_eq
  have textures_eq := leads.obeys.textures_eq
  rw [leads.run_eq] at images_eq textures_eq
  exact {
    leads
    images_eq
    textures_eq
    frame_eq := by
      cases history with
      | nil => rfl
      | concat past run => simpa using (Operation.does run).frame_eq
    textures_all := by
      unfold Mapper.textureList
      cases m.textures with
      | none => exact .inl rfl
      | some textures => exact .inr textures.length_toList
    images_once := fun fresh image member => count_given images_eq fresh member
    textures_once := fun fresh texture member => count_given textures_eq fresh member
    one_frame := fun t member seen later cut => (history.does t member).replaces.one_frame cut
    destroyed := by
      intro t last destroys
      cases history with
      | nil => cases last
      | concat past run =>
        rw [List.getLast?_concat] at last
        obtain rfl := Option.some.inj last
        exact (Operation.does run).destroyed destroys }

namespace Sample

open Simulation

def twoLayers : Image where
  serial := 0
  descriptor :=
    { objects := [⟨⟨7⟩, 3110400⟩]
      layers := [⟨.xrgb8888, [⟨0, 0, 1920⟩]⟩, ⟨.xrgb8888, [⟨0, 2073600, 1920⟩]⟩]
      objects_allowed := by decide
      layers_allowed := by decide
      layers_fit := by simp [Layer.Fits, CountAllowed, maxPlanes] }
  size := ⟨1920, 1080⟩
  color := {}

def api : ImageApi :=
  ⟨0, [⟨"create_image", 5, 1, .imageFailed ⟨1920, 1080⟩ .xrgb8888⟩], [], []⟩

def operations (asked : List Operation) : List Turn × Mapper :=
  simulate (fun m asked => Operation.reply m asked) Prod.fst ImageApi.answer asked Mapper.bare api

theorem operations_history (asked : List Operation) :
    History Mapper.bare (operations asked).1 (operations asked).2 :=
  simulate_history (I := interface) ImageApi.answer asked Mapper.bare api

end Sample

/-- The second layer of the third frame fails, and the textures are made anew before the fourth. -/
theorem images_and_textures_conserved_failed_layer :
    ∃ opening start turns m, Mapper.create.Runs opening start ∧ History start turns m ∧
      turns.map (·.mapped?.isSome) = [true, true, false, false, true] ∧
      Conserves (opening ++ journal turns) turns m := by
  have creating := runs_run (I := interface) Simulation.ImageApi.answer Mapper.create Sample.api
  have history := Sample.operations_history [.mapFrame Sample.twoLayers, .mapFrame Sample.twoLayers,
    .mapFrame Sample.twoLayers, .reinit, .mapFrame Sample.twoLayers]
  exact ⟨_, _, _, _, creating, history, by decide, images_and_textures_conserved creating history⟩

end Scanout.Texture
