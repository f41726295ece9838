import Mathlib.Data.Fintype.Basic
import Scanout.Frame.Descriptor

/-!
# What a descriptor holds

A descriptor is accepted exactly if its parts are within bounds, and it then holds these parts
(`ofParts_eq_ok`, `ofParts_isOk_iff`). From the bounds it follows how many planes the framebuffer of
a frame has.

Objects are told apart by their index. `usedObjects` lists those that some planes lie in, in the
order of first use; a descriptor computes the same list of its own planes by another way.
-/

namespace Scanout

theorem nodup_eraseDups {α : Type} [BEq α] [LawfulBEq α] (l : List α) : l.eraseDups.Nodup := by
  match l with
  | [] => exact List.nodup_nil
  | a :: rest =>
    rw [List.eraseDups_cons, List.nodup_cons]
    refine ⟨fun member => ?_, nodup_eraseDups (rest.filter fun b => !b == a)⟩
    have other := (List.mem_filter.mp (List.mem_eraseDups.mp member)).2
    simp at other
termination_by l.length
decreasing_by
  have shorter := List.length_filter_le (fun b => !b == a) rest
  simp only [List.length_cons]
  omega

/-- Indices of the objects that planes lie in, each once, in the order of first use. -/
def usedObjects (planes : List Plane) : List Nat := (planes.map Plane.object).eraseDups

theorem usedObjects_nodup (planes : List Plane) : (usedObjects planes).Nodup := nodup_eraseDups _

theorem mem_usedObjects {planes : List Plane} {i : Nat} :
    i ∈ usedObjects planes ↔ ∃ p ∈ planes, p.object = i := by
  rw [usedObjects, List.mem_eraseDups, List.mem_map]

namespace FrameDescriptor

variable {d : FrameDescriptor}

theorem foldl_unseen (planes : List Plane) (seen : List Nat) :
    planes.foldl (fun seen p => if p.object ∈ seen then seen else seen ++ [p.object]) seen
      = seen ++ ((planes.map Plane.object).filter fun i => !seen.elem i).eraseDups := by
  induction planes generalizing seen with
  | nil => simp
  | cons p rest ih =>
    rw [List.foldl_cons, ih, List.map_cons]
    by_cases known : p.object ∈ seen
    · rw [if_pos known, List.filter_cons_of_neg (by simpa using known)]
    · rw [if_neg known, List.filter_cons_of_pos (by simpa using known), List.eraseDups_cons,
        List.append_assoc, List.singleton_append, List.filter_filter]
      -- What is not seen afterwards was not seen before and is another object.
      congr 4
      funext i
      simp [Bool.beq_eq_decide_eq, Bool.and_comm]

theorem referencedObjects_eq (d : FrameDescriptor) :
    d.referencedObjects = usedObjects d.planes := by
  rw [referencedObjects, foldl_unseen, usedObjects]
  simp

theorem usedObjects_of_single (single : d.layers.length = 1) :
    usedObjects d.scanoutPlanes = d.referencedObjects := by
  obtain ⟨layer, only⟩ := List.length_eq_one_iff.mp single
  rw [referencedObjects_eq, scanoutPlanes, planes, only, List.flatMap_singleton]

theorem scanoutPlanes_subset (d : FrameDescriptor) : d.scanoutPlanes ⊆ d.planes := by
  intro p member
  unfold scanoutPlanes at member
  split at member
  · rename_i layer single
    exact List.mem_flatMap.mpr ⟨layer, by simp [single], member⟩
  · obtain ⟨layer, present, first⟩ := List.mem_filterMap.mp member
    exact List.mem_flatMap.mpr ⟨layer, present, List.mem_of_head? first⟩

theorem usedObjects_subset (d : FrameDescriptor) :
    usedObjects d.scanoutPlanes ⊆ d.referencedObjects := by
  intro i used
  obtain ⟨p, member, lies⟩ := mem_usedObjects.mp used
  rw [referencedObjects_eq]
  exact mem_usedObjects.mpr ⟨p, d.scanoutPlanes_subset member, lies⟩

theorem scanoutPlanes_length (several : d.layers.length ≠ 1) :
    d.scanoutPlanes.length = d.layers.length := by
  have planed : ∀ layer ∈ d.layers, (layer.planes.head?).isSome := by
    intro layer member
    have count := (d.layers_fit layer member).1.1
    exact List.isSome_head?.mpr (List.ne_nil_of_length_pos count)
  unfold scanoutPlanes
  split
  · rename_i layer single
    exact absurd (by rw [single]; rfl) several
  · exact List.filterMap_length_eq_length.mpr planed

/-- The formats that several layers are mapped to, with the number of their planes. -/
theorem planeCount_of_scanoutFormat {format : Fourcc} (several : d.layers.length ≠ 1)
    (formatted : d.scanoutFormat = .ok format) :
    (format = .nv12 ∨ format = .p010) ∧ d.scanoutPlanes.length = 2 ∨
      format = .yuv420 ∧ d.scanoutPlanes.length = 3 := by
  have count : d.scanoutPlanes.length = (d.layers.map Layer.format).length := by
    rw [scanoutPlanes_length several, List.length_map]
  have many : (d.layers.map Layer.format).length ≠ 1 := by
    rwa [List.length_map]
  rw [count]
  unfold scanoutFormat at formatted
  generalize d.layers.map Layer.format = formats at many formatted
  split at formatted
  · exact absurd rfl many
  split at formatted
  · rename_i layers
    obtain rfl := Except.ok.inj formatted
    exact .inl ⟨.inl rfl, by rw [layers]; rfl⟩
  split at formatted
  · rename_i layers
    obtain rfl := Except.ok.inj formatted
    exact .inl ⟨.inr rfl, by rw [layers]; rfl⟩
  split at formatted
  · rename_i layers
    obtain rfl := Except.ok.inj formatted
    exact .inr ⟨rfl, by rw [layers]; rfl⟩
  · cases formatted

/-- Parts of which a descriptor can be made. -/
structure Admissible (objects : List MemoryObject) (layers : List Layer) : Prop where
  objectCount : 1 ≤ objects.length ∧ objects.length ≤ 4
  layerCount : 1 ≤ layers.length ∧ layers.length ≤ 4
  planeCount : ∀ layer ∈ layers, 1 ≤ layer.planes.length ∧ layer.planes.length ≤ 4
  present : ∀ layer ∈ layers, ∀ p ∈ layer.planes, p.object < objects.length

theorem admissible_iff {objects : List MemoryObject} {layers : List Layer} :
    Admissible objects layers ↔ CountAllowed objects.length ∧ CountAllowed layers.length ∧
      ∀ layer ∈ layers, layer.Fits objects.length := by
  constructor
  · intro admissible
    exact ⟨admissible.objectCount, admissible.layerCount, fun layer member =>
      ⟨admissible.planeCount layer member, admissible.present layer member⟩⟩
  · rintro ⟨objectCount, layerCount, fit⟩
    exact ⟨objectCount, layerCount, fun layer member => (fit layer member).1,
      fun layer member => (fit layer member).2⟩

theorem admissible (d : FrameDescriptor) : Admissible d.objects d.layers :=
  admissible_iff.mpr ⟨d.objects_allowed, d.layers_allowed, d.layers_fit⟩

theorem checkLayers_of_fit {objects : Nat} {layers : List Layer}
    (fit : ∀ layer ∈ layers, layer.Fits objects) (index : Nat) :
    ∃ checked, checkLayers objects index layers = .ok checked := by
  induction layers generalizing index with
  | nil => exact ⟨_, rfl⟩
  | cons layer rest ih =>
    obtain ⟨⟨count, present⟩, others⟩ := List.forall_mem_cons.mp fit
    obtain ⟨checked, later⟩ := ih others (index + 1)
    unfold checkLayers
    rw [dif_pos count]
    split
    · rename_i p found
      have outside := List.find?_some found
      have inside := present p (List.mem_of_find?_eq_some found)
      simp only [decide_eq_true_eq] at outside
      omega
    · rw [later]
      exact ⟨_, rfl⟩

theorem ofParts_eq_ok {objects : List MemoryObject} {layers : List Layer} :
    ofParts objects layers = .ok d ↔ d.objects = objects ∧ d.layers = layers := by
  constructor
  · intro accepted
    unfold ofParts at accepted
    split at accepted
    · split at accepted
      · split at accepted
        · cases accepted
        · obtain rfl := Except.ok.inj accepted
          exact ⟨rfl, rfl⟩
      · cases accepted
    · cases accepted
  · rintro ⟨rfl, rfl⟩
    obtain ⟨⟨fit⟩, checked⟩ := checkLayers_of_fit d.layers_fit 0
    rw [ofParts, dif_pos d.objects_allowed, dif_pos d.layers_allowed, checked]

theorem ofParts_isOk_iff {objects : List MemoryObject} {layers : List Layer} :
    (∃ d, ofParts objects layers = .ok d) ↔ Admissible objects layers := by
  constructor
  · rintro ⟨d, accepted⟩
    obtain ⟨rfl, rfl⟩ := ofParts_eq_ok.mp accepted
    exact d.admissible
  · intro admissible
    obtain ⟨objectCount, layerCount, fit⟩ := admissible_iff.mp admissible
    exact ⟨⟨objects, layers, objectCount, layerCount, fit⟩, ofParts_eq_ok.mpr ⟨rfl, rfl⟩⟩

end FrameDescriptor

end Scanout
