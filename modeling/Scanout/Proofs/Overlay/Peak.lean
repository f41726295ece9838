import Scanout.Proofs.Overlay.Conservation
import Scanout.Proofs.Overlay.Movements

/-!
# How much is held at once

A ring that is full gives up its oldest generation before anything is acquired for the next, so at
every moment, also in the middle of a presentation, what is outstanding fits in as many generations
as the ring is deep.
-/

namespace Scanout.Overlay

open Display Proc

variable {kind : Resource → Bool} {bound : ℕ}

theorem countP_slots_le {slots : List Generation}
    (sized : ∀ g ∈ slots, (g.resources : Multiset Resource).countP (kind ·) ≤ bound) :
    ((slots.flatMap Generation.resources : List Resource) : Multiset Resource).countP (kind ·)
      ≤ slots.length * bound := by
  induction slots with
  | nil => simp
  | cons g rest ih =>
    obtain ⟨first, others⟩ := List.forall_mem_cons.mp sized
    rw [List.flatMap_cons, ← Multiset.coe_add, Multiset.countP_add, List.length_cons,
      Nat.succ_mul, Nat.add_comm]
    exact Nat.add_le_add (ih others) first

namespace Manager

variable {m : Manager} {image : Image} {src dst : Rect} {batch : Batch}
  {events : List (Event interface)} {p : Presentation}

def Sized (kind : Resource → Bool) (bound : ℕ) (m : Manager) : Prop :=
  ∀ g ∈ m.ring.slots, (g.resources : Multiset Resource).countP (kind ·) ≤ bound

theorem Sized.of_empty (slots : m.ring.slots = []) : m.Sized kind bound := by
  intro g member
  rw [slots] at member
  cases member

theorem Sized.after {left : Manager} {new : List Generation} (sized : m.Sized kind bound)
    (slots : left.ring.slots = m.ring.slots ∨
      left.ring.slots = m.ring.makeRoom.2.slots ++ new)
    (few : ∀ g ∈ new, (g.resources : Multiset Resource).countP (kind ·) ≤ bound) :
    left.Sized kind bound := by
  intro g member
  rcases slots with same | grown
  · exact sized g (same ▸ member)
  · rw [grown] at member
    rcases List.mem_append.mp member with old | fresh
    · exact sized g (Sound.mem_slots_of_makeRoom old)
    · exact few g fresh

theorem countP_sessionResources (blobless : ∀ b, kind (.blob b) = false) :
    (m.sessionResources : Multiset Resource).countP (kind ·) = 0 := by
  rw [Multiset.countP_eq_zero]
  intro r member
  obtain ⟨session, -, rfl⟩ := List.mem_map.mp (Multiset.mem_coe.mp member)
  simp [blobless]

theorem Sized.countP_le (sized : m.Sized kind bound) (blobless : ∀ b, kind (.blob b) = false) :
    (m.resources : Multiset Resource).countP (kind ·) ≤ m.ring.depth * bound := by
  rw [resources, ← Multiset.coe_add, Multiset.countP_add, countP_sessionResources blobless]
  exact (countP_slots_le sized).trans (Nat.mul_le_mul_right bound m.ring.length_le)

/-- What is outstanding once the oldest generation of a full ring is gone. -/
theorem outstanding_evicted (m : Manager) :
    outstanding m.resources (m.evictedResources.map .release)
      = m.sessionResources + m.keptResources := by
  rw [resources_eq, ← Multiset.coe_add, Multiset.add_assoc]
  have settles := (Settles.release_all m.evictedResources).frame
    (m.sessionResources + m.keptResources : Multiset Resource)
  rw [settles.outstanding_eq, Multiset.zero_add]

/-- There is room for what comes with a frame. -/
theorem Sized.countP_gained_le (sized : m.Sized kind bound)
    (blobless : ∀ b, kind (.blob b) = false) {gained : List Resource}
    (cheap : (gained : Multiset Resource).countP (kind ·) ≤ bound) :
    (m.sessionResources + m.keptResources + gained : Multiset Resource).countP (kind ·)
      ≤ m.ring.depth * bound := by
  have kept := countP_slots_le fun g member => sized g (Sound.mem_slots_of_makeRoom member)
  have room := m.ring.makeRoom_length_lt
  rw [Ring.makeRoom_depth] at room
  rw [Multiset.countP_add, Multiset.countP_add, countP_sessionResources blobless, Nat.zero_add]
  calc _ ≤ m.ring.makeRoom.2.slots.length * bound + bound := Nat.add_le_add kept cheap
    _ = (m.ring.makeRoom.2.slots.length + 1) * bound := (Nat.succ_mul _ _).symm
    _ ≤ m.ring.depth * bound := Nat.mul_le_mul_right bound room

theorem Presents.peak (presents : m.Presents image src dst batch events p)
    (blobless : ∀ b, kind (.blob b) = false) (sized : m.Sized kind bound)
    (cheap : ∀ gained, Brings image gained →
      (gained : Multiset Resource).countP (kind ·) ≤ bound) :
    AtMost kind (m.ring.depth * bound) m.resources (movementsOf events) ∧
      p.manager.Sized kind bound := by
  obtain ⟨new, moves, slots⟩ := presents.moves
  have before := sized.countP_le blobless
  generalize movementsOf events = ts at moves
  cases moves with
  | refused => exact ⟨atMost_nil before, sized.after slots (by simp)⟩
  | @moved gained given _ brings own =>
    have room := sized.countP_gained_le blobless (cheap gained brings)
    constructor
    · -- The bound holds before the first release, and from the last acquisition on.
      refine (atMost_releases before _).append ?_
      rw [outstanding_evicted]
      refine (atMost_acquires room).append ?_
      rw [outstanding_acquires]
      exact atMost_releases room given
    · exact sized.after slots fun g fresh =>
        (Multiset.countP_le_of_le _ (own g fresh)).trans (cheap gained brings)

end Manager

theorem atMost_of_neutral {held : Multiset Resource} {events : List (Event interface)}
    (few : held.countP (kind ·) ≤ bound) (neutral : ∀ request ∈ requestsOf events, request.Neutral) :
    AtMost kind bound held (movementsOf events) := by
  rw [movementsOf_of_neutral neutral]
  exact atMost_nil few

def Act.image? : Act → Option Image
  | .call (.present image ..) => image
  | _ => none

/-- No image that is presented can bring more of a kind. -/
def Act.Cheap (kind : Resource → Bool) (bound : ℕ) (act : Act) : Prop :=
  ∀ image, act.image? = some image → ∀ gained, Brings image gained →
    (gained : Multiset Resource).countP (kind ·) ≤ bound

theorem Call.Does.peak {m left : Manager} {call : Call} {events : List (Event interface)}
    (does : call.Does m events left) (blobless : ∀ b, kind (.blob b) = false)
    (sized : m.Sized kind bound) (cheap : (Act.call call).Cheap kind bound) :
    AtMost kind (m.ring.depth * bound) m.resources (movementsOf events) ∧
      left.Sized kind bound := by
  have before := sized.countP_le blobless
  cases does with
  | presented presents => exact presents.peak blobless sized (cheap _ rfl)
  | ended drains | released _ drains =>
    rw [drains.movements]
    exact ⟨atMost_releases before _, .of_empty rfl⟩
  | refreshed _ calls => exact ⟨atMost_of_neutral before (by simp [calls]), sized⟩
  | disabled _ calls => exact ⟨atMost_of_neutral before (by simp [calls]), sized⟩
  | idle => exact ⟨atMost_nil before, sized⟩

def OwnerSized (kind : Resource → Bool) (bound : ℕ) (owner : Option Manager) : Prop :=
  ∀ m, owner = some m → m.Sized kind bound

variable {config : Config} {acts : List Act} {act : Act} {before events : List (Event interface)}
  {owner left : Option Manager}

theorem Acts.peak (step : Acts config owner act events left)
    (sound : ∀ m, owner = some m → m.Sound config) (blobless : ∀ b, kind (.blob b) = false)
    (sized : OwnerSized kind bound owner) (cheap : act.Cheap kind bound) :
    AtMost kind (config.strategy.ringDepth * bound) (holdings owner) (movementsOf events) ∧
      OwnerSized kind bound left := by
  cases step with
  | refused creating =>
    exact ⟨atMost_of_neutral (Nat.zero_le _) (Manager.create_runs creating).2.1, by rintro _ ⟨⟩⟩
  | created creating =>
    obtain ⟨-, neutral, made⟩ := Manager.create_runs creating
    obtain ⟨size, panel, rfl⟩ := made _ rfl
    refine ⟨atMost_of_neutral (Nat.zero_le _) neutral, ?_⟩
    rintro _ ⟨⟩
    exact .of_empty rfl
  | called calling =>
    obtain ⟨peak, after⟩ := (Call.does calling).peak blobless (sized _ rfl) cheap
    rw [(sound _ rfl).depth_eq] at peak
    refine ⟨peak, ?_⟩
    rintro _ ⟨⟩
    exact after
  | dropped dropping =>
    have sound := sound _ rfl
    -- A released manager has nothing to discard, so a drop is a release.
    obtain ⟨released, releasing⟩ := Manager.drop_runs (fun torn => (sound.torn torn).1) dropping
    have does : Call.uninit.Does _ events released := Call.does releasing
    obtain ⟨peak, -⟩ := does.peak blobless (sized _ rfl) (by rintro _ ⟨⟩)
    rw [sound.depth_eq] at peak
    exact ⟨peak, by rintro _ ⟨⟩⟩

theorem Lifetime.sized (life : Lifetime config acts events owner)
    (blobless : ∀ b, kind (.blob b) = false) (cheap : ∀ act ∈ acts, act.Cheap kind bound) :
    OwnerSized kind bound owner := by
  induction life with
  | start => rintro _ ⟨⟩
  | next life step ih =>
    have earlier := ih fun act member => cheap act (List.mem_append_left _ member)
    have last := cheap _ (List.mem_append_right _ List.mem_cons_self)
    exact (step.peak life.sound blobless earlier last).2

/-- Whatever is outstanding in the course of an act fits in the ring. -/
theorem Lifetime.countP_outstanding_le {seen later : List (Event interface)}
    (life : Lifetime config acts before owner) (step : Acts config owner act events left)
    (cut : events = seen ++ later) (blobless : ∀ b, kind (.blob b) = false)
    (cheap : ∀ made ∈ acts ++ [act], made.Cheap kind bound) :
    (outstanding 0 (movementsOf (before ++ seen))).countP (kind ·)
      ≤ config.strategy.ringDepth * bound := by
  have sized := life.sized blobless fun made member => cheap made (List.mem_append_left _ member)
  have last := cheap act (List.mem_append_right _ List.mem_cons_self)
  obtain ⟨peak, -⟩ := step.peak life.sound blobless sized last
  rw [cut, movementsOf_append] at peak
  rw [movementsOf_append, outstanding_append, life.settles.1.outstanding_eq]
  exact peak _ _ rfl

/-- The most objects that an image has of those presented in these acts. -/
def largestObjectCount : List Act → ℕ
  | [] => 0
  | act :: rest => max ((act.image?.map Image.objectCount).getD 0) (largestObjectCount rest)

theorem objectCount_le_largest {image : Image} (member : act ∈ acts)
    (presents : act.image? = some image) : image.objectCount ≤ largestObjectCount acts := by
  induction acts with
  | nil => cases member
  | cons first rest ih =>
    rcases List.mem_cons.mp member with rfl | later
    · refine le_trans ?_ (Nat.le_max_left _ _)
      rw [presents]
      exact le_rfl
    · exact (ih later).trans (Nat.le_max_right _ _)

theorem largestObjectCount_le (acts : List Act) : largestObjectCount acts ≤ maxPlanes := by
  induction acts with
  | nil => exact Nat.zero_le _
  | cons act rest ih =>
    refine Nat.max_le.mpr ⟨?_, ih⟩
    cases act.image? with
    | none => exact Nat.zero_le _
    | some image => exact image.objectCount_le

structure Bounded (config : Config) (acts : List Act) (now : Multiset Resource) : Prop where
  handles_le : now.countP (Resource.isHandle ·)
    ≤ config.strategy.ringDepth * largestObjectCount acts
  handles_le_planes : now.countP (Resource.isHandle ·) ≤ config.strategy.ringDepth * maxPlanes
  framebuffers_le : now.countP (Resource.isFramebuffer ·) ≤ config.strategy.ringDepth

/-- At every moment of every act in the life of a manager, what has been handed out and not yet been
given back is bounded by the depth of the ring. -/
theorem outstanding_bounded {seen later : List (Event interface)}
    (life : Lifetime config acts before owner) (step : Acts config owner act events left)
    (cut : events = seen ++ later) :
    Bounded config (acts ++ [act]) (outstanding 0 (movementsOf (before ++ seen))) := by
  have handles := life.countP_outstanding_le step cut (fun _ => rfl)
    fun made member image presented gained brings =>
      brings.handles.trans (objectCount_le_largest member presented)
  exact {
    handles_le := handles
    handles_le_planes :=
      handles.trans (Nat.mul_le_mul_left _ (largestObjectCount_le (acts ++ [act])))
    framebuffers_le := by
      have framebuffers := life.countP_outstanding_le step cut (fun _ => rfl)
        fun made member image presented gained brings => brings.framebuffers
      rwa [Nat.mul_one] at framebuffers }

/-- In the middle of a second frame, when its memory is imported and nothing has been made of it. -/
theorem outstanding_bounded_importing :
    let frame := Call.present (some Sample.image) Sample.area Sample.area .empty
    let again := (frame.program Sample.showing.2.1.manager).run Simulation.DisplayDevice.answer
      Sample.showing.2.2
    let now := outstanding 0
      (movementsOf (Sample.creation ++ Sample.showing.1 ++ again.1.take 1))
    now.countP (Resource.isHandle ·) = 2 ∧ now.countP (Resource.isFramebuffer ·) = 1 ∧
      Bounded Sample.config [.create, .call frame, .call frame] now := by
  intro frame again now
  have run := runs_run (I := interface) Simulation.DisplayDevice.answer
    (frame.program Sample.showing.2.1.manager) Sample.showing.2.2
  exact ⟨by decide, by decide, outstanding_bounded Sample.shown_life (.called run)
    (List.take_append_drop 1 again.1).symm⟩

end Scanout.Overlay
