import Scanout.Proofs.Display.Outstanding
import Scanout.Proofs.Import.Acquired
import Scanout.Proofs.Overlay.Outcome

/-!
# In which order a presentation moves resources

The oldest generation of a full ring goes first, then the new frame's own resources come, and they
go again if the frame fails. `Presents.moves` says so of every presentation, and how much a frame
can bring.
-/

namespace Scanout

open Display Proc

def Resource.isHandle : Resource → Bool
  | .handle _ => true
  | .framebuffer _ | .blob _ => false

def Resource.isFramebuffer : Resource → Bool
  | .framebuffer _ => true
  | .handle _ | .blob _ => false

/-- The memory objects that the planes of an image's framebuffer lie in, counted once each. -/
def Image.objectCount (image : Image) : ℕ :=
  (image.descriptor.scanoutPlanes.map Plane.object).toFinset.card

theorem Image.objectCount_le (image : Image) : image.objectCount ≤ maxPlanes := by
  have within : (image.descriptor.scanoutPlanes.map Plane.object).toFinset
      ⊆ Finset.range maxPlanes := by
    intro object member
    obtain ⟨p, among, rfl⟩ := List.mem_map.mp (List.mem_toFinset.mp member)
    exact Finset.mem_range.mpr (Nat.lt_of_lt_of_le (FrameDescriptor.scanoutPlanes_fit among)
      image.descriptor.objects_allowed.2)
  exact (Finset.card_le_card within).trans_eq (Finset.card_range maxPlanes)

namespace Overlay

structure Brings (image : Image) (gained : List Resource) : Prop where
  handles : (gained : Multiset Resource).countP (Resource.isHandle ·) ≤ image.objectCount
  framebuffers : (gained : Multiset Resource).countP (Resource.isFramebuffer ·) ≤ 1

theorem brings_of_le {image : Image} {hs : List GemHandle} (fs : List FramebufferId)
    (blobs : List BlobId) (handles : hs.length ≤ image.objectCount) (framebuffers : fs.length ≤ 1) :
    Brings image (hs.map .handle ++ fs.map .framebuffer ++ blobs.map .blob) := by
  constructor <;>
    simpa [List.countP_map, Function.comp_def, Resource.isHandle, Resource.isFramebuffer]

namespace Manager

variable {m left : Manager} {image : Image} {src dst : Rect} {batch : Batch}
  {events start imports submits : List (Event interface)} {size : Option Size} {format : Fourcc}
  {geometry : PlaneGeometry} {handles : HandleSet} {p : Presentation}

/-- How a presentation moves resources, and the generation that is new after it. -/
inductive Moves (m : Manager) (image : Image) : List Movement → List Generation → Prop where
  | refused : Moves m image [] []
  /-- What is given back again is left open, and so is what else comes beside the new generation. -/
  | moved {gained given : List Resource} {new : List Generation} (brings : Brings image gained)
      (own : ∀ g ∈ new, (g.resources : Multiset Resource) ≤ gained) :
      Moves m image (m.evictedResources.map .release ++
        (gained.map .acquire ++ given.map .release)) new

theorem Submits.movements {color : Color} {g : Generation} {outcome : Except PresentError Batch}
    (submitted : Submits m color g geometry batch submits left outcome) :
    ∃ blobs : List BlobId, movementsOf submits = (blobs.map .blob).map .acquire := by
  cases submitted with
  | @opened blob => exact ⟨[blob], rfl⟩
  | staged | blobFailed => exact ⟨[], rfl⟩
  | updated | updateFailed => exact ⟨[], by rw [movementsOf_append, movementsOf_skipReport]; rfl⟩

theorem ofPlanes_gains {outcome : Except PresentError HandleSet}
    (importing : (HandleSet.ofPlanes image.descriptor image.descriptor.scanoutPlanes).Runs
      imports outcome) :
    ∃ gained given : List GemHandle, movementsOf imports
        = (gained.map .handle).map .acquire ++ (given.map .handle).map .release ∧
      gained.length ≤ image.objectCount ∧
      ∀ handles, outcome = .ok handles → given = [] ∧ handles.held.Perm gained := by
  obtain ⟨gained, given, movements, length_le, kept⟩ := (HandleSet.extends_of_runs importing).gains
  rw [HandleSet.missing_empty] at length_le
  refine ⟨gained, given, movements, length_le, fun handles done => ?_⟩
  obtain ⟨nothing, held⟩ := kept handles done
  exact ⟨nothing, held.trans (by rw [show HandleSet.empty.held = [] from rfl, List.append_nil])⟩

theorem Prepares.moves (prepares : m.Prepares image src dst start size format geometry)
    (importing : (HandleSet.ofPlanes image.descriptor image.descriptor.scanoutPlanes).Runs
      imports (.ok handles)) (fs : List FramebufferId) (blobs : List BlobId) {given : List Resource}
    (few : fs.length ≤ 1) (later : movementsOf events
      = (fs.map Resource.framebuffer ++ blobs.map Resource.blob).map .acquire ++ given.map .release) :
    ∃ gained, movementsOf (start ++ imports ++ events)
        = m.evictedResources.map .release ++ (gained.map .acquire ++ given.map .release) ∧
      Brings image gained ∧
      gained.Perm (fs.map .framebuffer ++ handles.resources ++ blobs.map .blob) := by
  obtain ⟨hs, closed, imported, fewHandles, kept⟩ := ofPlanes_gains importing
  obtain ⟨rfl, held⟩ := kept handles rfl
  refine ⟨hs.map .handle ++ fs.map .framebuffer ++ blobs.map .blob, ?_,
    brings_of_le fs blobs fewHandles few, List.Perm.append_right _ ?_⟩
  · rw [movementsOf_append, movementsOf_append, prepares.movements, imported, later]
    simp
  · exact List.perm_append_comm.trans ((held.symm.map _).append_left _)

/-- What comes for a frame that is shown is what its generation holds, and a blob at most. -/
theorem Prepares.moves_shown (prepares : m.Prepares image src dst start size format geometry)
    (importing : (HandleSet.ofPlanes image.descriptor image.descriptor.scanoutPlanes).Runs
      imports (.ok handles)) (layout : FramebufferLayout) (framebuffer : FramebufferId)
    {ready : Manager} {color : Color} {g : Generation} {submission : Batch}
    (submitted : ready.Submits color g geometry batch submits left (.ok submission)) :
    ∃ gained, ∃ blobs : List BlobId, movementsOf
        (start ++ imports ++ .answered (.addFramebuffer layout) (.ok framebuffer) :: submits)
        = m.evictedResources.map .release ++ (gained.map .acquire ++ [].map .release) ∧
      Brings image gained ∧
      gained.Perm ((Generation.mk (some framebuffer) handles (some image)).resources
        ++ blobs.map .blob) := by
  obtain ⟨blobs, opened⟩ := submitted.movements
  have later : movementsOf (.answered (.addFramebuffer layout) (.ok framebuffer) :: submits)
      = ([framebuffer].map Resource.framebuffer ++ blobs.map Resource.blob).map .acquire
        ++ [].map .release := by
    rw [movementsOf_answered, opened, List.map_append, List.map_nil, List.append_nil]
    rfl
  obtain ⟨gained, moves⟩ := prepares.moves importing [framebuffer] blobs le_rfl later
  exact ⟨gained, blobs, moves⟩

theorem Presents.moves (presents : m.Presents image src dst batch events p) :
    ∃ new, m.Moves image (movementsOf events) new ∧
      (p.manager.ring.slots = m.ring.slots ∨
        p.manager.ring.slots = m.ring.makeRoom.2.slots ++ new) := by
  cases presents with
  | refused asks refuses =>
    rw [asks.movements]
    exact ⟨[], .refused, .inl rfl⟩
  | importFailed prepares importing =>
    obtain ⟨hs, given, imported, few, -⟩ := ofPlanes_gains importing
    have brings := brings_of_le [] [] few (Nat.zero_le 1)
    refine ⟨[], ?_, .inr ?_⟩
    · rw [movementsOf_append, prepares.movements, imported]
      simp only [List.map_nil, List.append_nil] at brings
      exact .moved brings (by simp)
    · split <;> exact (List.append_nil _).symm
  | @framebufferFailed _ _ aborts _ format _ handles cause prepares importing aborted =>
    have later : movementsOf
        (.answered (.addFramebuffer (layoutOf image format handles)) (.error cause) :: aborts)
        = ([].map Resource.framebuffer ++ [].map Resource.blob).map .acquire
          ++ (Generation.mk none handles none).resources.map .release := by
      rw [movementsOf_answered, movementsOf_of_releases aborted]
      rfl
    obtain ⟨gained, moved, brings, -⟩ := prepares.moves importing [] [] (Nat.zero_le 1) later
    exact ⟨[], moved ▸ .moved brings (by simp), .inr (List.append_nil _).symm⟩
  | @submitFailed _ _ submits aborts _ format _ handles framebuffer _ _ prepares importing submitted
      aborted =>
    obtain ⟨silent, -, -, reported, rfl⟩ := submitted.failed
    have later : movementsOf
        (.answered (.addFramebuffer (layoutOf image format handles)) (.ok framebuffer)
          :: (submits ++ aborts))
        = ([framebuffer].map Resource.framebuffer ++ [].map Resource.blob).map .acquire
          ++ (Generation.mk (some framebuffer) handles none).resources.map .release := by
      rw [movementsOf_answered, movementsOf_append, silent, movementsOf_of_releases aborted]
      rfl
    obtain ⟨gained, moved, brings, -⟩ := prepares.moves importing [framebuffer] [] le_rfl later
    exact ⟨[], moved ▸ .moved brings (by simp), .inr (List.append_nil _).symm⟩
  | @shown _ _ _ _ format _ handles framebuffer _ _ prepares importing submitted =>
    obtain ⟨gained, blobs, moved, brings, own⟩ := prepares.moves_shown importing
      (layoutOf image format handles) framebuffer submitted
    refine ⟨[⟨some framebuffer, handles, some image⟩], ?_, .inr ?_⟩
    · rw [moved]
      refine .moved brings (List.forall_mem_singleton.mpr ?_)
      rw [Multiset.coe_eq_coe.mpr own, ← Multiset.coe_add]
      exact Multiset.le_add_right _ _
    · obtain ⟨hdr, reported, rfl⟩ := submitted.left_eq
      exact slots_installed m.ring.makeRoom_makeRoom

end Manager

end Overlay

end Scanout
