import Scanout.Proofs.Geometry.Refusals
import Scanout.Proofs.Overlay.Stream

/-!
# What a presentation leaves

A presentation that fails is undone: `Fails` says that it gives back what it acquired, and that the
only lasting change is the oldest generation of a full ring, which had to give way before the device
could be asked for anything. A presentation that succeeds adds one generation to what it leaves.
-/

namespace Scanout.Overlay

open Display Proc

inductive Blames : Fault → Request → DeviceError → Prop where
  | importing (object : Nat) (fd : Fd) (cause : DeviceError) :
      Blames (.refused (.objectImportFailed object cause)) (.importPrimeFd fd) cause
  | framebuffer (size : Size) (layout : FramebufferLayout) (cause : DeviceError) :
      Blames (.refused (.framebufferFailed size cause)) (.addFramebuffer layout) cause
  | blob (data : List UInt8) (cause : DeviceError) :
      Blames (.refused (.blobFailed cause)) (.createBlob data) cause
  | update (plane framebuffer : UInt32) (update : PlaneUpdate) (cause : DeviceError) :
      Blames (.refused (.planeUpdateFailed plane framebuffer cause)) (.setPlane update) cause

def importFailuresOf (fault : Fault) : Nat := if fault.kind? = some .importing then 1 else 0

def commitFailuresOf (fault : Fault) : Nat := if fault.kind? = some .commit then 1 else 0

namespace Manager

variable {m left : Manager} {image : Image} {src dst : Rect} {batch : Batch}
  {events : List (Event interface)} {p : Presentation}

/-- How a fault came about, and the ring that is left. -/
inductive FailsBy (m : Manager) (events : List (Event interface)) (fault : Fault)
    (left : Ring Generation) : Prop where
  /-- The frame itself was refused: nothing but the mode was asked for. -/
  | check (ring_eq : left = m.ring) (checked : fault.FromCheck)
      (calls : requestsOf events = m.modeRequests)
  /-- The device failed to do its part, after the oldest generation of a full ring gave way. -/
  | device (ring_eq : left = m.ring.makeRoom.2) (request : Request) (cause : DeviceError)
      (blame : Blames fault request cause) (answered : .answered request (.error cause) ∈ events)
      (settles : Settles m.evictedResources (movementsOf events) 0)

structure Fails (m : Manager) (batch : Batch) (events : List (Event interface)) (fault : Fault)
    (p : Presentation) : Prop where
  batch_eq : p.batch = batch
  config_eq : p.manager.config = m.config
  tornDown_eq : p.manager.tornDown = m.tornDown
  hdr_eq : p.manager.hdr = m.hdr
  stats_eq : p.manager.stats = { m.stats with
    importFailures := m.stats.importFailures + importFailuresOf fault
    commitFailures := m.stats.commitFailures + commitFailuresOf fault
    liveHandles := p.manager.stats.liveHandles }
  how : m.FailsBy events fault p.manager.ring
  quiet : NoLeak events

theorem modeRequests_neutral : ∀ request ∈ m.modeRequests, request.Neutral := by
  unfold modeRequests
  split <;> simp

def keptResources (m : Manager) : List Resource :=
  m.ring.makeRoom.2.slots.flatMap Generation.resources

theorem Asks.calls {size : Option Size} (asks : m.Asks events size) :
    requestsOf events = m.modeRequests ∧ NoLeak events := by
  unfold modeRequests
  cases asks with
  | kept streaming => simp [streaming]
  | asked first calls quiet => simp [first, calls, quiet]

theorem Asks.movements {size : Option Size} (asks : m.Asks events size) :
    movementsOf events = [] := by
  refine movementsOf_of_neutral ?_
  rw [asks.calls.1]
  exact modeRequests_neutral

theorem Refuses.fromCheck {fault : Fault} (refuses : m.Refuses image src dst fault) :
    fault.FromCheck := by
  cases refuses with
  | misplaced placed => exact (Checks.ofRects _ _ _ _ placed).fromCheck
  | unformatted placed formatted =>
    exact .unsupported (FrameDescriptor.scanoutFormat_error formatted)

@[simp] theorem requestsOf_skipReport : requestsOf m.skipReport = [] := by
  unfold skipReport
  split <;> rfl

@[simp] theorem movementsOf_skipReport : movementsOf m.skipReport = [] := by
  unfold skipReport
  split <;> rfl

@[simp] theorem noLeak_skipReport : NoLeak m.skipReport := by
  unfold skipReport
  split <;> simp

section Stages

variable {start imports submits : List (Event interface)} {size : Option Size} {format : Fourcc}
  {geometry : PlaneGeometry} {handles : HandleSet}

theorem Prepares.movements (prepares : m.Prepares image src dst start size format geometry) :
    movementsOf start = m.evictedResources.map .release := by
  obtain ⟨query, evict, rfl, asks, evicted, -⟩ := prepares.calls
  rw [movementsOf_append, asks.movements, movementsOf_of_releases evicted, List.nil_append]

theorem Prepares.settles (prepares : m.Prepares image src dst start size format geometry) :
    Settles m.evictedResources (movementsOf start) 0 := by
  rw [prepares.movements]
  exact .release_all _

theorem Prepares.quiet (prepares : m.Prepares image src dst start size format geometry) :
    NoLeak start := by
  obtain ⟨query, evict, rfl, asks, -, evictQuiet⟩ := prepares.calls
  exact noLeak_append.mpr ⟨asks.calls.2, evictQuiet⟩

theorem Prepares.settles_imports (prepares : m.Prepares image src dst start size format geometry)
    {outcome : Except PresentError HandleSet}
    (importing : (HandleSet.ofPlanes image.descriptor image.descriptor.scanoutPlanes).Runs
      imports outcome) :
    Settles m.evictedResources (movementsOf (start ++ imports)) (HandleSet.kept outcome) := by
  rw [movementsOf_append]
  exact prepares.settles.append (HandleSet.extend_runs importing).settles

theorem settles_made (layout : FramebufferLayout) (framebuffer : FramebufferId)
    (handles : HandleSet) (image : Option Image) :
    Settles handles.resources (movementsOf [.answered (.addFramebuffer layout) (.ok framebuffer)])
      (Generation.mk (some framebuffer) handles image).resources :=
  .acquire (.nil _)

theorem Submits.settles {color : Color} {g : Generation} {outcome : Except PresentError Batch}
    (submitted : Submits m color g geometry batch submits left outcome) :
    Settles m.sessionResources (movementsOf submits) left.sessionResources := by
  cases submitted with
  | staged => exact .nil _
  | opened atomic fresh =>
    rw [sessionResources, sessionResources, fresh]
    exact .acquire (.nil _)
  | blobFailed => exact .nil _
  | updated =>
    rw [movementsOf_append, movementsOf_skipReport]
    exact .nil _
  | updateFailed =>
    rw [movementsOf_append, movementsOf_skipReport]
    exact .nil _

theorem Submits.quiet {color : Color} {g : Generation} {outcome : Except PresentError Batch}
    (submitted : Submits m color g geometry batch submits left outcome) : NoLeak submits := by
  cases submitted <;> simp

theorem Submits.failed {color : Color} {g : Generation} {e : PresentError}
    (submitted : Submits m color g geometry batch submits left (.error e)) :
    movementsOf submits = [] ∧ e.kind = .commit ∧
      (∃ request cause, Blames (.refused e) request cause ∧
        .answered request (.error cause) ∈ submits) ∧
      ∃ reported, left = { m with hdrSkipReported := reported } := by
  cases submitted with
  | blobFailed => exact ⟨rfl, rfl, ⟨_, _, .blob _ _, List.mem_singleton_self _⟩, _, rfl⟩
  | updateFailed =>
    refine ⟨?_, rfl, ⟨_, _,
      .update _ _ (showUpdate m.config.targets g.framebuffer geometry) _, ?_⟩, true, rfl⟩
    · rw [movementsOf_append, movementsOf_skipReport]
      rfl
    · exact List.mem_append_right _ (List.mem_singleton_self _)

end Stages

theorem Presents.fails {fault : Fault} (presents : m.Presents image src dst batch events p)
    (failed : p.outcome = .error fault) : m.Fails batch events fault p := by
  cases presents with
  | refused asks refuses =>
    cases failed
    have checked := refuses.fromCheck
    obtain ⟨notImporting, notCommit⟩ := checked.kind?_ne
    exact {
      batch_eq := rfl
      config_eq := rfl
      tornDown_eq := rfl
      hdr_eq := rfl
      stats_eq := by simp [importFailuresOf, commitFailuresOf, notImporting, notCommit,
        withDisplaySize]
      how := .check rfl checked asks.calls.1
      quiet := asks.calls.2 }
  | importFailed prepares importing =>
    cases failed
    obtain ⟨object, fd, cause, rfl, answered⟩ := HandleSet.ofPlanes_error importing
    exact {
      batch_eq := rfl
      config_eq := rfl
      tornDown_eq := rfl
      hdr_eq := rfl
      stats_eq := rfl
      how := .device rfl _ cause (.importing object fd cause) (List.mem_append_right _ answered)
        (prepares.settles_imports importing)
      quiet := noLeak_append.mpr ⟨prepares.quiet, (HandleSet.extend_runs importing).quiet⟩ }
  | framebufferFailed prepares importing aborted quiet =>
    cases failed
    have settles := prepares.settles_imports importing
    rw [HandleSet.kept] at settles
    have importsQuiet := (HandleSet.extend_runs importing).quiet
    exact {
      batch_eq := rfl
      config_eq := rfl
      tornDown_eq := rfl
      hdr_eq := rfl
      stats_eq := rfl
      how := .device rfl _ _ (.framebuffer _ _ _)
        (List.mem_append_right _ List.mem_cons_self) (by
          rw [movementsOf_append, movementsOf_answered, movementsOf_of_releases aborted]
          exact settles.append (.release_all _))
      quiet := by simp [prepares.quiet, importsQuiet, quiet] }
  | @submitFailed _ _ submits _ _ _ _ _ _ _ _ prepares importing submitted aborted quiet =>
    cases failed
    have settles := prepares.settles_imports importing
    rw [HandleSet.kept] at settles
    have importsQuiet := (HandleSet.extend_runs importing).quiet
    obtain ⟨silent, commit, ⟨request, cause, blame, answered⟩, reported, rfl⟩ := submitted.failed
    exact {
      batch_eq := rfl
      config_eq := rfl
      tornDown_eq := rfl
      hdr_eq := rfl
      stats_eq := by simp [importFailuresOf, commitFailuresOf, Fault.kind?, commit,
        countCommitFailure, ready]
      how := .device rfl request cause blame
        (List.mem_append_right _ (List.mem_cons_of_mem _ (List.mem_append_left _ answered))) (by
          rw [movementsOf_append, movementsOf_answered, movementsOf_append submits, silent,
            movementsOf_of_releases aborted]
          exact settles.append (.acquire (.release_all _)))
      quiet := by simp [prepares.quiet, importsQuiet, submitted.quiet, quiet] }
  | shown => cases failed

theorem slots_installed {g : Generation} (room : m.ring.makeRoom = (none, m.ring)) :
    (m.installed g).ring.slots = m.ring.slots ++ [g] := by
  change m.ring.makeRoom.2.slots ++ [g] = m.ring.slots ++ [g]
  rw [room]

theorem resources_installed {g : Generation} (room : m.ring.makeRoom = (none, m.ring)) :
    (m.installed g).resources
      = m.ring.slots.flatMap Generation.resources ++ g.resources ++ m.sessionResources := by
  rw [resources, slots_installed room, List.flatMap_append, List.flatMap_singleton]
  rfl

/-- What a manager holds is what it lets go of, and what stays where it is. -/
theorem resources_eq (m : Manager) :
    (m.resources : Multiset Resource)
      = (m.evictedResources ++ m.sessionResources : List Resource) + m.keptResources := by
  rw [resources, ← Ring.makeRoom_slots, List.flatMap_append, Multiset.coe_add, Multiset.coe_eq_coe,
    List.append_assoc, List.append_assoc]
  exact List.perm_append_comm.append_left _

/-- A presentation settles beside what the kept generations hold. -/
theorem Presents.settles_beside (presents : m.Presents image src dst batch events p) :
    ∃ left : Multiset Resource,
      Settles (m.evictedResources ++ m.sessionResources : List Resource) (movementsOf events) left ∧
      (p.manager.resources : Multiset Resource) = left + m.keptResources := by
  rw [← Multiset.coe_add]
  cases outcome : p.outcome with
  | error fault =>
    have fails := presents.fails outcome
    cases fails.how with
    | check ring_eq checked calls =>
      refine ⟨m.evictedResources + m.sessionResources, ?_, ?_⟩
      · rw [movementsOf_of_neutral (by rw [calls]; exact modeRequests_neutral)]
        exact .nil _
      · rw [Multiset.coe_add, ← resources_eq, resources, resources, sessionResources,
          sessionResources, ring_eq, fails.hdr_eq]
    | device ring_eq request cause blame answered settles =>
      refine ⟨_, settles.frame m.sessionResources, ?_⟩
      rw [resources, sessionResources, ring_eq, fails.hdr_eq, ← Multiset.coe_add,
        Multiset.zero_add, Multiset.add_comm]
      rfl
  | ok _ =>
    cases presents with
    | @shown start imports _ size format _ handles framebuffer left _
        prepares importing submitted =>
      -- The framebuffer and its handles settle beside the session, and the session beside them.
      have made := (prepares.settles_imports importing).append
        (settles_made (layoutOf image format handles) framebuffer handles (some image))
      have opened := submitted.settles.frame
        (Generation.mk (some framebuffer) handles (some image)).resources
      obtain ⟨hdr, reported, rfl⟩ := submitted.left_eq
      rw [Multiset.add_comm] at opened
      rw [← List.singleton_append, ← List.append_assoc, movementsOf_append,
        movementsOf_append (start ++ imports)]
      refine ⟨_, (made.frame m.sessionResources).append opened, ?_⟩
      rw [resources_installed m.ring.makeRoom_makeRoom, ← Multiset.coe_add, ← Multiset.coe_add,
        Multiset.add_comm, Multiset.add_assoc]
      exact congrArg _ (Multiset.add_comm _ _)
    | refused | importFailed | framebufferFailed | submitFailed => cases outcome

theorem Presents.settles (presents : m.Presents image src dst batch events p) :
    Settles m.resources (movementsOf events) p.manager.resources := by
  obtain ⟨left, settles, holds⟩ := presents.settles_beside
  rw [m.resources_eq, holds]
  exact settles.frame _

theorem Presents.quiet (presents : m.Presents image src dst batch events p) : NoLeak events := by
  cases outcome : p.outcome with
  | error fault => exact (presents.fails outcome).quiet
  | ok _ =>
    cases presents with
    | shown prepares importing submitted =>
      simp [prepares.quiet, (HandleSet.extend_runs importing).quiet, submitted.quiet]
    | refused | importFailed | framebufferFailed | submitFailed => cases outcome

end Manager

end Scanout.Overlay
