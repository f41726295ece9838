import Scanout.Proofs.Import.Steps
import Scanout.Proofs.Overlay.Outcome

/-!
# How a frame gets hold of its framebuffer

Until it has its framebuffer, a frame goes the same way by either strategy. `Acquires` says what is
asked of the device on this way and where it ends, in terms of the frame and of the place it is to
take, and `Acquires.agree` that the device's answers decide it. `Presents.acquires` cuts a
presentation there: what comes after is the submission.
-/

namespace Scanout.Overlay

open Display Proc

def check (placed : Except Fault PlaneGeometry) (image : Image) :
    Except Fault (PlaneGeometry × Fourcc) := do
  let geometry ← placed
  let format ← Fault.ofRefusal image.descriptor.scanoutFormat
  return (geometry, format)

/-- A framebuffer with the handles it was made from, and where it is to be shown. -/
structure Acquired where
  geometry : PlaneGeometry
  handles : HandleSet
  framebuffer : FramebufferId

def made (geometry : PlaneGeometry) (size : Size) (handles : HandleSet) :
    Except DeviceError FramebufferId → Except Fault Acquired
  | .ok framebuffer => .ok ⟨geometry, handles, framebuffer⟩
  | .error cause => .error (.refused (.framebufferFailed size cause))

inductive Acquires (placed : Except Fault PlaneGeometry) (image : Image) :
    List (Event interface) → Except Fault Acquired → Prop where
  | refused {fault : Fault} (checked : check placed image = .error fault) :
      Acquires placed image [] (.error fault)
  | unimported {geometry : PlaneGeometry} {format : Fourcc} {imports : List (Event interface)}
      {e : PresentError} (checked : check placed image = .ok (geometry, format))
      (importing : (HandleSet.ofPlanes image.descriptor image.descriptor.scanoutPlanes).Runs
        imports (.error e)) :
      Acquires placed image (acquisitionsOf imports) (.error (.refused e))
  | answered {geometry : PlaneGeometry} {format : Fourcc} {imports : List (Event interface)}
      {handles : HandleSet} (checked : check placed image = .ok (geometry, format))
      (importing : (HandleSet.ofPlanes image.descriptor image.descriptor.scanoutPlanes).Runs
        imports (.ok handles))
      (answer : Except DeviceError FramebufferId) :
      Acquires placed image
        (acquisitionsOf imports
          ++ [.answered (.addFramebuffer (Manager.layoutOf image format handles)) answer])
        (made geometry image.size handles answer)

namespace Acquires

variable {placed : Except Fault PlaneGeometry} {image : Image}
  {calls others later rest : List (Event interface)} {result other : Except Fault Acquired}

theorem acquisitionsOf_eq (acquires : Acquires placed image calls result) :
    acquisitionsOf calls = calls := by
  cases acquires with
  | refused => rfl
  | unimported => rw [acquisitionsOf_acquisitionsOf]
  | answered => rw [acquisitionsOf_append, acquisitionsOf_acquisitionsOf]; rfl

theorem framebuffer_made {acquired : Acquired}
    (acquires : Acquires placed image calls (.ok acquired)) :
    ∃ imports layout,
      calls = imports ++ [.answered (.addFramebuffer layout) (.ok acquired.framebuffer)] := by
  generalize came : Except.ok acquired = result at acquires
  cases acquires with
  | refused | unimported => cases came
  | answered checked importing answer =>
    cases answer with
    | error cause => cases came
    | ok f =>
      cases came
      exact ⟨_, _, rfl⟩

/-- Frames that are to take the same place go the same way, if the device answers them the same. -/
theorem agree (first : Acquires placed image calls result)
    (second : Acquires placed image others other)
    (same : SameAnswers (calls ++ later) (others ++ rest)) :
    calls = others ∧ result = other ∧ SameAnswers later rest := by
  cases first with
  | refused checked =>
    cases second with
    | refused checkedToo =>
      cases checked.symm.trans checkedToo
      exact ⟨rfl, rfl, same⟩
    | unimported checkedToo | answered checkedToo => cases checked.symm.trans checkedToo
  | unimported checked importing =>
    cases second with
    | refused checkedToo => cases checked.symm.trans checkedToo
    | unimported checkedToo importingToo =>
      obtain ⟨calls_eq, ends, rest⟩ := HandleSet.extend_agree importing importingToo same
      cases ends
      exact ⟨calls_eq, rfl, rest⟩
    | answered checkedToo importingToo =>
      rw [List.append_assoc] at same
      cases (HandleSet.extend_agree importing importingToo same).2.1
  | answered checked importing =>
    rw [List.append_assoc] at same
    cases second with
    | refused checkedToo => cases checked.symm.trans checkedToo
    | unimported checkedToo importingToo =>
      cases (HandleSet.extend_agree importing importingToo same).2.1
    | answered checkedToo importingToo =>
      rw [List.append_assoc] at same
      cases checked.symm.trans checkedToo
      obtain ⟨calls_eq, ends, asked⟩ := HandleSet.extend_agree importing importingToo same
      cases ends
      -- The same handles make the same framebuffer, and it is answered the same.
      obtain ⟨rfl, rest⟩ := SameAnswers.answered asked
      exact ⟨by rw [calls_eq], rfl, rest⟩

end Acquires

namespace Manager

variable {m : Manager} {image : Image} {src dst : Rect} {batch : Batch}
  {events : List (Event interface)} {p : Presentation}

/-- Where a frame is placed is decided by the settings and by the display's size. -/
theorem place_congr {other : Manager} (osdSize : other.config.osdSize = m.config.osdSize)
    (alignment : other.config.alignment = m.config.alignment) (size : Option Size) :
    (other.withDisplaySize size).place src dst = (m.withDisplaySize size).place src dst := by
  simp only [place, destination, withDisplaySize, osdSize, alignment]

theorem place_of_unscaled (unscaled : m.config.osdSize = none) (size other : Option Size) :
    (m.withDisplaySize size).place src dst = (m.withDisplaySize other).place src dst := by
  simp only [place, destination, withDisplaySize, unscaled]

theorem place_of_unknown (m : Manager) (src dst : Rect) :
    (m.withDisplaySize none).place src dst = PlaneGeometry.ofRects src dst m.config.alignment := by
  unfold place destination withDisplaySize
  cases m.config.osdSize <;> rfl

theorem modeRequests_not_isStep : ∀ request ∈ m.modeRequests, request.isStep = false := by
  unfold modeRequests
  split <;> simp [Request.isStep, Request.acquires, Request.submits]

theorem Asks.stepsOf_eq {size : Option Size} (asks : m.Asks events size) : stepsOf events = [] := by
  refine callsOf_eq_nil ?_
  rw [asks.calls.1]
  exact modeRequests_not_isStep

theorem Prepares.stepsOf_eq {size : Option Size} {format : Fourcc} {geometry : PlaneGeometry}
    (prepares : m.Prepares image src dst events size format geometry) : stepsOf events = [] := by
  obtain ⟨query, evict, rfl, asks, evicted, -⟩ := prepares.calls
  rw [stepsOf_append, asks.stepsOf_eq, stepsOf_of_releases evicted, List.nil_append]

theorem Prepares.checked {size known : Option Size} {format : Fourcc} {geometry : PlaneGeometry}
    (prepares : m.Prepares image src dst events size format geometry) (known_eq : known = size) :
    check ((m.withDisplaySize known).place src dst) image = .ok (geometry, format) := by
  rw [check, known_eq, prepares.placed, prepares.formatted]
  rfl

theorem Refuses.checked {fault : Fault} (refuses : m.Refuses image src dst fault) :
    check (m.place src dst) image = .error fault := by
  cases refuses with
  | misplaced placed => rw [check, placed]; rfl
  | unformatted placed formatted => rw [check, placed, formatted]; rfl

inductive Ends (m : Manager) (image : Image) (batch : Batch) (calls events : List (Event interface))
    (p : Presentation) : Except Fault Acquired → Prop where
  | stopped {fault : Fault} (steps : stepsOf events = calls) (outcome : p.outcome = .error fault)
      (batch_eq : p.batch = batch) : Ends m image batch calls events p (.error fault)
  | submitted (acquired : Acquired) {submits : List (Event interface)} {size : Option Size}
      {left : Manager} {outcome : Except PresentError Batch}
      (submitted : (m.ready size).Submits image.color
        ⟨some acquired.framebuffer, acquired.handles, none⟩ acquired.geometry batch submits left
        outcome)
      (steps : stepsOf events = calls ++ stepsOf submits)
      (outcome_eq : p.outcome = Fault.ofRefusal (outcome.map fun _ => ()))
      (batch_eq : p.batch = outcome.toOption.getD batch) :
      Ends m image batch calls events p (.ok acquired)

theorem Submits.displaySize_eq {color : Color} {g : Generation} {geometry : PlaneGeometry}
    {left : Manager} {outcome : Except PresentError Batch}
    (submitted : Submits m color g geometry batch events left outcome) :
    left.displaySize = m.displaySize := by
  obtain ⟨hdr, reported, rfl⟩ := submitted.left_eq
  rfl

@[simp] theorem stepsOf_skipReport : stepsOf m.skipReport = [] := by
  unfold skipReport
  split <;> rfl

@[simp] theorem modeQueriesOf_skipReport : modeQueriesOf m.skipReport = [] := by
  unfold skipReport
  split <;> rfl

theorem Submits.modeQueriesOf_eq {color : Color} {g : Generation} {geometry : PlaneGeometry}
    {left : Manager} {outcome : Except PresentError Batch}
    (submitted : Submits m color g geometry batch events left outcome) :
    modeQueriesOf events = [] := by
  cases submitted with
  | staged | opened | blobFailed => rfl
  | updated | updateFailed =>
    rw [modeQueriesOf_append, modeQueriesOf_skipReport]
    rfl

/-- A presentation begins by what it takes to know that size, and does not ask for it again. -/
theorem Presents.asks (presents : m.Presents image src dst batch events p) :
    ∃ query rest, events = query ++ rest ∧ m.Asks query p.manager.displaySize ∧
      modeQueriesOf rest = [] := by
  have silent {imports : List (Event interface)} {outcome : Except PresentError HandleSet}
      (importing : (HandleSet.ofPlanes image.descriptor image.descriptor.scanoutPlanes).Runs
        imports outcome) : modeQueriesOf imports = [] :=
    (HandleSet.extend_runs importing).modeQueriesOf_eq
  cases presents with
  | refused asks => exact ⟨_, [], (List.append_nil _).symm, asks, rfl⟩
  | importFailed prepares importing =>
    obtain ⟨query, evict, rfl, asks, evicted, -⟩ := prepares.calls
    refine ⟨query, _, by rw [List.append_assoc], ?_, ?_⟩
    · dsimp only
      split <;> exact asks
    · simp [modeQueriesOf_of_releases evicted, silent importing]
  | framebufferFailed prepares importing aborted =>
    obtain ⟨query, evict, rfl, asks, evicted, -⟩ := prepares.calls
    refine ⟨query, _, by rw [List.append_assoc, List.append_assoc], asks, ?_⟩
    simp [modeQueriesOf_of_releases evicted, silent importing, modeQueriesOf_of_releases aborted]
  | @submitFailed _ _ _ _ size _ _ _ _ left _ prepares importing submitted aborted =>
    obtain ⟨query, evict, rfl, asks, evicted, -⟩ := prepares.calls
    have size_eq : left.displaySize = size := submitted.displaySize_eq
    rw [← size_eq] at asks
    refine ⟨query, _, by rw [List.append_assoc, List.append_assoc], asks, ?_⟩
    simp [modeQueriesOf_of_releases evicted, silent importing, submitted.modeQueriesOf_eq,
      modeQueriesOf_of_releases aborted]
  | @shown _ _ _ size _ _ _ _ left _ prepares importing submitted =>
    obtain ⟨query, evict, rfl, asks, evicted, -⟩ := prepares.calls
    have size_eq : left.displaySize = size := submitted.displaySize_eq
    rw [← size_eq] at asks
    refine ⟨query, _, by rw [List.append_assoc, List.append_assoc], asks, ?_⟩
    simp [modeQueriesOf_of_releases evicted, silent importing, submitted.modeQueriesOf_eq]

theorem Submits.acquisitionsOf_eq {color : Color} {g : Generation} {geometry : PlaneGeometry}
    {left : Manager} {outcome : Except PresentError Batch}
    (submitted : Submits m color g geometry batch events left outcome) :
    acquisitionsOf events = [] := by
  rw [← acquisitionsOf_stepsOf]
  cases submitted with
  | staged | opened | blobFailed => rfl
  | updated | updateFailed =>
    rw [stepsOf_append, stepsOf_skipReport]
    rfl

theorem Ends.acquisitionsOf_eq {calls : List (Event interface)} {result : Except Fault Acquired}
    (ends : m.Ends image batch calls events p result) (acquires : acquisitionsOf calls = calls) :
    acquisitionsOf events = calls := by
  rw [← acquisitionsOf_stepsOf]
  cases ends with
  | stopped steps => rw [steps, acquires]
  | submitted _ submitted steps =>
    rw [steps, acquisitionsOf_append, acquires, acquisitionsOf_stepsOf, submitted.acquisitionsOf_eq,
      List.append_nil]

/-- What is submitted is shown, or fails as a submission does. -/
theorem Ends.outcome_of_acquired {calls : List (Event interface)} {acquired : Acquired}
    (ends : m.Ends image batch calls events p (.ok acquired)) {fault : Fault}
    (failed : p.outcome = .error fault) : fault.kind? = some .commit := by
  cases ends with
  | @submitted _ _ _ _ outcome submitted _ outcome_eq =>
    cases outcome with
    | ok submission => cases outcome_eq.symm.trans failed
    | error e =>
      cases outcome_eq.symm.trans failed
      exact congrArg some submitted.failed.2.1

theorem Presents.acquires (presents : m.Presents image src dst batch events p) :
    ∃ calls result,
      Acquires ((m.withDisplaySize p.manager.displaySize).place src dst) image calls result ∧
        m.Ends image batch calls events p result := by
  have steps_imports {imports : List (Event interface)} {outcome : Except PresentError HandleSet}
      (importing : (HandleSet.ofPlanes image.descriptor image.descriptor.scanoutPlanes).Runs
        imports outcome) : stepsOf imports = acquisitionsOf imports :=
    (HandleSet.extend_runs importing).stepsOf_eq
  cases presents with
  | refused asks refuses =>
    exact ⟨_, _, .refused refuses.checked, .stopped asks.stepsOf_eq rfl rfl⟩
  | importFailed prepares importing =>
    refine ⟨_, _, .unimported (prepares.checked ?_) importing, .stopped ?_ rfl rfl⟩
    · dsimp only
      split <;> rfl
    · rw [stepsOf_append, prepares.stepsOf_eq, steps_imports importing, List.nil_append]
  | framebufferFailed prepares importing aborted =>
    refine ⟨_, _, .answered (prepares.checked rfl) importing (.error _), .stopped ?_ rfl rfl⟩
    simp [prepares.stepsOf_eq, steps_imports importing, stepsOf_of_releases aborted]
  | @submitFailed _ _ _ _ _ _ geometry handles f _ _ prepares importing submitted aborted =>
    refine ⟨_, _, .answered (prepares.checked submitted.displaySize_eq) importing (.ok f),
      .submitted ⟨geometry, handles, f⟩ submitted ?_ rfl rfl⟩
    simp [prepares.stepsOf_eq, steps_imports importing, stepsOf_of_releases aborted]
  | @shown _ _ _ _ _ geometry handles f _ _ prepares importing submitted =>
    refine ⟨_, _, .answered (prepares.checked submitted.displaySize_eq) importing (.ok f),
      .submitted ⟨geometry, handles, f⟩ submitted ?_ rfl rfl⟩
    simp [prepares.stepsOf_eq, steps_imports importing]

end Manager

end Scanout.Overlay
