import Scanout.Proofs.Overlay.Acquisition

/-!
# Why a frame fails

A frame fails for itself, before the device is asked for anything on its behalf, or by the first of
its steps that fails. `Presents.decided` says so, and `Decided.classified` reads off what each kind
of error tells its caller. Everything else that a presentation asks for has no say in the outcome:
`Presents.outcome_agree` compares runs in which the steps are answered alike, and only they.
-/

namespace Scanout

open Display Proc

def CommitStrategy.SubmitsBy : CommitStrategy → Request → Prop
  | .atomic, .createBlob _ | .legacy, .setPlane _ => True
  | _, _ => False

theorem CommitStrategy.SubmitsBy.acquires {strategy : CommitStrategy} {request : Request}
    (submits : strategy.SubmitsBy request) : request.acquires = false := by
  cases request with
  | importPrimeFd | addFramebuffer => cases strategy <;> exact submits.elim
  | _ => rfl

theorem failedStep?_eq_of_steps {events steps : List (Event interface)}
    (steps_eq : stepsOf events = steps) : failedStep? events = steps.findSome? failed? := by
  rw [failedStep?, steps_eq]

namespace Overlay

def returned? : Except Fault Unit → Option ErrorKind
  | .ok () => none
  | .error fault => fault.kind?

theorem check_ok {placed : Except Fault PlaneGeometry} {image : Image} {geometry : PlaneGeometry}
    {format : Fourcc} (checked : check placed image = .ok (geometry, format)) :
    placed = .ok geometry ∧ image.descriptor.scanoutFormat = .ok format := by
  unfold check at checked
  cases placed with
  | error fault => cases checked
  | ok g =>
    cases formatted : image.descriptor.scanoutFormat with
    | error e =>
      rw [formatted] at checked
      cases checked
    | ok f =>
      rw [formatted] at checked
      cases checked
      exact ⟨rfl, rfl⟩

theorem check_error {placed : Except Fault PlaneGeometry} {image : Image} {fault : Fault}
    (checked : check placed image = .error fault) :
    placed = .error fault ∨ ∃ geometry e, placed = .ok geometry ∧
      image.descriptor.scanoutFormat = .error e ∧ fault = .refused e := by
  unfold check at checked
  cases placed with
  | error other =>
    cases checked
    exact .inl rfl
  | ok g =>
    cases formatted : image.descriptor.scanoutFormat with
    | error e =>
      rw [formatted] at checked
      cases checked
      exact .inr ⟨g, e, rfl, rfl, rfl⟩
    | ok f =>
      rw [formatted] at checked
      cases checked

/-- What has decided the outcome of a presentation. -/
inductive Decided (strategy : CommitStrategy) (placed : Except Fault PlaneGeometry) (image : Image)
    (events : List (Event interface)) : Except Fault Unit → Prop where
  | misplaced {fault : Fault} (placed_eq : placed = .error fault) (checked : fault.FromPlacement)
      (steps : failedStep? events = none) : Decided strategy placed image events (.error fault)
  | unformatted {geometry : PlaneGeometry} {e : PresentError} (placed_eq : placed = .ok geometry)
      (formatted : image.descriptor.scanoutFormat = .error e) (steps : failedStep? events = none) :
      Decided strategy placed image events (.error (.refused e))
  | unacquired {geometry : PlaneGeometry} {format : Fourcc} {e : PresentError} {request : Request}
      (placed_eq : placed = .ok geometry) (formatted : image.descriptor.scanoutFormat = .ok format)
      (step : failedStep? events = some request) (acquires : request.acquires = true)
      (kind : e.kind = .importing) : Decided strategy placed image events (.error (.refused e))
  | unsubmitted {geometry : PlaneGeometry} {format : Fourcc} {e : PresentError} {request : Request}
      (placed_eq : placed = .ok geometry) (formatted : image.descriptor.scanoutFormat = .ok format)
      (step : failedStep? events = some request) (submits : strategy.SubmitsBy request)
      (kind : e.kind = .commit) : Decided strategy placed image events (.error (.refused e))
  | shown {geometry : PlaneGeometry} {format : Fourcc} (placed_eq : placed = .ok geometry)
      (formatted : image.descriptor.scanoutFormat = .ok format) (steps : failedStep? events = none) :
      Decided strategy placed image events (.ok ())

/-- What each outcome of a presentation tells. -/
structure Classified (strategy : CommitStrategy) (placed : Except Fault PlaneGeometry)
    (image : Image) (events : List (Event interface)) (outcome : Except Fault Unit) : Prop where
  importing_iff : returned? outcome = some .importing
    ↔ ∃ request, failedStep? events = some request ∧ request.acquires = true
  commit_iff : returned? outcome = some .commit
    ↔ ∃ request, failedStep? events = some request ∧ strategy.SubmitsBy request
  /-- The rectangles are rejected. -/
  invalidFrame_iff : returned? outcome = some .invalidFrame ↔ ∃ e, placed = .error (.refused e)
  unsupported_iff : returned? outcome = some .unsupported
    ↔ (∃ geometry, placed = .ok geometry) ∧ ∃ e, image.descriptor.scanoutFormat = .error e
  ok_iff : outcome = .ok () ↔ failedStep? events = none ∧ (∃ geometry, placed = .ok geometry) ∧
    ∃ format, image.descriptor.scanoutFormat = .ok format
  /-- No other error is returned; arithmetic that fails on the rectangles returns nothing. -/
  kinds : ∀ fault, outcome = .error fault → (∃ cause, placed = .error (.arithmetic cause)) ∨
    fault.kind? ∈ [some .importing, some .commit, some .invalidFrame, some .unsupported]

theorem Decided.classified {strategy : CommitStrategy} {placed : Except Fault PlaneGeometry}
    {image : Image} {events : List (Event interface)} {outcome : Except Fault Unit}
    (decided : Decided strategy placed image events outcome) :
    Classified strategy placed image events outcome := by
  cases decided with
  | misplaced placed_eq checked steps =>
    cases checked with
    | arithmetic cause =>
      constructor <;> simp [returned?, Fault.kind?, placed_eq, steps]
    | invalidFrame kind =>
      constructor <;> simp [returned?, Fault.kind?, kind, placed_eq, steps]
  | unformatted placed_eq formatted steps =>
    have kind := FrameDescriptor.scanoutFormat_error formatted
    constructor <;> simp [returned?, Fault.kind?, kind, placed_eq, formatted, steps]
  | unacquired placed_eq formatted step acquires kind =>
    have other : ¬ strategy.SubmitsBy _ := fun submits =>
      Bool.false_ne_true (submits.acquires.symm.trans acquires)
    constructor <;> simp [returned?, Fault.kind?, kind, placed_eq, formatted, step, acquires, other]
  | unsubmitted placed_eq formatted step submits kind =>
    have other := submits.acquires
    constructor <;> simp [returned?, Fault.kind?, kind, placed_eq, formatted, step, submits, other]
  | shown placed_eq formatted steps =>
    constructor <;> simp [returned?, placed_eq, formatted, steps]

theorem failed?_imports {image : Image} {imports : List (Event interface)}
    {outcome : Except PresentError HandleSet}
    (importing : (HandleSet.ofPlanes image.descriptor image.descriptor.scanoutPlanes).Runs
      imports outcome) :
    (∀ handles, outcome = .ok handles → (acquisitionsOf imports).findSome? failed? = none) ∧
      ∀ e, outcome = .error e → e.kind = .importing ∧
        ∃ fd, (acquisitionsOf imports).findSome? failed? = some (.importPrimeFd fd) := by
  rw [← failedStep?_eq_of_steps (HandleSet.extend_runs importing).stepsOf_eq]
  exact (HandleSet.extends_of_runs importing).failedStep
    fun _ member => image.descriptor.scanoutPlanes_fit member

section Acquiring

variable {placed : Except Fault PlaneGeometry} {image : Image} {calls : List (Event interface)}

theorem Acquires.unfailed {acquired : Acquired} (acquires : Acquires placed image calls (.ok acquired)) :
    calls.findSome? failed? = none ∧ ∃ geometry format, placed = .ok geometry ∧
      image.descriptor.scanoutFormat = .ok format := by
  generalize came : Except.ok acquired = result at acquires
  cases acquires with
  | refused | unimported => cases came
  | answered checked importing answer =>
    cases answer with
    | error cause => cases came
    | ok f =>
      obtain ⟨placed_eq, formatted⟩ := check_ok checked
      rw [List.findSome?_append, (failed?_imports importing).1 _ rfl]
      exact ⟨rfl, _, _, placed_eq, formatted⟩

theorem Acquires.decided {strategy : CommitStrategy} {events : List (Event interface)} {fault : Fault}
    (acquires : Acquires placed image calls (.error fault)) (steps : stepsOf events = calls)
    (placement : ∀ fault, placed = .error fault → fault.FromPlacement) :
    Decided strategy placed image events (.error fault) := by
  have step := failedStep?_eq_of_steps steps
  generalize came : Except.error fault = result at acquires
  cases acquires with
  | refused checked =>
    cases came
    rcases check_error checked with placed_eq | ⟨geometry, e, placed_eq, formatted, rfl⟩
    · exact .misplaced placed_eq (placement _ placed_eq) step
    · exact .unformatted placed_eq formatted step
  | unimported checked importing =>
    cases came
    obtain ⟨placed_eq, formatted⟩ := check_ok checked
    obtain ⟨kind, fd, failed⟩ := (failed?_imports importing).2 _ rfl
    exact .unacquired placed_eq formatted (step.trans failed) rfl kind
  | answered checked importing answer =>
    cases answer with
    | ok f => cases came
    | error cause =>
      cases came
      obtain ⟨placed_eq, formatted⟩ := check_ok checked
      rw [List.findSome?_append, (failed?_imports importing).1 _ rfl] at step
      exact .unacquired placed_eq formatted step rfl rfl

end Acquiring

namespace Manager

variable {m left : Manager} {image : Image} {src dst : Rect} {batch : Batch}
  {events : List (Event interface)} {p : Presentation}

/-- The call that a submission rests on, and what a failure of it is told as. -/
def submission? (m : Manager) (color : Color) (g : Generation) (geometry : PlaneGeometry) :
    Option (Request × (DeviceError → PresentError)) :=
  match m.config.strategy, m.hdr with
  | .atomic, some _ => none
  | .atomic, none => some (.createBlob (HdrMetadata.ofColor color).toBytes, .blobFailed)
  | .legacy, _ => some (.setPlane (showUpdate m.config.targets g.framebuffer geometry),
      .planeUpdateFailed m.config.targets.videoPlane g.framebufferNumber)

section Submitting

variable {color : Color} {g : Generation} {geometry : PlaneGeometry}
  {outcome : Except PresentError Batch}

theorem Submits.steps (submitted : Submits m color g geometry batch events left outcome) :
    match m.submission? color g geometry with
    | none => stepsOf events = [] ∧ outcome.map (fun _ => ()) = .ok ()
    | some (call, blame) => ∃ answer : interface.Answer call,
        stepsOf events = [.answered call answer] ∧
          outcome.map (fun _ => ()) = (answer.map fun _ => ()).mapError blame := by
  unfold submission?
  cases submitted with
  | staged atomic running =>
    rw [atomic, running]
    exact ⟨rfl, rfl⟩
  | @opened blob atomic fresh =>
    rw [atomic, fresh]
    exact ⟨.ok blob, rfl, rfl⟩
  | @blobFailed cause atomic fresh =>
    rw [atomic, fresh]
    exact ⟨.error cause, rfl, rfl⟩
  | updated legacy =>
    rw [legacy]
    exact ⟨.ok (), by rw [stepsOf_append, stepsOf_skipReport]; rfl, rfl⟩
  | @updateFailed cause legacy =>
    rw [legacy]
    exact ⟨.error cause, by rw [stepsOf_append, stepsOf_skipReport]; rfl, rfl⟩

theorem Submits.unfailed {submission : Batch}
    (submitted : Submits m color g geometry batch events left (.ok submission)) :
    (stepsOf events).findSome? failed? = none := by
  cases submitted with
  | staged | opened => rfl
  | updated => rw [stepsOf_append, stepsOf_skipReport]; rfl

theorem Submits.failedStep {e : PresentError}
    (submitted : Submits m color g geometry batch events left (.error e)) :
    ∃ request, (stepsOf events).findSome? failed? = some request ∧
      m.config.strategy.SubmitsBy request := by
  cases submitted with
  | blobFailed atomic => exact ⟨_, rfl, by rw [atomic]; trivial⟩
  | updateFailed legacy =>
    rw [stepsOf_append, stepsOf_skipReport]
    exact ⟨_, rfl, by rw [legacy]; trivial⟩

/-- Submissions of the same frame, of which each rests on the same call. -/
theorem Submits.agree {other after : Manager} {own : Batch} {others : List (Event interface)}
    {result : Except PresentError Batch}
    (first : Submits m color g geometry batch events left outcome)
    (second : Submits other color g geometry own others after result)
    (config_eq : other.config = m.config) (hdr_eq : other.hdr = m.hdr)
    (same : SameAnswers (stepsOf events) (stepsOf others)) :
    outcome.map (fun _ => ()) = result.map (fun _ => ()) := by
  have submission_eq : other.submission? color g geometry = m.submission? color g geometry := by
    rw [submission?, submission?, config_eq, hdr_eq]
  have one := first.steps
  have two := second.steps
  rw [submission_eq] at two
  cases rests : m.submission? color g geometry with
  | none =>
    rw [rests] at one two
    rw [one.2, two.2]
  | some pair =>
    rw [rests] at one two
    obtain ⟨answer, steps, ends⟩ := one
    obtain ⟨answerToo, stepsToo, endsToo⟩ := two
    rw [steps, stepsToo] at same
    obtain ⟨rfl, -⟩ := same.answered
    rw [ends, endsToo]

end Submitting

theorem Presents.decided (presents : m.Presents image src dst batch events p) :
    Decided m.config.strategy ((m.withDisplaySize p.manager.displaySize).place src dst) image events
      p.outcome := by
  obtain ⟨calls, result, acquires, ends⟩ := presents.acquires
  cases ends with
  | stopped steps outcome =>
    rw [outcome]
    exact acquires.decided steps fun fault placed_eq => Checks.ofRects _ _ _ fault placed_eq
  | @submitted _ _ _ _ outcome submitted steps outcome_eq =>
    obtain ⟨unfailed, geometry, format, placed_eq, formatted⟩ := acquires.unfailed
    have step := failedStep?_eq_of_steps steps
    rw [List.findSome?_append, unfailed] at step
    rw [outcome_eq]
    cases outcome with
    | ok submission =>
      rw [submitted.unfailed] at step
      exact .shown placed_eq formatted step
    | error e =>
      obtain ⟨request, failed, submits⟩ := submitted.failedStep
      rw [failed] at step
      exact .unsubmitted placed_eq formatted step submits submitted.failed.2.1

theorem Presents.place_of_unread (presents : m.Presents image src dst batch events p) {crtc : UInt32}
    {cause : DeviceError} (unread : .answered (.crtcModeSize crtc) (.error cause) ∈ events) :
    (m.withDisplaySize p.manager.displaySize).place src dst
      = PlaneGeometry.ofRects src dst m.config.alignment := by
  obtain ⟨query, rest, rfl, asks, silent⟩ := presents.asks
  have asked : .answered (.crtcModeSize crtc) (.error cause) ∈ query := by
    rcases List.mem_append.mp unread with early | late
    · exact early
    · exact absurd (List.mem_filter.mpr ⟨late, rfl⟩) (silent ▸ List.not_mem_nil)
  generalize p.manager.displaySize = size at asks
  cases asks with
  | kept => cases asked
  | asked first calls =>
    rcases List.mem_cons.mp asked with answered | reported
    · cases answered
      exact m.place_of_unknown src dst
    · have called := mem_requestsOf reported
      rw [calls] at called
      cases called

theorem Ends.steps {calls : List (Event interface)} {result : Except Fault Acquired}
    (ends : m.Ends image batch calls events p result) : ∃ later, stepsOf events = calls ++ later := by
  cases ends with
  | stopped steps => exact ⟨[], by rw [steps, List.append_nil]⟩
  | submitted _ _ steps => exact ⟨_, steps⟩

/-- The outcome rests on the place of a frame and on its steps: no other call that fails, be it to
make room or to give back what was acquired, makes a difference. -/
theorem Presents.outcome_agree {own : Batch} {others : List (Event interface)} {q : Presentation}
    (first : m.Presents image src dst batch events p)
    (second : m.Presents image src dst own others q)
    (alike : (m.withDisplaySize q.manager.displaySize).place src dst
      = (m.withDisplaySize p.manager.displaySize).place src dst)
    (same : SameAnswers (stepsOf events) (stepsOf others)) : q.outcome = p.outcome := by
  obtain ⟨calls, result, acquires, ends⟩ := first.acquires
  obtain ⟨callsToo, resultToo, acquiresToo, endsToo⟩ := second.acquires
  rw [alike] at acquiresToo
  obtain ⟨later, steps⟩ := ends.steps
  obtain ⟨rest, stepsToo⟩ := endsToo.steps
  rw [steps, stepsToo] at same
  obtain ⟨rfl, rfl, same⟩ := acquires.agree acquiresToo same
  cases ends with
  | stopped _ failed =>
    cases endsToo with
    | stopped _ failedToo => rw [failed, failedToo]
  | submitted _ submitted submits outcome_eq =>
    cases endsToo with
    | submitted _ submittedToo submitsToo outcomeToo_eq =>
      obtain rfl := List.append_cancel_left (steps.symm.trans submits)
      obtain rfl := List.append_cancel_left (stepsToo.symm.trans submitsToo)
      rw [outcome_eq, outcomeToo_eq, submitted.agree submittedToo rfl rfl same]

end Manager

end Overlay

end Scanout
