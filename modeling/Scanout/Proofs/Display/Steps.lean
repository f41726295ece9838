import Scanout.Proofs.Display.Ledger
import Scanout.Proofs.Proc.Answers

/-!
# The steps of a frame

A frame gets hold of its memory, then of a framebuffer, and is submitted. The calls that do this are
its steps, and the first of them that fails ends it. All other calls that are made on the way are
done as well as they can be: nothing comes of their failure but a notice.
-/

namespace Scanout

open Display

namespace Display.Request

def acquires : Request → Bool
  | .importPrimeFd _ | .addFramebuffer _ => true
  | _ => false

/-- Submits a frame. A commit is its caller's. -/
def submits : Request → Bool
  | .createBlob _ | .setPlane _ => true
  | _ => false

def isStep (request : Request) : Bool := request.acquires || request.submits

def asksMode : Request → Bool
  | .crtcModeSize _ => true
  | _ => false

end Display.Request

@[simp] theorem isStep_releaseCall (r : Resource) : r.releaseCall.isStep = false := by
  cases r <;> rfl

theorem acquires_of_not_isStep {request : Request} (other : request.isStep = false) :
    request.acquires = false :=
  (Bool.or_eq_false_iff.mp other).1

abbrev acquisitionsOf (events : List (Event interface)) : List (Event interface) :=
  callsOf Request.acquires events

abbrev stepsOf (events : List (Event interface)) : List (Event interface) :=
  callsOf Request.isStep events

abbrev modeQueriesOf (events : List (Event interface)) : List (Event interface) :=
  callsOf Request.asksMode events

variable {events : List (Event interface)}

@[simp] theorem acquisitionsOf_append (before after : List (Event interface)) :
    acquisitionsOf (before ++ after) = acquisitionsOf before ++ acquisitionsOf after :=
  callsOf_append ..

@[simp] theorem stepsOf_append (before after : List (Event interface)) :
    stepsOf (before ++ after) = stepsOf before ++ stepsOf after :=
  callsOf_append ..

@[simp] theorem modeQueriesOf_append (before after : List (Event interface)) :
    modeQueriesOf (before ++ after) = modeQueriesOf before ++ modeQueriesOf after :=
  callsOf_append ..

@[simp] theorem modeQueriesOf_addFramebuffer (layout : FramebufferLayout)
    (answer : Except DeviceError FramebufferId) (events : List (Event interface)) :
    modeQueriesOf (.answered (.addFramebuffer layout) answer :: events) = modeQueriesOf events := rfl

@[simp] theorem acquisitionsOf_importPrimeFd (fd : Fd) (answer : Except DeviceError GemHandle)
    (events : List (Event interface)) :
    acquisitionsOf (.answered (.importPrimeFd fd) answer :: events)
      = .answered (.importPrimeFd fd) answer :: acquisitionsOf events := rfl

@[simp] theorem stepsOf_addFramebuffer (layout : FramebufferLayout)
    (answer : Except DeviceError FramebufferId) (events : List (Event interface)) :
    stepsOf (.answered (.addFramebuffer layout) answer :: events)
      = .answered (.addFramebuffer layout) answer :: stepsOf events := rfl

theorem acquisitionsOf_stepsOf (events : List (Event interface)) :
    acquisitionsOf (stepsOf events) = acquisitionsOf events :=
  callsOf_callsOf (fun _ acquires => Bool.or_eq_true_iff.mpr (.inl acquires)) events

theorem acquisitionsOf_acquisitionsOf (events : List (Event interface)) :
    acquisitionsOf (acquisitionsOf events) = acquisitionsOf events :=
  callsOf_callsOf (fun _ => id) events

theorem callsOf_of_releases {kind : Request → Bool} (other : ∀ r : Resource, kind r.releaseCall = false)
    {rs : List Resource} (releases : requestsOf events = rs.map Resource.releaseCall) :
    callsOf kind events = [] := by
  refine callsOf_eq_nil fun request member => ?_
  rw [releases] at member
  obtain ⟨r, -, rfl⟩ := List.mem_map.mp member
  exact other r

theorem stepsOf_of_releases {rs : List Resource}
    (releases : requestsOf events = rs.map Resource.releaseCall) : stepsOf events = [] :=
  callsOf_of_releases isStep_releaseCall releases

theorem acquisitionsOf_of_releases {rs : List Resource}
    (releases : requestsOf events = rs.map Resource.releaseCall) : acquisitionsOf events = [] :=
  callsOf_of_releases (fun r => acquires_of_not_isStep (isStep_releaseCall r)) releases

theorem modeQueriesOf_of_releases {rs : List Resource}
    (releases : requestsOf events = rs.map Resource.releaseCall) : modeQueriesOf events = [] :=
  callsOf_of_releases (fun r => by cases r <;> rfl) releases

def failed? : Event interface → Option Request
  | .answered request (.error _) => some request
  | _ => none

def failedStep? (events : List (Event interface)) : Option Request :=
  (stepsOf events).findSome? failed?

end Scanout
