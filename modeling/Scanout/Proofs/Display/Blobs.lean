import Scanout.Proofs.Display.Ledger

/-!
# Calls about blobs

Which blobs a list of events has made, or failed to make, and which it has destroyed, in order.
-/

namespace Scanout

open Display

inductive BlobCall where
  | made (data : List UInt8) (blob : BlobId)
  | refused (data : List UInt8)
  | destroyed (blob : BlobId)
  deriving DecidableEq, Repr

def blobCall? : Event interface → Option BlobCall
  | .answered (.createBlob data) (.ok blob) => some (.made data blob)
  | .answered (.createBlob data) (.error _) => some (.refused data)
  | .answered (.destroyBlob blob) _ => some (.destroyed blob)
  | _ => none

def blobCallsOf (events : List (Event interface)) : List BlobCall := events.filterMap blobCall?

@[simp] theorem blobCallsOf_nil : blobCallsOf [] = [] := rfl

@[simp] theorem blobCallsOf_append (before after : List (Event interface)) :
    blobCallsOf (before ++ after) = blobCallsOf before ++ blobCallsOf after :=
  List.filterMap_append

@[simp] theorem blobCallsOf_reported (n : Notice) (events : List (Event interface)) :
    blobCallsOf (.reported n :: events) = blobCallsOf events := rfl

theorem blobCallsOf_answered (request : Request) (answer : interface.Answer request)
    (events : List (Event interface)) :
    blobCallsOf (.answered request answer :: events)
      = (blobCall? (.answered request answer)).toList ++ blobCallsOf events := by
  rw [blobCallsOf, List.filterMap_cons]
  cases blobCall? (.answered request answer) <;> rfl

def Display.Request.ConcernsBlob : Request → Prop
  | .createBlob _ | .destroyBlob _ => True
  | _ => False

theorem blobCall?_eq_none {request : Request} (other : ¬ request.ConcernsBlob)
    (answer : interface.Answer request) : blobCall? (.answered request answer) = none := by
  cases request with
  | createBlob | destroyBlob => exact absurd trivial other
  | _ => rfl

theorem blobCallsOf_eq_nil {events : List (Event interface)}
    (others : ∀ request ∈ requestsOf events, ¬ request.ConcernsBlob) : blobCallsOf events = [] := by
  induction events with
  | nil => rfl
  | cons event rest ih =>
    cases event with
    | reported n => exact ih others
    | answered request answer =>
      rw [requestsOf_answered, List.forall_mem_cons] at others
      rw [blobCallsOf_answered, blobCall?_eq_none others.1, ih others.2]
      rfl

theorem blobCallsOf_of_neutral {events : List (Event interface)}
    (neutral : ∀ request ∈ requestsOf events, request.Neutral) : blobCallsOf events = [] := by
  refine blobCallsOf_eq_nil fun request member concerns => ?_
  obtain ⟨keeps, nothing⟩ := neutral request member
  cases request with
  | createBlob data => cases nothing (.ok ⟨0⟩)
  | destroyBlob blob => cases keeps
  | _ => exact concerns

def Resource.blob? : Resource → Option BlobId
  | .blob id => some id
  | .handle _ | .framebuffer _ => none

theorem blobCallsOf_of_releases {events : List (Event interface)} {rs : List Resource}
    (releases : requestsOf events = rs.map Resource.releaseCall) :
    blobCallsOf events = (rs.filterMap Resource.blob?).map .destroyed := by
  induction events generalizing rs with
  | nil =>
    obtain rfl : rs = [] := List.map_eq_nil_iff.mp releases.symm
    rfl
  | cons event rest ih =>
    cases event with
    | reported n => exact ih releases
    | answered request answer =>
      cases rs with
      | nil => cases releases
      | cons r rs =>
        simp only [requestsOf_answered, List.map_cons, List.cons.injEq] at releases
        obtain ⟨rfl, others⟩ := releases
        rw [blobCallsOf_answered, ih others]
        cases r <;> rfl

end Scanout
