/-!
# Planned failures

A simulated device fails when its plan says so. Of the entries for a call that still have failures
left, the first decides: while it has calls to skip it lets one pass, and after that it fails one.
-/

namespace Scanout.Simulation

structure PlannedFailure (ε : Type) where
  call : String
  /-- Calls that still pass. -/
  skip : Nat
  /-- Failures that are left. -/
  times : Nat
  error : ε
  deriving DecidableEq, Repr

abbrev FailurePlan (ε : Type) : Type := List (PlannedFailure ε)

def FailurePlan.next {ε : Type} (call : String) : FailurePlan ε → Option ε × FailurePlan ε
  | [] => (none, [])
  | entry :: rest =>
    if entry.call = call ∧ 0 < entry.times then
      if 0 < entry.skip then (none, { entry with skip := entry.skip - 1 } :: rest)
      else (some entry.error, { entry with times := entry.times - 1 } :: rest)
    else
      let (failure, rest) := FailurePlan.next call rest
      (failure, entry :: rest)

end Scanout.Simulation
