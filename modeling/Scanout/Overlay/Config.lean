import Scanout.Error
import Scanout.Geometry.Alignment

/-!
# Strategies and settings of an overlay

A commit that does not block takes effect one refresh late, so three generations must stay alive;
a plane update has taken effect when it returns, so two are enough.
-/

namespace Scanout

inductive CommitStrategy where
  /-- Property writes for the caller's next atomic commit. -/
  | atomic
  /-- A plane update per frame. -/
  | legacy
  deriving DecidableEq, Repr

namespace CommitStrategy

def name : CommitStrategy → String
  | atomic => "Atomic"
  | legacy => "Legacy"

/-- Generations kept alive before the oldest is given up. -/
def ringDepth : CommitStrategy → Nat
  | atomic => 3
  | legacy => 2

theorem ringDepth_pos (s : CommitStrategy) : 0 < s.ringDepth := by cases s <;> decide

def ofName (text : String) : Except PresentError CommitStrategy :=
  if text = "atomic" then .ok atomic
  else if text = "legacy" then .ok legacy
  else .error (.unknownStrategy text)

end CommitStrategy

structure Overlay.Config where
  targets : Targets
  strategy : CommitStrategy
  alignment : Alignment
  zpos : UInt64
  /-- Size of the surface that destinations are given on. -/
  osdSize : Option Size
  deriving DecidableEq, Repr

end Scanout
