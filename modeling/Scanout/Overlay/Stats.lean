import Scanout.Log.Notice

/-!
# Presentation statistics
-/

namespace Scanout.Overlay

structure Stats where
  framesPresented : Nat
  importFailures : Nat
  commitFailures : Nat
  drains : Nat
  /-- Handles held after the last update. -/
  liveHandles : Nat
  deriving DecidableEq, Repr

namespace Stats

def zero : Stats := ⟨0, 0, 0, 0, 0⟩

def failures (s : Stats) : Nat := s.importFailures + s.commitFailures

def attempts (s : Stats) : Nat := s.framesPresented + s.failures

/-- Failed frames as a percentage of all attempts. -/
def failureRate (s : Stats) : Float :=
  if s.attempts = 0 then 0.0
  else Float.ofNat s.failures / Float.ofNat s.attempts * 100.0

/-- The failure rate with one decimal, to the nearest tenth. -/
def failureRateText (s : Stats) : String :=
  let tenths := (s.failureRate * 10.0).round.toUInt64.toNat
  s!"{tenths / 10}.{tenths % 10}"

def notice (s : Stats) : Notice :=
  .overlayStats s.framesPresented s.importFailures s.commitFailures s.failureRateText
    s.liveHandles

/-- What is reported when `elapsed` has passed since the last report; times are in one unit. -/
def dueNotice? (s : Stats) (elapsed interval : Nat) : Option Notice :=
  if elapsed < interval then none else some s.notice

end Stats

end Scanout.Overlay
