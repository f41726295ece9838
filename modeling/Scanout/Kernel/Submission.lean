import Scanout.Kernel.Properties

/-!
# From a batch to an atomic request

A request holds one entry for every object and property, ordered by object and then by property. A
later write to the same pair takes the place of the earlier. Writes to a property that the object
does not have are left out, which is reported once for every property.
-/

namespace Scanout.Kernel

namespace AtomicSet

def precedes (s other : AtomicSet) : Bool :=
  s.object < other.object || (s.object = other.object && s.property < other.property)

def insert (s : AtomicSet) : List AtomicSet → List AtomicSet
  | [] => [s]
  | first :: rest =>
    if s.precedes first then s :: first :: rest
    else if first.precedes s then first :: insert s rest
    else s :: rest

end AtomicSet

/-- What an open device remembers. -/
structure Device where
  cache : PropertyCache
  /-- Properties that were reported missing. -/
  reported : List PropertyKey

namespace Device

def reportMissing (d : Device) (key : PropertyKey) : Program Device := do
  if key ∈ d.reported then return d
  else
    Proc.notice (.propertyMissing key.object key.name)
    return { d with reported := key :: d.reported }

def idKind : ModeObject → IdKind
  | .plane _ => .plane
  | .crtc _ => .crtc
  | .connector _ => .connector

/-- Adds the writes to the entries in `sets`. Stops at the first write that names no object or
whose property cannot be looked up. -/
def collect : List PropertyWrite → List AtomicSet → Device →
    Program (Except DeviceError (List AtomicSet) × Device)
  | [], sets, d => return (.ok sets, d)
  | write :: rest, sets, d =>
    if write.object.id = 0 then return (.error (.invalidId (idKind write.object) 0), d)
    else do
      let (found, cache) ← d.cache.resolve ⟨write.object, write.name⟩
      let d := { d with cache }
      match found with
      | .error e => return (.error (.os e), d)
      | .ok none => collect rest sets (← d.reportMissing ⟨write.object, write.name⟩)
      | .ok (some property) =>
        collect rest (AtomicSet.insert ⟨write.object.id, property, write.value⟩ sets) d

/-- Submits a batch in one atomic request, also if nothing of it is left. -/
def commit (d : Device) (batch : Batch) (nonblock : Bool) :
    Program (Except DeviceError Unit × Device) := do
  let (collected, d) ← collect batch.writes [] d
  match collected with
  | .error e => return (.error e, d)
  | .ok sets =>
    let outcome ← Program.ask (.atomic nonblock sets)
    return (outcome.mapError .os, d)

end Device

end Scanout.Kernel
