import Scanout.Kernel.Interface

/-!
# Properties by name

The kernel numbers properties, and everything else names them. An object's properties are looked at
in order, up to the first that has the name. What a search found is kept, also when it found
nothing; a search that failed is not.
-/

namespace Scanout.Kernel

def searchProperty (name : String) :
    List PropertyValue → Program (Except Errno (Option PropertyValue))
  | [] => return .ok none
  | entry :: rest => do
    match ← Program.ask (.property entry.property) with
    | .error e => return .error e
    | .ok (found : String) =>
      if found = name then return .ok (some entry) else searchProperty name rest

def lookupProperty (object : ModeObject) (name : String) :
    Program (Except Errno (Option PropertyValue)) := do
  match ← Program.ask (.objectProperties object) with
  | .error e => return .error e
  | .ok (entries : List PropertyValue) => searchProperty name entries

structure PropertyKey where
  object : ModeObject
  name : String
  deriving DecidableEq, Repr

/-- Property numbers found so far, with none for a property that the object does not have. -/
abbrev PropertyCache : Type := List (PropertyKey × Option UInt32)

namespace PropertyCache

def get? (c : PropertyCache) (key : PropertyKey) : Option (Option UInt32) := c.lookup key

/-- The number of a property: the one that is kept, or else the one that a search finds. -/
def resolve (c : PropertyCache) (key : PropertyKey) :
    Program (Except Errno (Option UInt32) × PropertyCache) := do
  match c.get? key with
  | some kept => return (.ok kept, c)
  | none =>
    match ← lookupProperty key.object key.name with
    | .error e => return (.error e, c)
    | .ok entry =>
      let found := entry.map PropertyValue.property
      return (.ok found, (key, found) :: c)

end PropertyCache

end Scanout.Kernel
