import Scanout.Kernel.Properties
import Scanout.Proofs.Proc.Runs

/-!
# What the kernel says about properties

A kernel describes every object by its list of properties, and every property by its name. As long
as the descriptions stay the same they make a catalogue, and what a lookup finds can be read in it.
Lookups may still fail at any time, and the values of properties may change.

`lookupProperty_finds` says what a lookup does: it asks for no more than it needs, it fails exactly
if a request of it fails, and otherwise it has asked for all that it needs and finds what the
catalogue has.
-/

namespace Scanout.Kernel

open Proc

/-- The properties of every object in the kernel's order, none for what does not exist, and the name
of every property. -/
structure Catalogue where
  properties : ModeObject → List UInt32
  name : UInt32 → String

def failsLookup : Event interface → Bool
  | .answered (.objectProperties _) (.error _) => true
  | .answered (.property _) (.error _) => true
  | _ => false

def LookupFailed (events : List (Event interface)) : Prop := ∃ event ∈ events, failsLookup event

@[simp] theorem lookupFailed_append {before after : List (Event interface)} :
    LookupFailed (before ++ after) ↔ LookupFailed before ∨ LookupFailed after := by
  simp only [LookupFailed, List.mem_append, or_and_right, exists_or]

@[simp] theorem lookupFailed_cons {event : Event interface} {events : List (Event interface)} :
    LookupFailed (event :: events) ↔ failsLookup event ∨ LookupFailed events := by
  simp only [LookupFailed, List.mem_cons, exists_eq_or_imp]

@[simp] theorem not_lookupFailed_nil : ¬ LookupFailed [] := by
  simp [LookupFailed]

namespace Catalogue

variable (c : Catalogue)

def confirms : Event interface → Bool
  | .answered (.objectProperties object) (.ok (entries : List PropertyValue)) =>
    entries.map PropertyValue.property = c.properties object
  | .answered (.property id) (.ok (found : String)) => found = c.name id
  | _ => true

/-- The descriptions in these events are those of the catalogue. -/
def Describes (events : List (Event interface)) : Prop := ∀ event ∈ events, c.confirms event

instance (events : List (Event interface)) : Decidable (c.Describes events) :=
  inferInstanceAs (Decidable (∀ event ∈ events, c.confirms event))

@[simp] theorem describes_append {before after : List (Event interface)} :
    c.Describes (before ++ after) ↔ c.Describes before ∧ c.Describes after := by
  simp only [Describes, List.forall_mem_append]

def property? (object : ModeObject) (name : String) : Option UInt32 :=
  (c.properties object).find? fun id => c.name id = name

/-- The properties whose names are read in search of one. -/
def searched (name : String) : List UInt32 → List UInt32
  | [] => []
  | id :: rest => if c.name id = name then [id] else id :: searched name rest

/-- What it takes to find a property: the object's list, and the names in it up to the first that
is the right one. -/
def lookups (object : ModeObject) (name : String) : List Request :=
  .objectProperties object :: (c.searched name (c.properties object)).map .property

end Catalogue

variable {c : Catalogue} {name : String} {events : List (Event interface)}
  {outcome : Except Errno (Option PropertyValue)}

/-- What comes of looking for a property that is `expected`, where it takes the requests in `needed`
to find it. -/
structure Finds (needed : List Request) (expected : Option UInt32) (events : List (Event interface))
    (outcome : Except Errno (Option PropertyValue)) : Prop where
  requests : requestsOf events <+: needed
  failed_iff : (∃ e, outcome = .error e) ↔ LookupFailed events
  found : ∀ entry, outcome = .ok entry →
    requestsOf events = needed ∧ entry.map PropertyValue.property = expected

theorem searchProperty_finds {entries : List PropertyValue}
    (run : (searchProperty name entries).Runs events outcome) (describes : c.Describes events) :
    Finds ((c.searched name (entries.map PropertyValue.property)).map .property)
      ((entries.map PropertyValue.property).find? fun id => c.name id = name) events outcome := by
  induction entries generalizing events with
  | nil =>
    obtain ⟨rfl, rfl⟩ := runs_pure.mp run
    exact ⟨List.nil_prefix, by simp, by simp [Catalogue.searched]⟩
  | cons entry rest ih =>
    obtain ⟨call, answer, later, rfl, asked, followed⟩ := runs_bind.mp run
    obtain rfl := runs_ask.mp asked
    obtain ⟨confirmed, describesLater⟩ := c.describes_append.mp describes
    cases answer with
    | error e =>
      obtain ⟨rfl, rfl⟩ := runs_pure.mp followed
      refine ⟨?_, by simp [failsLookup], by simp⟩
      rw [List.map_cons, Catalogue.searched]
      split <;> simp
    | ok found =>
      have named : found = c.name entry.property := by
        simpa [Catalogue.Describes, Catalogue.confirms] using confirmed
      subst named
      dsimp only at followed
      split at followed
      · rename_i same
        obtain ⟨rfl, rfl⟩ := runs_pure.mp followed
        exact ⟨by simp [Catalogue.searched, same], by simp [failsLookup],
          by simp [Catalogue.searched, same]⟩
      · rename_i other
        obtain ⟨requests, failed_iff, found⟩ := ih followed describesLater
        refine ⟨?_, ?_, fun entry answered => ?_⟩
        · simpa [Catalogue.searched, other] using requests
        · simpa [failsLookup] using failed_iff
        · simpa [Catalogue.searched, other] using found entry answered

theorem lookupProperty_finds {object : ModeObject}
    (run : (lookupProperty object name).Runs events outcome) (describes : c.Describes events) :
    Finds (c.lookups object name) (c.property? object name) events outcome := by
  obtain ⟨call, answer, later, rfl, asked, followed⟩ := runs_bind.mp run
  obtain rfl := runs_ask.mp asked
  obtain ⟨confirmed, describesLater⟩ := c.describes_append.mp describes
  cases answer with
  | error e =>
    obtain ⟨rfl, rfl⟩ := runs_pure.mp followed
    exact ⟨by simp [Catalogue.lookups], by simp [failsLookup], by simp⟩
  | ok entries =>
    have listed : entries.map PropertyValue.property = c.properties object := by
      simpa [Catalogue.Describes, Catalogue.confirms] using confirmed
    obtain ⟨requests, failed_iff, found⟩ := searchProperty_finds followed describesLater
    rw [listed] at requests found
    refine ⟨?_, ?_, fun entry answered => ?_⟩
    · simpa [Catalogue.lookups] using requests
    · simpa [failsLookup] using failed_iff
    · simpa [Catalogue.lookups, Catalogue.property?] using found entry answered

end Scanout.Kernel
