import Scanout.Kernel.Device
import Scanout.Proofs.Kernel.Entries
import Scanout.Proofs.Proc.History

/-!
# What a commit submits

A commit looks its properties up, through what is known from earlier commits, and then makes one
atomic request. `Resolves`, `Collects` and `Commits` say what each of these steps can do, whatever
the kernel answers.
-/

namespace Scanout.Kernel

open Proc

structure Submission where
  nonblock : Bool
  sets : List AtomicSet
  deriving DecidableEq, Repr

def submission? : Request → Option Submission
  | .atomic nonblock sets => some ⟨nonblock, sets⟩
  | _ => none

def submissionsOf (events : List (Event interface)) : List Submission :=
  (requestsOf events).filterMap submission?

@[simp] theorem submissionsOf_nil : submissionsOf [] = [] := rfl

@[simp] theorem submissionsOf_append (before after : List (Event interface)) :
    submissionsOf (before ++ after) = submissionsOf before ++ submissionsOf after := by
  simp only [submissionsOf, requestsOf_append, List.filterMap_append]

@[simp] theorem submissionsOf_atomic {nonblock : Bool} {sets : List AtomicSet}
    (answer : Except Errno Unit) (events : List (Event interface)) :
    submissionsOf (.answered (.atomic nonblock sets) answer :: events)
      = ⟨nonblock, sets⟩ :: submissionsOf events := rfl

theorem submissionsOf_eq_nil {events : List (Event interface)}
    (other : ∀ r ∈ requestsOf events, submission? r = none) : submissionsOf events = [] :=
  List.filterMap_eq_nil_iff.mpr other

theorem not_lookupFailed_of_silent {events : List (Event interface)}
    (silent : requestsOf events = []) : ¬ LookupFailed events := by
  rintro ⟨event, member, failed⟩
  cases event with
  | reported n => cases failed
  | answered r a =>
    have asked : r ∈ requestsOf events := List.mem_filterMap.mpr ⟨_, member, rfl⟩
    rw [silent] at asked
    cases asked

theorem Catalogue.submission?_lookups {c : Catalogue} {object : ModeObject} {name : String}
    {r : Request} (needed : r ∈ c.lookups object name) : submission? r = none := by
  rcases List.mem_cons.mp needed with rfl | later
  · rfl
  · obtain ⟨id, -, rfl⟩ := List.mem_map.mp later
    rfl

namespace PropertyCache

variable {c : Catalogue} {cache left : PropertyCache} {key : PropertyKey}
  {events : List (Event interface)} {outcome : Except Errno (Option UInt32)}

/-- What is kept is what the catalogue has. -/
def Reflects (cache : PropertyCache) (c : Catalogue) : Prop :=
  ∀ entry ∈ cache, entry.2 = c.property? entry.1.object entry.1.name

theorem mem_of_get? {found : Option UInt32} (hit : cache.get? key = some found) :
    (key, found) ∈ cache := by
  obtain ⟨before, after, rfl, -⟩ := List.lookup_eq_some_iff.mp hit
  exact List.mem_append_right _ List.mem_cons_self

inductive Resolves (cache : PropertyCache) (key : PropertyKey) :
    List (Event interface) → Except Errno (Option UInt32) → PropertyCache → Prop where
  | kept {found : Option UInt32} (hit : cache.get? key = some found) :
      Resolves cache key [] (.ok found) cache
  | looked {events : List (Event interface)} {entry : Option PropertyValue}
      (miss : cache.get? key = none)
      (run : (lookupProperty key.object key.name).Runs events (.ok entry)) :
      Resolves cache key events (.ok (entry.map PropertyValue.property))
        ((key, entry.map PropertyValue.property) :: cache)
  | failed {events : List (Event interface)} {e : Errno} (miss : cache.get? key = none)
      (run : (lookupProperty key.object key.name).Runs events (.error e)) :
      Resolves cache key events (.error e) cache

theorem resolve_runs (run : (cache.resolve key).Runs events (outcome, left)) :
    cache.Resolves key events outcome left := by
  unfold resolve at run
  split at run
  · rename_i found hit
    obtain ⟨rfl, rfl, rfl⟩ := runs_pure_pair.mp run
    exact .kept hit
  · rename_i miss
    obtain ⟨lookup, answer, later, rfl, looked, done⟩ := runs_bind.mp run
    cases answer with
    | error e =>
      obtain ⟨rfl, rfl, rfl⟩ := runs_pure_pair.mp done
      rw [List.append_nil]
      exact .failed miss looked
    | ok entry =>
      obtain ⟨rfl, rfl, rfl⟩ := runs_pure_pair.mp done
      rw [List.append_nil]
      exact .looked miss looked

end PropertyCache

namespace Device

inductive Collects : List PropertyWrite → List AtomicSet → Device → List (Event interface) →
    Except DeviceError (List AtomicSet) → Device → Prop where
  | done {sets : List AtomicSet} {d : Device} : Collects [] sets d [] (.ok sets) d
  | unnamed {write : PropertyWrite} {rest : List PropertyWrite} {sets : List AtomicSet} {d : Device}
      (zero : write.object.id = 0) :
      Collects (write :: rest) sets d [] (.error (.invalidId (idKind write.object) 0)) d
  | failed {write : PropertyWrite} {rest : List PropertyWrite} {sets : List AtomicSet} {d : Device}
      {lookup : List (Event interface)} {e : Errno} {cache : PropertyCache}
      (named : write.object.id ≠ 0)
      (resolves : d.cache.Resolves ⟨write.object, write.name⟩ lookup (.error e) cache) :
      Collects (write :: rest) sets d lookup (.error (.os e)) { d with cache }
  | next {write : PropertyWrite} {rest : List PropertyWrite} {sets : List AtomicSet}
      {d left : Device} {lookup reports events : List (Event interface)} {found : Option UInt32}
      {cache : PropertyCache} {reported : List PropertyKey}
      {outcome : Except DeviceError (List AtomicSet)} (named : write.object.id ≠ 0)
      (resolves : d.cache.Resolves ⟨write.object, write.name⟩ lookup (.ok found) cache)
      (silent : requestsOf reports = [])
      (later : Collects rest (AtomicSet.enter write found sets) ⟨cache, reported⟩ events outcome
        left) :
      Collects (write :: rest) sets d (lookup ++ (reports ++ events)) outcome left

variable {d left : Device} {writes : List PropertyWrite} {sets : List AtomicSet}
  {events : List (Event interface)}

theorem reportMissing_runs {key : PropertyKey} (run : (d.reportMissing key).Runs events left) :
    requestsOf events = [] ∧ ∃ reported, left = { d with reported } := by
  unfold reportMissing at run
  split at run
  · obtain ⟨rfl, rfl⟩ := runs_pure.mp run
    exact ⟨rfl, _, rfl⟩
  · obtain ⟨report, _, later, rfl, noticed, done⟩ := runs_bind.mp run
    obtain rfl := runs_notice.mp noticed
    obtain ⟨rfl, rfl⟩ := runs_pure.mp done
    exact ⟨rfl, _, rfl⟩

theorem collect_runs {outcome : Except DeviceError (List AtomicSet)}
    (run : (collect writes sets d).Runs events (outcome, left)) :
    Collects writes sets d events outcome left := by
  induction writes generalizing sets d events with
  | nil =>
    obtain ⟨rfl, rfl, rfl⟩ := runs_pure_pair.mp run
    exact .done
  | cons write rest ih =>
    unfold collect at run
    split at run
    · rename_i zero
      obtain ⟨rfl, rfl, rfl⟩ := runs_pure_pair.mp run
      exact .unnamed zero
    · rename_i named
      obtain ⟨lookup, ⟨found, cache⟩, later, rfl, resolving, followed⟩ := runs_bind.mp run
      have resolves := PropertyCache.resolve_runs resolving
      rcases found with e | _ | property
      · obtain ⟨rfl, rfl, rfl⟩ := runs_pure_pair.mp followed
        rw [List.append_nil]
        exact .failed named resolves
      · obtain ⟨reports, _, events, rfl, reporting, others⟩ := runs_bind.mp followed
        obtain ⟨silent, reported, rfl⟩ := reportMissing_runs reporting
        exact .next named resolves silent (ih others)
      · exact .next named resolves requestsOf_nil (ih followed)

inductive Commits (d : Device) (batch : Batch) (nonblock : Bool) :
    List (Event interface) → Except DeviceError Unit → Device → Prop where
  | givenUp {events : List (Event interface)} {e : DeviceError} {left : Device}
      (collects : Collects batch.writes [] d events (.error e) left) :
      Commits d batch nonblock events (.error e) left
  | submitted {events : List (Event interface)} {sets : List AtomicSet} {left : Device}
      {answer : Except Errno Unit} (collects : Collects batch.writes [] d events (.ok sets) left) :
      Commits d batch nonblock (events ++ [.answered (.atomic nonblock sets) answer])
        (answer.mapError .os) left

theorem commit_runs {batch : Batch} {nonblock : Bool} {outcome : Except DeviceError Unit}
    (run : (d.commit batch nonblock).Runs events (outcome, left)) :
    d.Commits batch nonblock events outcome left := by
  obtain ⟨collecting, ⟨collected, known⟩, later, rfl, collects, followed⟩ := runs_bind.mp run
  have collects := collect_runs collects
  cases collected with
  | error e =>
    obtain ⟨rfl, rfl, rfl⟩ := runs_pure_pair.mp followed
    rw [List.append_nil]
    exact .givenUp collects
  | ok sets =>
    obtain ⟨answer, last, rfl, done⟩ := runs_ask_bind.mp followed
    obtain ⟨rfl, rfl, rfl⟩ := runs_pure_pair.mp done
    exact .submitted collects

end Device

end Scanout.Kernel
