import Mathlib.Data.Finset.Card
import Mathlib.Data.Finset.Dedup
import Scanout.Proofs.Import.Runs

/-!
# What an import acquires

An import acquires one handle for every object that is not held yet, from the object's own file
descriptor, and gives everything back if it fails.
-/

namespace Scanout.HandleSet

open Display Proc

variable {d : FrameDescriptor} {planes : List Plane} {s next : HandleSet}
  {events : List (Event interface)} {outcome : Except PresentError HandleSet}

@[simp] theorem get?_empty (object : Nat) : empty.get? object = none := by
  rw [get?, empty, Vector.getElem?_replicate]
  split <;> rfl

/-- The objects that planes lie in and that have no handle yet. -/
def missing (s : HandleSet) (planes : List Plane) : Finset ℕ :=
  (planes.map Plane.object).toFinset.filter fun object => s.get? object = none

theorem missing_empty (planes : List Plane) :
    empty.missing planes = (planes.map Plane.object).toFinset :=
  Finset.filter_true_of_mem fun object _ => get?_empty object

theorem mem_missing {object : Nat} :
    object ∈ s.missing planes ↔ (∃ p ∈ planes, p.object = object) ∧ s.get? object = none := by
  simp [missing]

theorem missing_subset_cons {plane : Plane} {rest : List Plane} :
    s.missing rest ⊆ s.missing (plane :: rest) := by
  intro object member
  obtain ⟨⟨p, among, lies⟩, absent⟩ := mem_missing.mp member
  exact mem_missing.mpr ⟨⟨p, List.mem_cons_of_mem _ among, lies⟩, absent⟩

theorem missing_insert_ssubset {plane : Plane} {rest : List Plane}
    (bound : plane.object < maxPlanes) (free : s.get? plane.object = none) (h : GemHandle) :
    (s.insert plane.object bound h).missing rest ⊂ s.missing (plane :: rest) := by
  refine ⟨fun object member => ?_, fun same => ?_⟩
  · obtain ⟨lies, absent⟩ := mem_missing.mp member
    rw [get?_insert] at absent
    split at absent
    · cases absent
    · exact missing_subset_cons (mem_missing.mpr ⟨lies, absent⟩)
  · have before := mem_missing.mpr ⟨⟨plane, List.mem_cons_self (l := rest), rfl⟩, free⟩
    have after := (mem_missing.mp (same before)).2
    simp [get?_insert] at after

structure Gains (s : HandleSet) (planes : List Plane) (events : List (Event interface))
    (outcome : Except PresentError HandleSet) (gained given : List GemHandle) : Prop where
  movements : movementsOf events
    = (gained.map .handle).map .acquire ++ (given.map .handle).map .release
  /-- Planes that share an object share its handle. -/
  length_le : gained.length ≤ (s.missing planes).card
  kept : ∀ next, outcome = .ok next → given = [] ∧ next.held.Perm (gained ++ s.held)

theorem Extends.gains (ways : Extends d planes s events outcome) :
    ∃ gained given, Gains s planes events outcome gained given := by
  induction ways with
  | done s => exact ⟨[], [], rfl, Nat.zero_le _, by rintro _ ⟨⟩; simp⟩
  | kept present _ ih =>
    obtain ⟨gained, given, movements, length_le, kept⟩ := ih
    exact ⟨gained, given, movements,
      length_le.trans (Finset.card_le_card missing_subset_cons), kept⟩
  | @imported _ _ s _ h _ _ missing _ bound _ ih =>
    obtain ⟨gained, given, movements, length_le, kept⟩ := ih
    refine ⟨h :: gained, given, ?_, ?_, fun next done => ?_⟩
    · rw [movementsOf_answered, movementsOf_reported, movements]
      rfl
    · exact length_le.trans_lt (Finset.card_lt_card (missing_insert_ssubset bound missing h))
    · obtain ⟨nothing, held⟩ := kept next done
      refine ⟨nothing, held.trans ?_⟩
      refine ((held_insert_perm bound missing h).append_left gained).trans ?_
      exact List.perm_middle
  | @unknown _ _ s _ _ rolled =>
    exact ⟨[], s.held, movementsOf_of_releases (rollBack_runs rolled).1, Nat.zero_le _, by simp⟩
  | @failed _ _ s _ events _ _ rolled =>
    have closed : movementsOf events = s.resources.map .release :=
      movementsOf_of_releases (rollBack_runs rolled).1
    exact ⟨[], s.held, closed, Nat.zero_le _, by simp⟩

theorem Extends.imported_from (ways : Extends d planes s events outcome)
    (succeeds : outcome = .ok next) {object : Nat} {h : GemHandle}
    (held : next.get? object = some h) :
    s.get? object = some h ∨ (∃ p ∈ planes, p.object = object) ∧
      ∃ memory, d.object? object = some memory ∧
        .answered (.importPrimeFd memory.fd) (.ok h) ∈ events := by
  induction ways with
  | done s =>
    cases succeeds
    exact .inl held
  | kept _ _ ih =>
    rcases ih succeeds with before | ⟨⟨p, among, same⟩, imported⟩
    · exact .inl before
    · exact .inr ⟨⟨p, List.mem_cons_of_mem _ among, same⟩, imported⟩
  | @imported plane rest s memory new _ _ missing found bound _ ih =>
    rcases ih succeeds with before | ⟨⟨p, among, same⟩, memory, here, imported⟩
    · rw [get?_insert] at before
      split at before
      · rename_i same
        obtain rfl : new = h := Option.some.inj before
        exact .inr ⟨⟨plane, List.mem_cons_self, same.symm⟩, memory, same ▸ found, List.mem_cons_self⟩
      · exact .inl before
    · exact .inr ⟨⟨p, List.mem_cons_of_mem _ among, same⟩, memory, here,
        List.mem_cons_of_mem _ (List.mem_cons_of_mem _ imported)⟩
  | unknown | failed => cases succeeds

end Scanout.HandleSet
