import Mathlib.Data.List.Basic
import Mathlib.Data.List.Induction
import Mathlib.Data.List.Nodup
import Scanout.Kernel.Submission
import Scanout.Proofs.Display.Batch
import Scanout.Proofs.Kernel.Catalogue

/-!
# The entries that a batch means

A catalogue tells which entries a batch makes: `entries` inserts one after the other, and
`means_entries` says what is left of them in the end. Every property that is written and that its
object has is there once, with the value that the batch gives it, and nothing else is there.
-/

namespace Scanout.Kernel

namespace AtomicSet

variable {s t u : AtomicSet} {sets : List AtomicSet}

/-- The entries are for the same property of the same object. -/
def Replaces (s t : AtomicSet) : Prop := t.object = s.object ∧ t.property = s.property

theorem precedes_iff :
    s.precedes t ↔ s.object < t.object ∨ s.object = t.object ∧ s.property < t.property := by
  simp [precedes]

theorem precedes_trans (first : s.precedes t) (second : t.precedes u) : s.precedes u := by
  rw [precedes_iff] at *
  rcases first with first | ⟨same, first⟩
  · rcases second with second | ⟨other, -⟩
    · exact .inl (UInt32.lt_trans first second)
    · exact .inl (other ▸ first)
  · rcases second with second | ⟨other, second⟩
    · exact .inl (same ▸ second)
    · exact .inr ⟨same.trans other, UInt32.lt_trans first second⟩

theorem not_replaces_of_precedes (first : s.precedes t) : ¬ s.Replaces t := by
  rintro ⟨object, property⟩
  rw [precedes_iff, object, property] at first
  rcases first with first | ⟨-, first⟩ <;> exact UInt32.lt_irrefl _ first

theorem replaces_symm (replaces : s.Replaces t) : t.Replaces s := ⟨replaces.1.symm, replaces.2.symm⟩

theorem replaces_of_not_precedes (first : ¬ s.precedes t) (second : ¬ t.precedes s) :
    s.Replaces t := by
  simp only [precedes_iff, not_or, not_and, UInt32.not_lt] at first second
  have object := UInt32.le_antisymm first.1 second.1
  exact ⟨object, UInt32.le_antisymm (first.2 object.symm) (second.2 object)⟩

def Sorted (sets : List AtomicSet) : Prop := sets.Pairwise fun s t => s.precedes t

theorem Sorted.nodup (sorted : Sorted sets) : sets.Nodup := by
  refine List.Pairwise.imp (fun {s t} first => ?_) sorted
  rintro rfl
  exact not_replaces_of_precedes first ⟨rfl, rfl⟩

theorem mem_insert (sorted : Sorted sets) :
    t ∈ insert s sets ↔ t = s ∨ t ∈ sets ∧ ¬ s.Replaces t := by
  induction sets with
  | nil => simp [insert]
  | cons first rest ih =>
    obtain ⟨least, others⟩ := List.pairwise_cons.mp sorted
    unfold insert
    split
    · rename_i before
      -- Everything in the list comes after the new entry.
      have apart : ∀ t ∈ first :: rest, ¬ s.Replaces t := by
        simp only [List.mem_cons, forall_eq_or_imp]
        exact ⟨not_replaces_of_precedes before, fun t later =>
          not_replaces_of_precedes (precedes_trans before (least t later))⟩
      rw [List.mem_cons]
      exact or_congr_right ⟨fun member => ⟨member, apart t member⟩, And.left⟩
    · rename_i notBefore
      split
      · rename_i after
        have apart : ¬ s.Replaces first := fun replaces =>
          not_replaces_of_precedes after (replaces_symm replaces)
        rw [List.mem_cons, ih others, List.mem_cons, or_and_right, or_left_comm]
        exact or_congr_right (or_congr_left ⟨fun same => ⟨same, same ▸ apart⟩, And.left⟩)
      · rename_i notAfter
        have replaces := replaces_of_not_precedes notBefore notAfter
        have apart : ∀ t ∈ rest, ¬ s.Replaces t := fun t later same =>
          not_replaces_of_precedes (least t later)
            ⟨same.1.trans replaces.1.symm, same.2.trans replaces.2.symm⟩
        rw [List.mem_cons, List.mem_cons]
        refine or_congr_right ⟨fun member => ⟨.inr member, apart t member⟩, ?_⟩
        rintro ⟨rfl | member, kept⟩
        · exact absurd replaces kept
        · exact member

theorem sorted_insert (sorted : Sorted sets) : Sorted (insert s sets) := by
  induction sets with
  | nil => exact List.pairwise_singleton _ _
  | cons first rest ih =>
    obtain ⟨least, others⟩ := List.pairwise_cons.mp sorted
    unfold insert
    split
    · rename_i before
      refine List.pairwise_cons.mpr ⟨?_, sorted⟩
      simp only [List.mem_cons, forall_eq_or_imp]
      exact ⟨before, fun t later => precedes_trans before (least t later)⟩
    · rename_i notBefore
      split
      · rename_i after
        refine List.pairwise_cons.mpr ⟨fun t member => ?_, ih others⟩
        rcases (mem_insert others).mp member with rfl | ⟨later, -⟩
        · exact after
        · exact least t later
      · rename_i notAfter
        obtain ⟨object, property⟩ := replaces_of_not_precedes notBefore notAfter
        refine List.pairwise_cons.mpr ⟨fun t later => ?_, others⟩
        have next := least t later
        rw [precedes_iff, object, property] at next
        exact precedes_iff.mpr next

def enter (write : PropertyWrite) : Option UInt32 → List AtomicSet → List AtomicSet
  | none, sets => sets
  | some property, sets => insert ⟨write.object.id, property, write.value⟩ sets

end AtomicSet

namespace Catalogue

def entries (c : Catalogue) (writes : List PropertyWrite) : List AtomicSet :=
  writes.foldl
    (fun sets write => AtomicSet.enter write (c.property? write.object write.name) sets) []

theorem entries_concat (c : Catalogue) (writes : List PropertyWrite) (write : PropertyWrite) :
    c.entries (writes ++ [write])
      = AtomicSet.enter write (c.property? write.object write.name) (c.entries writes) :=
  List.foldl_concat _ _ _ _

/-- Objects of different kinds have different numbers. -/
def KindsApart (c : Catalogue) : Prop :=
  ∀ a b : ModeObject, a.id = b.id → c.properties a ≠ [] → c.properties b ≠ [] → a = b

variable {c : Catalogue} {object other : ModeObject} {name : String} {property : UInt32}

theorem name_of_property? (found : c.property? object name = some property) :
    c.name property = name := by
  simpa using List.find?_some found

theorem properties_ne_nil (found : c.property? object name = some property) :
    c.properties object ≠ [] :=
  List.ne_nil_of_mem (List.mem_of_find?_eq_some found)

/-- A number of an object and a number of a property name one property of one object. -/
theorem KindsApart.unique (apart : c.KindsApart) {otherName : String} (same : object.id = other.id)
    (found : c.property? object name = some property)
    (alsoFound : c.property? other otherName = some property) : object = other ∧ name = otherName :=
  ⟨apart object other same (properties_ne_nil found) (properties_ne_nil alsoFound),
    (name_of_property? found).symm.trans (name_of_property? alsoFound)⟩

theorem sorted_entries (c : Catalogue) (writes : List PropertyWrite) :
    AtomicSet.Sorted (c.entries writes) := by
  induction writes using List.reverseRecOn with
  | nil => exact List.Pairwise.nil
  | append_singleton writes write ih =>
    rw [entries_concat]
    unfold AtomicSet.enter
    split
    · exact ih
    · exact AtomicSet.sorted_insert ih

/-- The entry for a property has the value that was written last. -/
theorem mem_entries (apart : c.KindsApart) {writes : List PropertyWrite} {s : AtomicSet} :
    s ∈ c.entries writes ↔ ∃ object name, s.object = object.id ∧
      c.property? object name = some s.property ∧
      Batch.value? ⟨writes⟩ object name = some s.value := by
  induction writes using List.reverseRecOn with
  | nil => simp [entries, Batch.value?]
  | append_singleton writes write ih =>
    rw [entries_concat]
    unfold AtomicSet.enter
    split
    · rename_i absent
      rw [ih]
      refine exists₂_congr fun object name => and_congr_right fun _ => and_congr_right fun found => ?_
      rw [Batch.value?_concat, if_neg]
      rintro ⟨rfl, rfl⟩
      cases absent.symm.trans found
    · rename_i property present
      rw [AtomicSet.mem_insert (c.sorted_entries writes), ih]
      constructor
      · rintro (rfl | ⟨⟨object, name, object_eq, found, value⟩, kept⟩)
        · exact ⟨write.object, write.name, rfl, present, by
            rw [Batch.value?_concat, if_pos ⟨rfl, rfl⟩]⟩
        · refine ⟨object, name, object_eq, found, ?_⟩
          rw [Batch.value?_concat, if_neg]
          · exact value
          · rintro ⟨rfl, rfl⟩
            exact kept ⟨object_eq, Option.some.inj (found.symm.trans present)⟩
      · rintro ⟨object, name, object_eq, found, value⟩
        by_cases named : write.object = object ∧ write.name = name
        · obtain ⟨rfl, rfl⟩ := named
          rw [Batch.value?_concat, if_pos ⟨rfl, rfl⟩, Option.some.injEq] at value
          rw [present, Option.some.injEq] at found
          left
          rw [← object_eq, found, value]
        · rw [Batch.value?_concat, if_neg named] at value
          refine .inr ⟨⟨object, name, object_eq, found, value⟩, ?_⟩
          rintro ⟨sameObject, sameProperty⟩
          rw [show s.property = property from sameProperty] at found
          exact named (apart.unique (sameObject.symm.trans object_eq) present found)

/-- The entries are what the batch means: for every property that is written and that its object
has, one entry with the value that the batch gives it, and nothing else. -/
structure Means (c : Catalogue) (batch : Batch) (sets : List AtomicSet) : Prop where
  written : ∀ write ∈ batch.writes, ∀ property,
    c.property? write.object write.name = some property →
    ∃ value, batch.value? write.object write.name = some value ∧
      (sets.filter fun s => s.object = write.object.id && c.name s.property = write.name)
        = [⟨write.object.id, property, value⟩]
  only : ∀ s ∈ sets, ∃ write ∈ batch.writes, s.object = write.object.id ∧
    c.property? write.object write.name = some s.property

theorem means_entries (apart : c.KindsApart) (batch : Batch) :
    c.Means batch (c.entries batch.writes) where
  written write member property found := by
    obtain ⟨value, written⟩ := Batch.exists_value?_of_mem member
    refine ⟨value, written, List.perm_singleton.mp ?_⟩
    refine (List.perm_ext_iff_of_nodup ((c.sorted_entries _).nodup.filter _)
      (List.nodup_singleton _)).mpr fun s => ?_
    rw [List.mem_filter, mem_entries apart, List.mem_singleton]
    constructor
    · rintro ⟨⟨object, name, object_eq, alsoFound, alsoWritten⟩, named⟩
      simp only [Bool.and_eq_true, decide_eq_true_eq] at named
      obtain rfl : object = write.object := apart object write.object
        (object_eq.symm.trans named.1) (properties_ne_nil alsoFound) (properties_ne_nil found)
      obtain rfl : name = write.name := (name_of_property? alsoFound).symm.trans named.2
      rw [alsoFound, Option.some.injEq] at found
      rw [alsoWritten, Option.some.injEq] at written
      rw [← found, ← written, ← object_eq]
    · rintro rfl
      refine ⟨⟨write.object, write.name, rfl, found, written⟩, ?_⟩
      simp [name_of_property? found]
  only s member := by
    obtain ⟨object, name, object_eq, found, value⟩ := (mem_entries apart).mp member
    obtain ⟨write, present, rfl, rfl⟩ := Batch.exists_write_of_value? value
    exact ⟨write, present, object_eq, found⟩

end Catalogue

end Scanout.Kernel
