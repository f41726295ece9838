import Mathlib.Data.List.Nodup
import Scanout.Display.Property

/-!
# The last write counts

The value of a property in a batch, for batches that are put together.
-/

namespace Scanout.Batch

@[simp] theorem append_empty (b : Batch) : b.append empty = b := by
  rw [append, empty, List.append_nil]

def properties (b : Batch) : List (ModeObject × String) := b.writes.map fun w => (w.object, w.name)

theorem value?_append (b later : Batch) (object : ModeObject) (name : String) :
    (b.append later).value? object name
      = (later.value? object name).or (b.value? object name) := by
  simp only [value?, append, List.reverse_append, List.find?_append, Option.map_or]

theorem value?_eq_none {b : Batch} {object : ModeObject} {name : String}
    (unnamed : ∀ w ∈ b.writes, w.name ≠ name) : b.value? object name = none := by
  rw [value?, Option.map_eq_none_iff, List.find?_eq_none]
  intro w member
  simp [unnamed w (List.mem_reverse.mp member)]

theorem value?_concat (writes : List PropertyWrite) (write : PropertyWrite) (object : ModeObject)
    (name : String) :
    value? ⟨writes ++ [write]⟩ object name
      = if write.object = object ∧ write.name = name then some write.value
        else value? ⟨writes⟩ object name := by
  have split : Batch.mk (writes ++ [write]) = append ⟨writes⟩ ⟨[write]⟩ := rfl
  rw [split, value?_append]
  by_cases named : write.object = object ∧ write.name = name <;> simp [value?, named]

theorem exists_value?_of_mem {b : Batch} {w : PropertyWrite} (member : w ∈ b.writes) :
    ∃ value, b.value? w.object w.name = some value := by
  rw [← Option.isSome_iff_exists, value?, Option.isSome_map, List.find?_isSome]
  exact ⟨w, List.mem_reverse.mpr member, by simp⟩

theorem exists_write_of_value? {b : Batch} {object : ModeObject} {name : String} {value : UInt64}
    (written : b.value? object name = some value) :
    ∃ w ∈ b.writes, w.object = object ∧ w.name = name := by
  obtain ⟨w, found, -⟩ := Option.map_eq_some_iff.mp written
  have named := List.find?_some found
  simp only [Bool.and_eq_true, decide_eq_true_eq] at named
  exact ⟨w, List.mem_reverse.mp (List.mem_of_find?_eq_some found), named⟩

def valuesOf (b : Batch) (object : ModeObject) (name : String) : List UInt64 :=
  (b.writes.filter fun w => w.object = object && w.name = name).map PropertyWrite.value

theorem valuesOf_append (b later : Batch) (object : ModeObject) (name : String) :
    (b.append later).valuesOf object name = b.valuesOf object name ++ later.valuesOf object name := by
  simp only [valuesOf, append, List.filter_append, List.map_append]

theorem valuesOf_eq_nil {b : Batch} {object : ModeObject} {name : String}
    (unnamed : ∀ w ∈ b.writes, w.name ≠ name) : b.valuesOf object name = [] := by
  rw [valuesOf, List.map_eq_nil_iff, List.filter_eq_nil_iff]
  intro w member
  simp [unnamed w member]

theorem valuesOf_of_mem {b : Batch} {w : PropertyWrite}
    (distinct : (b.writes.map PropertyWrite.name).Nodup) (member : w ∈ b.writes) :
    b.valuesOf w.object w.name = [w.value] := by
  obtain ⟨before, after, split⟩ := List.append_of_mem member
  have parts : b = (append ⟨before⟩ ⟨[w]⟩).append ⟨after⟩ := by
    rw [append, append, List.append_assoc, List.singleton_append, ← split]
  simp only [split, List.map_append, List.map_cons, List.nodup_middle, List.nodup_cons,
    List.mem_append, List.mem_map, not_or, not_exists, not_and] at distinct
  obtain ⟨⟨unnamedBefore, unnamedAfter⟩, -⟩ := distinct
  rw [parts, valuesOf_append, valuesOf_append, valuesOf_eq_nil unnamedBefore,
    valuesOf_eq_nil unnamedAfter]
  simp [valuesOf]

theorem value?_eq_getLast? (b : Batch) (object : ModeObject) (name : String) :
    b.value? object name = (b.valuesOf object name).getLast? := by
  rw [valuesOf, List.getLast?_map, List.getLast?_eq_head?_reverse, ← List.filter_reverse,
    List.head?_filter, value?]

/-- Writes that name each property once decide what they name, whatever was written before. -/
theorem value?_append_of_mem {later : Batch} {w : PropertyWrite} (b : Batch)
    (distinct : (later.writes.map PropertyWrite.name).Nodup) (member : w ∈ later.writes) :
    (b.append later).value? w.object w.name = some w.value := by
  rw [value?_append, value?_eq_getLast? later, valuesOf_of_mem distinct member]
  rfl

theorem value?_append_of_not_mem {later : Batch} {object : ModeObject} {name : String} (b : Batch)
    (spared : (object, name) ∉ later.properties) :
    (b.append later).value? object name = b.value? object name := by
  have unwritten : later.value? object name = none := by
    by_contra written
    obtain ⟨value, found⟩ := Option.ne_none_iff_exists'.mp written
    obtain ⟨w, member, rfl, rfl⟩ := exists_write_of_value? found
    exact spared (List.mem_map_of_mem member)
  rw [value?_append, unwritten, Option.none_or]

/-- The batch gives a property a value that is not the empty id. -/
def Names (b : Batch) (object : ModeObject) (name : String) (value : UInt64) : Prop :=
  b.value? object name = some value ∧ value ≠ 0

end Scanout.Batch
