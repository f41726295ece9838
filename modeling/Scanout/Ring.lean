/-!
# The ring of presented generations

The display reads a buffer for some time after the request that showed it. A ring keeps the last
`depth` generations, oldest first, and gives up the oldest only to make room for a newer one.
-/

namespace Scanout

structure Ring (α : Type) where
  depth : Nat
  slots : List α
  depth_pos : 0 < depth
  length_le : slots.length ≤ depth

namespace Ring

variable {α : Type}

def empty (depth : Nat) (depth_pos : 0 < depth) : Ring α :=
  ⟨depth, [], depth_pos, Nat.zero_le _⟩

def size (r : Ring α) : Nat := r.slots.length

def isEmpty (r : Ring α) : Bool := r.slots.isEmpty

def newest? (r : Ring α) : Option α := r.slots.getLast?

def makeRoom (r : Ring α) : Option α × Ring α :=
  match h : r.slots with
  | [] => (none, r)
  | oldest :: rest =>
    if r.size = r.depth then
      (some oldest, { r with
        slots := rest
        length_le := by
          have le := r.length_le
          rw [h, List.length_cons] at le
          exact Nat.le_of_succ_le le })
    else (none, r)

theorem makeRoom_length_lt (r : Ring α) : r.makeRoom.2.slots.length < r.makeRoom.2.depth := by
  have pos := r.depth_pos
  have le := r.length_le
  unfold makeRoom
  split
  · rename_i h
    simp [h, pos]
  · rename_i oldest rest h
    split
    · rename_i full
      simp only
      rw [h, List.length_cons] at le
      exact le
    · rename_i notFull
      simp only [size] at notFull
      exact Nat.lt_of_le_of_ne le notFull

/-- Installs `next` as the newest generation of a ring that has room for it. -/
def push (r : Ring α) (next : α) (room : r.slots.length < r.depth) : Ring α :=
  { r with
    slots := r.slots ++ [next]
    length_le := by rw [List.length_append]; exact room }

def advance (r : Ring α) (next : α) : Option α × Ring α :=
  (r.makeRoom.1, r.makeRoom.2.push next r.makeRoom_length_lt)

def drain (r : Ring α) : List α × Ring α :=
  (r.slots, empty r.depth r.depth_pos)

end Ring

end Scanout
