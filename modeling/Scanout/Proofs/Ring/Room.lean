import Scanout.Ring

/-!
# Room in the ring

What making room takes out, and what stays. A full ring loses its oldest generation and no other; a
ring with room loses nothing.
-/

namespace Scanout.Ring

variable {α : Type}

theorem makeRoom_of_full {r : Ring α} (full : r.size = r.depth) :
    ∃ oldest rest, r.slots = oldest :: rest ∧ r.makeRoom.1 = some oldest ∧
      r.makeRoom.2.slots = rest := by
  have pos := r.depth_pos
  unfold makeRoom
  split
  · rename_i none
    simp only [size, none, List.length_nil] at full
    omega
  · rename_i oldest rest slots
    rw [if_pos full]
    exact ⟨oldest, rest, slots, rfl, rfl⟩

theorem makeRoom_size_of_full {r : Ring α} (full : r.size = r.depth) :
    r.makeRoom.2.size + 1 = r.depth := by
  obtain ⟨oldest, rest, slots, -, stays⟩ := makeRoom_of_full full
  rw [← full, size, size, slots, stays, List.length_cons]

theorem makeRoom_of_room {r : Ring α} (room : r.size ≠ r.depth) : r.makeRoom = (none, r) := by
  unfold makeRoom
  split
  · rfl
  · rw [if_neg room]

@[simp] theorem makeRoom_depth (r : Ring α) : r.makeRoom.2.depth = r.depth := by
  unfold makeRoom
  split
  · rfl
  · split <;> rfl

/-- Nothing is lost: what is taken out and what stays is what there was, in order. -/
theorem makeRoom_slots (r : Ring α) : r.makeRoom.1.toList ++ r.makeRoom.2.slots = r.slots := by
  by_cases full : r.size = r.depth
  · obtain ⟨oldest, rest, slots, taken, stays⟩ := makeRoom_of_full full
    rw [taken, stays, slots]
    rfl
  · rw [makeRoom_of_room full]
    rfl

theorem makeRoom_makeRoom (r : Ring α) : r.makeRoom.2.makeRoom = (none, r.makeRoom.2) :=
  makeRoom_of_room (Nat.ne_of_lt r.makeRoom_length_lt)

theorem makeRoom_newest? {r : Ring α} (deep : 2 ≤ r.depth) :
    r.makeRoom.2.newest? = r.newest? := by
  by_cases full : r.size = r.depth
  · obtain ⟨oldest, rest, slots, -, stays⟩ := makeRoom_of_full full
    rw [newest?, newest?, stays, slots]
    cases rest with
    | nil =>
      simp only [size, slots, List.length_singleton] at full
      omega
    | cons second others => rw [List.getLast?_cons_cons]
  · rw [makeRoom_of_room full]

/-- The last few survive: any that are fewer than fit. -/
theorem mem_makeRoom_of_recent {r : Ring α} {before recent : List α}
    (slots : r.slots = before ++ recent) (few : recent.length < r.depth) {a : α}
    (member : a ∈ recent) : a ∈ r.makeRoom.2.slots := by
  by_cases full : r.size = r.depth
  · obtain ⟨oldest, rest, split, -, stays⟩ := makeRoom_of_full full
    cases before with
    | nil =>
      rw [size, slots, List.nil_append] at full
      exact absurd full (Nat.ne_of_lt few)
    | cons first before =>
      rw [slots, List.cons_append, List.cons.injEq] at split
      rw [stays, ← split.2]
      exact List.mem_append_right _ member
  · rw [makeRoom_of_room full, slots]
    exact List.mem_append_right _ member

@[simp] theorem advance_depth (r : Ring α) (next : α) : (r.advance next).2.depth = r.depth :=
  makeRoom_depth r

@[simp] theorem advance_slots (r : Ring α) (next : α) :
    (r.advance next).2.slots = r.makeRoom.2.slots ++ [next] := rfl

end Scanout.Ring
