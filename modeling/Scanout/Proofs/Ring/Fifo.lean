import Mathlib.Data.List.Induction
import Scanout.Proofs.Ring.Room

/-!
# A ring over its whole life

A ring is a queue of bounded length: what has been handed out so far, followed by what the ring
still holds, is what was installed, in order. `step_conserves` is this law for one step, and
`run_conserves` for a script of them.

Making room takes the oldest value of a full ring. In a ring of two or more the newest value is
another one and stays. In a ring of one it is the same, so there making room empties the ring.
-/

namespace Scanout.Ring

variable {α : Type}

inductive Step (α : Type) where
  | advance (next : α)
  | makeRoom
  | drain

def Step.next? : Step α → Option α
  | advance next => some next
  | makeRoom | drain => none

/-- Takes a step, and says what was handed out at it, oldest first. -/
def step (r : Ring α) : Step α → List α × Ring α
  | .advance next => ((r.advance next).1.toList, (r.advance next).2)
  | .makeRoom => (r.makeRoom.1.toList, r.makeRoom.2)
  | .drain => r.drain

def run (r : Ring α) : List (Step α) → List α × Ring α
  | [] => ([], r)
  | s :: rest => ((r.step s).1 ++ ((r.step s).2.run rest).1, ((r.step s).2.run rest).2)

@[simp] theorem step_depth (r : Ring α) (s : Step α) : (r.step s).2.depth = r.depth := by
  cases s with
  | advance next => exact advance_depth r next
  | makeRoom => exact makeRoom_depth r
  | drain => rfl

theorem step_conserves (r : Ring α) (s : Step α) :
    (r.step s).1 ++ (r.step s).2.slots = r.slots ++ s.next?.toList := by
  cases s with
  | advance next =>
    calc r.makeRoom.1.toList ++ (r.makeRoom.2.slots ++ [next])
        = (r.makeRoom.1.toList ++ r.makeRoom.2.slots) ++ [next] := (List.append_assoc _ _ _).symm
      _ = r.slots ++ [next] := by rw [makeRoom_slots]
  | makeRoom => exact (makeRoom_slots r).trans (List.append_nil _).symm
  | drain => rfl

theorem makeRoom_released (r : Ring α) :
    r.makeRoom.1.toList.length = if r.size = r.depth then 1 else 0 := by
  by_cases full : r.size = r.depth
  · obtain ⟨oldest, rest, -, taken, -⟩ := makeRoom_of_full full
    rw [taken, if_pos full]
    rfl
  · rw [makeRoom_of_room full, if_neg full]
    rfl

@[simp] theorem run_depth (r : Ring α) (script : List (Step α)) :
    (r.run script).2.depth = r.depth := by
  induction script generalizing r with
  | nil => rfl
  | cons s rest ih => exact (ih _).trans (step_depth r s)

theorem run_conserves (r : Ring α) (script : List (Step α)) :
    (r.run script).1 ++ (r.run script).2.slots = r.slots ++ script.filterMap Step.next? := by
  induction script generalizing r with
  | nil => exact (List.append_nil _).symm
  | cons s rest ih =>
    have installed : (s :: rest).filterMap Step.next?
        = s.next?.toList ++ rest.filterMap Step.next? := by
      cases s <;> rfl
    rw [run, List.append_assoc, ih, ← List.append_assoc, step_conserves, installed,
      List.append_assoc]

theorem run_append (r : Ring α) (before : List (Step α)) (s : Step α) :
    (r.run (before ++ [s])).2 = ((r.run before).2.step s).2 := by
  induction before generalizing r with
  | nil => rfl
  | cons first rest ih => exact ih _

/-- What a queue of bounded length promises, of a ring that has handed out some values. -/
structure Fifo (depth : Nat) (installed released : List α) (r : Ring α) : Prop where
  /-- No value is lost, doubled or overtaken. -/
  conserves : released ++ r.slots = installed
  size_le : r.size ≤ depth
  makeRoom_releases : (r.step .makeRoom).1.length = if r.size = depth then 1 else 0
  advance_releases : ∀ next,
    (r.step (.advance next)).1.length = if r.size = depth then 1 else 0
  /-- The next value goes into a ring that has room for it, since what is handed out has left. -/
  advance_installs : ∀ next, ∃ (kept : Ring α) (room : kept.slots.length < kept.depth),
    kept.depth = depth ∧ (r.step (.advance next)).1 ++ kept.slots = r.slots ∧
      (r.step (.advance next)).2 = kept.push next room
  advance_newest : ∀ next, (r.step (.advance next)).2.newest? = some next
  makeRoom_advance : ∀ next, ((r.step .makeRoom).2.step (.advance next)).1 = []
  drain_empties : (r.step .drain).2.slots = []

/-- Whatever the depth and whatever was asked of it, a ring is a queue of bounded length. -/
theorem run_fifo {depth : Nat} (depth_pos : 0 < depth) (script : List (Step α)) :
    Fifo depth (script.filterMap Step.next?) ((empty depth depth_pos).run script).1
      ((empty depth depth_pos).run script).2 := by
  have conserves := run_conserves (empty depth depth_pos) script
  have same : ((empty depth depth_pos).run script).2.depth = depth := run_depth _ script
  generalize (empty depth depth_pos).run script = out at conserves same
  obtain ⟨released, r⟩ := out
  subst same
  constructor
  · exact conserves
  · exact r.length_le
  · exact makeRoom_released r
  · exact fun next => makeRoom_released r
  · exact fun next =>
      ⟨r.makeRoom.2, r.makeRoom_length_lt, makeRoom_depth r, makeRoom_slots r, rfl⟩
  · exact fun next => List.getLast?_concat
  · intro next
    show r.makeRoom.2.makeRoom.1.toList = []
    rw [makeRoom_makeRoom]
    rfl
  · rfl

namespace Sample

/-- A ring of two is full at some of these steps, has room at others and is empty at one. -/
def script : List (Step Nat) :=
  [.advance 1, .advance 2, .advance 3, .makeRoom, .advance 4, .drain, .makeRoom, .advance 5]

end Sample

theorem run_fifo_two : ∃ depth_pos : 0 < 2, ∃ released left,
    (empty 2 depth_pos).run Sample.script = (released, left) ∧
      released = [1, 2, 3, 4] ∧ left.slots = [5] ∧ Fifo 2 [1, 2, 3, 4, 5] released left :=
  ⟨Nat.two_pos, _, _, rfl, rfl, rfl, run_fifo Nat.two_pos Sample.script⟩

/-! ### The newest value -/

theorem makeRoom_slots_of_one {r : Ring α} (one : r.depth = 1) : r.makeRoom.2.slots = [] := by
  have room := r.makeRoom_length_lt
  rw [makeRoom_depth, one, Nat.lt_one_iff] at room
  exact List.length_eq_zero_iff.mp room

/-- Making room takes the newest value just if no other fits. -/
theorem makeRoom_newest?_iff {r : Ring α} :
    r.makeRoom.2.newest? = r.newest? ↔ (r.depth = 1 → r.slots = []) := by
  by_cases one : r.depth = 1
  · rw [newest?, makeRoom_slots_of_one one, newest?, List.getLast?_nil, eq_comm,
      List.getLast?_eq_none_iff]
    exact ⟨fun none _ => none, fun none => none one⟩
  · have deep : 2 ≤ r.depth := Nat.lt_of_le_of_ne r.depth_pos (Ne.symm one)
    exact iff_of_true (makeRoom_newest? deep) fun shallow => absurd shallow one

theorem makeRoom_slots_eq_nil_iff {r : Ring α} (holds : r.slots ≠ []) :
    r.makeRoom.2.slots = [] ↔ r.depth = 1 := by
  refine ⟨fun emptied => ?_, makeRoom_slots_of_one⟩
  by_contra deep
  have newest := makeRoom_newest?_iff.mpr fun one => absurd one deep
  rw [newest?, emptied, List.getLast?_nil, eq_comm, newest?, List.getLast?_eq_none_iff] at newest
  exact holds newest

/-- Without a drain only the last step can empty a ring: by making room where one value fits. -/
theorem run_slots_eq_nil_iff {r : Ring α} (holds : r.slots ≠ []) {script : List (Step α)}
    (kept : .drain ∉ script) :
    (r.run script).2.slots = [] ↔ r.depth = 1 ∧ script.getLast? = some .makeRoom := by
  induction script using List.reverseRecOn with
  | nil => exact iff_of_false holds (by simp)
  | append_singleton before last ih =>
    rw [List.mem_append, not_or, List.mem_singleton] at kept
    rw [run_append, List.getLast?_concat, Option.some.injEq]
    cases last with
    | advance next => exact iff_of_false (List.append_ne_nil_of_right_ne_nil _ (by simp)) (by simp)
    | drain => exact absurd rfl kept.2
    | makeRoom =>
      rw [and_iff_left rfl, ← run_depth r before]
      by_cases bare : (r.run before).2.slots = []
      · have one := ((ih kept.1).mp bare).1
        rw [← run_depth r before] at one
        exact iff_of_true (makeRoom_slots_of_one one) one
      · exact makeRoom_slots_eq_nil_iff bare

/-- How far a ring keeps its newest value when room is made. -/
structure KeepsNewest (depth : Nat) (r : Ring α) : Prop where
  newest?_eq_iff : (r.step .makeRoom).2.newest? = r.newest? ↔ (depth = 1 → r.slots = [])
  /-- Without a drain, a ring that holds something does so from then on, but for a ring of depth one
  in which room has just been made. -/
  empty_iff : r.slots ≠ [] → ∀ later : List (Step α), .drain ∉ later →
    ((r.run later).2.slots = [] ↔ depth = 1 ∧ later.getLast? = some .makeRoom)

/-- Whatever was asked of a ring before: making room keeps the newest value, unless the ring has
depth one and is not empty. -/
theorem makeRoom_keeps_newest_iff {depth : Nat} (depth_pos : 0 < depth)
    (script : List (Step α)) : KeepsNewest depth ((empty depth depth_pos).run script).2 := by
  have same : ((empty depth depth_pos).run script).2.depth = depth := run_depth _ script
  generalize ((empty depth depth_pos).run script).2 = r at same
  subst same
  exact ⟨makeRoom_newest?_iff, fun holds _ kept => run_slots_eq_nil_iff holds kept⟩

/-- A full ring of two. -/
theorem makeRoom_keeps_newest_iff_two : ∃ depth_pos : 0 < 2, ∃ r : Ring Nat,
    ((empty 2 depth_pos).run [.advance 1, .advance 2]).2 = r ∧
      (r.step .makeRoom).1 = [1] ∧ (r.step .makeRoom).2.newest? = some 2 ∧ KeepsNewest 2 r :=
  ⟨Nat.two_pos, _, rfl, rfl, rfl, makeRoom_keeps_newest_iff Nat.two_pos [.advance 1, .advance 2]⟩

/-- In a ring of one, what makes room for the next value is that the newest leaves. -/
theorem makeRoom_takes_newest : ∃ depth_pos : 0 < 1, ∃ r : Ring Nat,
    ((empty 1 depth_pos).run [.advance 1]).2 = r ∧ r.newest? = some 1 ∧
      (r.step .makeRoom).1 = [1] ∧ (r.step .makeRoom).2.newest? ≠ r.newest? ∧
      (r.run [.makeRoom]).2.slots = [] :=
  ⟨Nat.one_pos, _, rfl, rfl, rfl, by decide, rfl⟩

end Scanout.Ring
