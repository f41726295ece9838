import Mathlib.Data.Multiset.Count
import Scanout.Proofs.Display.Ledger

/-!
# Outstanding at every moment

What is outstanding in the middle of a list of entries, not only at its end. `AtMost` bounds how much
of one kind is outstanding at any moment. Lists that are appended need the same bound on both sides
(`AtMost.append`); releases never need more than what is there in the beginning (`atMost_releases`),
and acquisitions never more than what is there in the end (`atMost_acquires`).
-/

namespace Scanout

variable {held left : Multiset Resource} {before after ts : List Movement}

def outstanding : Multiset Resource → List Movement → Multiset Resource
  | held, [] => held
  | held, .acquire r :: ts => outstanding (r ::ₘ held) ts
  | held, .release r :: ts => outstanding (held.erase r) ts

theorem outstanding_append :
    outstanding held (before ++ after) = outstanding (outstanding held before) after := by
  induction before generalizing held with
  | nil => rfl
  | cons t rest ih => cases t <;> exact ih

theorem Settles.outstanding_eq (settles : Settles held ts left) : outstanding held ts = left := by
  induction settles with
  | nil => rfl
  | acquire _ ih => exact ih
  | release _ ih => rwa [outstanding, Multiset.erase_cons_head]

theorem outstanding_releases_le (rs : List Resource) : outstanding held (rs.map .release) ≤ held := by
  induction rs generalizing held with
  | nil => exact le_rfl
  | cons r rest ih => exact ih.trans (Multiset.erase_le r held)

theorem outstanding_acquires (rs : List Resource) :
    outstanding held (rs.map .acquire) = held + (rs : Multiset Resource) := by
  induction rs generalizing held with
  | nil => exact (Multiset.add_zero held).symm
  | cons r rest ih =>
    rw [List.map_cons, outstanding, ih, ← Multiset.cons_coe, Multiset.cons_add, Multiset.add_cons]

/-- At no moment are more than so many resources of a kind outstanding. -/
def AtMost (kind : Resource → Bool) (bound : ℕ) (held : Multiset Resource) (ts : List Movement) :
    Prop :=
  ∀ seen later, ts = seen ++ later → (outstanding held seen).countP (kind ·) ≤ bound

variable {kind : Resource → Bool} {bound : ℕ}

theorem atMost_nil (few : held.countP (kind ·) ≤ bound) : AtMost kind bound held [] := by
  intro seen later split
  obtain ⟨rfl, -⟩ := List.append_eq_nil_iff.mp split.symm
  exact few

theorem AtMost.append (first : AtMost kind bound held before)
    (last : AtMost kind bound (outstanding held before) after) :
    AtMost kind bound held (before ++ after) := by
  intro seen later split
  rcases List.append_eq_append_iff.mp split with ⟨more, rfl, rest⟩ | ⟨more, rfl, -⟩
  · rw [outstanding_append]
    exact last more later rest
  · exact first seen more rfl

theorem atMost_releases (few : held.countP (kind ·) ≤ bound) (rs : List Resource) :
    AtMost kind bound held (rs.map .release) := by
  intro seen later split
  obtain ⟨gone, kept, -, rfl, -⟩ := List.map_eq_append_iff.mp split
  exact (Multiset.countP_le_of_le _ (outstanding_releases_le gone)).trans few

theorem atMost_acquires {rs : List Resource}
    (few : (held + (rs : Multiset Resource)).countP (kind ·) ≤ bound) :
    AtMost kind bound held (rs.map .acquire) := by
  intro seen later split
  obtain ⟨come, others, rfl, rfl, -⟩ := List.map_eq_append_iff.mp split
  rw [outstanding_acquires]
  refine (Multiset.countP_le_of_le _ ?_).trans few
  rw [← Multiset.coe_add, ← Multiset.add_assoc]
  exact Multiset.le_add_right _ _

end Scanout
