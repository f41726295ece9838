import Scanout.Proofs.Proc.Runs

/-!
# Runs that are given the same answers

Two runs, of the same program or of two, are compared by the calls of some kind that they make. The
device has treated both alike if the same call, after the same calls, was answered the same: this is
`SameAnswers`. It asks nothing of the device beyond the point where the calls themselves differ, so
that the calls are the same is left to be proved.
-/

namespace Scanout

variable {I : Interface}

def Event.call? : Event I → Option I.Request
  | .reported _ => none
  | .answered r _ => some r

def callsOf (kind : I.Request → Bool) (events : List (Event I)) : List (Event I) :=
  events.filter fun
    | .reported _ => false
    | .answered r _ => kind r

section Calls

variable {kind other : I.Request → Bool} {events : List (Event I)}

@[simp] theorem callsOf_append (before after : List (Event I)) :
    callsOf kind (before ++ after) = callsOf kind before ++ callsOf kind after :=
  List.filter_append ..

@[simp] theorem callsOf_reported (n : Notice) (events : List (Event I)) :
    callsOf kind (.reported n :: events) = callsOf kind events := rfl

theorem callsOf_answered (r : I.Request) (a : I.Answer r) (events : List (Event I)) :
    callsOf kind (.answered r a :: events)
      = if kind r then .answered r a :: callsOf kind events else callsOf kind events :=
  List.filter_cons

theorem mem_callsOf {r : I.Request} {a : I.Answer r} :
    .answered r a ∈ callsOf kind events ↔ .answered r a ∈ events ∧ kind r = true :=
  List.mem_filter

theorem callsOf_congr (same : ∀ r ∈ requestsOf events, kind r = other r) :
    callsOf kind events = callsOf other events := by
  induction events with
  | nil => rfl
  | cons event rest ih =>
    cases event with
    | reported n => exact ih same
    | answered r a =>
      rw [requestsOf_answered, List.forall_mem_cons] at same
      rw [callsOf_answered, callsOf_answered, same.1, ih same.2]

/-- Calls of a kind that is part of another are found among those of the other. -/
theorem callsOf_callsOf (part : ∀ r, kind r = true → other r = true) (events : List (Event I)) :
    callsOf kind (callsOf other events) = callsOf kind events := by
  rw [callsOf, callsOf, callsOf, List.filter_filter]
  refine List.filter_congr fun event _ => ?_
  cases event with
  | reported n => rfl
  | answered r a => simpa using part r

theorem callsOf_eq_nil (others : ∀ r ∈ requestsOf events, kind r = false) :
    callsOf kind events = [] := by
  have never : callsOf kind events = callsOf (fun _ => false) events := callsOf_congr others
  rw [never]
  refine List.filter_eq_nil_iff.mpr fun event _ => ?_
  cases event <;> simp

end Calls

/-- As long as both sides have made the same calls and have been given the same answers, the same
call is given the same answer. -/
def SameAnswers : List (Event I) → List (Event I) → Prop
  | x :: xs, y :: ys => x.call? = y.call? → x = y ∧ SameAnswers xs ys
  | _, _ => True

namespace SameAnswers

variable {xs ys later others : List (Event I)}

theorem refl (xs : List (Event I)) : SameAnswers xs xs := by
  induction xs with
  | nil => trivial
  | cons x xs ih => exact fun _ => ⟨rfl, ih⟩

theorem answered {r : I.Request} {a b : I.Answer r}
    (same : SameAnswers (.answered r a :: xs) (.answered r b :: ys)) : a = b ∧ SameAnswers xs ys := by
  obtain ⟨equal, rest⟩ := same rfl
  cases equal
  exact ⟨rfl, rest⟩

end SameAnswers

end Scanout
