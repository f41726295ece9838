import Scanout.Proofs.Proc.History

/-!
# Runs of a translated program

Where the requests of one interface are answered by programs over another, each answer comes about
by events of the other. A run of the translated program is therefore a run of the program itself
with such events in place of every answer, which is what `Implements` says, and a history of
translated programs is one of the programs themselves.
-/

namespace Scanout

variable {I J : Interface}

/-- Calls that some events have come about by: for every answer in order, calls that serve it. -/
inductive Implements (Serves : (r : I.Request) → I.Answer r → List (Event J) → Prop) :
    List (Event I) → List (Event J) → Prop where
  | nil : Implements Serves [] []
  | reported (n : Notice) {events : List (Event I)} {calls : List (Event J)}
      (rest : Implements Serves events calls) :
      Implements Serves (.reported n :: events) (.reported n :: calls)
  | answered {r : I.Request} {a : I.Answer r} {own calls : List (Event J)} {events : List (Event I)}
      (serves : Serves r a own) (rest : Implements Serves events calls) :
      Implements Serves (.answered r a :: events) (own ++ calls)

section Implements

variable {Serves : (r : I.Request) → I.Answer r → List (Event J) → Prop}
  {events later : List (Event I)} {calls more : List (Event J)}

theorem Implements.append (first : Implements Serves events calls)
    (second : Implements Serves later more) :
    Implements Serves (events ++ later) (calls ++ more) := by
  induction first with
  | nil => exact second
  | reported n _ ih => exact .reported n ih
  | answered serves _ ih =>
    rw [List.append_assoc]
    exact .answered serves ih

theorem Implements.of_append (whole : Implements Serves (events ++ later) calls) :
    ∃ first second, calls = first ++ second ∧ Implements Serves events first ∧
      Implements Serves later second := by
  induction events generalizing calls with
  | nil => exact ⟨[], calls, rfl, .nil, whole⟩
  | cons event rest ih =>
    cases whole with
    | reported n others =>
      obtain ⟨first, second, rfl, here, there⟩ := ih others
      exact ⟨.reported n :: first, second, rfl, .reported n here, there⟩
    | @answered _ _ own _ _ serves others =>
      obtain ⟨first, second, rfl, here, there⟩ := ih others
      exact ⟨own ++ first, second, (List.append_assoc ..).symm, .answered serves here, there⟩

theorem Implements.of_cons {r : I.Request} {a : I.Answer r}
    (whole : Implements Serves (.answered r a :: events) calls) :
    ∃ own others, calls = own ++ others ∧ Serves r a own ∧ Implements Serves events others := by
  cases whole with
  | answered serves rest => exact ⟨_, _, rfl, serves, rest⟩

/-- What calls do is known from the requests alone if that is so of each of them. -/
theorem Implements.flatMap_eq {β : Type} {f : Event J → List β} {g : I.Request → List β}
    (silent : ∀ n, f (.reported n) = [])
    (each : ∀ r ∈ requestsOf events, ∀ a own, Serves r a own → own.flatMap f = g r)
    (implements : Implements Serves events calls) :
    calls.flatMap f = (requestsOf events).flatMap g := by
  induction implements with
  | nil => rfl
  | reported n _ ih =>
    rw [List.flatMap_cons, silent, requestsOf_reported, List.nil_append]
    exact ih each
  | @answered r a own _ _ serves _ ih =>
    rw [requestsOf_answered, List.forall_mem_cons] at each
    rw [List.flatMap_append, requestsOf_answered, List.flatMap_cons, each.1 a own serves,
      ih each.2]

theorem Implements.forall_flatMap {β : Type} {f : Event J → List β} {P : β → Prop}
    (silent : ∀ n, f (.reported n) = [])
    (each : ∀ r ∈ requestsOf events, ∀ a own, Serves r a own → ∀ b ∈ own.flatMap f, P b)
    (implements : Implements Serves events calls) : ∀ b ∈ calls.flatMap f, P b := by
  induction implements with
  | nil => exact fun b member => absurd member List.not_mem_nil
  | reported n _ ih =>
    rw [List.flatMap_cons, silent, List.nil_append]
    exact ih each
  | @answered r a own _ _ serves _ ih =>
    rw [requestsOf_answered, List.forall_mem_cons] at each
    rw [List.flatMap_append, List.forall_mem_append]
    exact ⟨each.1 a own serves, ih each.2⟩

end Implements

section Translate

variable {σ α : Type} {Serves : (r : I.Request) → I.Answer r → List (Event J) → Prop}

theorem Proc.translate_runs {serve : (r : I.Request) → σ → Proc J (I.Answer r × σ)}
    (served : ∀ r s own a s', (serve r s).Runs own (a, s') → Serves r a own) {p : Proc I α}
    {s s' : σ} {calls : List (Event J)} {value : α}
    (run : (p.translate serve s).Runs calls (value, s')) :
    ∃ events, p.Runs events value ∧ Implements Serves events calls := by
  induction p generalizing s calls with
  | result v =>
    obtain ⟨rfl, same⟩ := Proc.runs_pure.mp run
    cases same
    exact ⟨[], .result value, .nil⟩
  | report n next ih =>
    cases run with
    | report rest =>
      obtain ⟨events, runs, implements⟩ := ih rest
      exact ⟨.reported n :: events, .report runs, .reported n implements⟩
  | request r next ih =>
    obtain ⟨own, ⟨a, middle⟩, others, rfl, serving, rest⟩ := Proc.runs_bind.mp run
    obtain ⟨events, runs, implements⟩ := ih a rest
    exact ⟨.answered r a :: events, .request runs,
      .answered (served r s own a middle serving) implements⟩

/-- If every turn is one of another kind that is implemented, so is the whole history. -/
theorem History.implements {State Operation Reply : Type} {low : State → Operation → Proc J Reply}
    {high : State → Operation → Proc I Reply} {left : Reply → State} {start now : State}
    {turns : List (Turn J State Operation Reply)}
    (each : ∀ s asked calls reply, (low s asked).Runs calls reply →
      ∃ events, (high s asked).Runs events reply ∧ Implements Serves events calls)
    (history : History low left start turns now) :
    ∃ others : List (Turn I State Operation Reply), History high left start others now ∧
      Implements Serves (journal others) (journal turns) := by
  induction history with
  | nil => exact ⟨[], .nil, .nil⟩
  | @concat _ t _ run ih =>
    obtain ⟨others, past, implements⟩ := ih
    obtain ⟨events, runs, own⟩ := each _ _ _ _ run
    refine ⟨others ++ [⟨t.before, t.asked, events, t.reply⟩], past.concat runs, ?_⟩
    simpa using implements.append own

end Translate

end Scanout
