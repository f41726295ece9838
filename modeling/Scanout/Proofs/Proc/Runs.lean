import Scanout.Proc

/-!
# Runs of a program

A run of a program is one path through its tree: the events along it and the result at its end. The
answers on the path are arbitrary, so a statement about all runs of a program is a statement about
every way the device can behave, failures included.

`runs_bind` cuts a run where the program was put together. Everything else here says what a run of
one step is, and which requests a list of events holds.
-/

namespace Scanout

variable {I : Interface} {α β : Type}

def requestsOf (events : List (Event I)) : List I.Request :=
  events.filterMap fun
    | .reported _ => none
    | .answered r _ => some r

@[simp] theorem requestsOf_nil : requestsOf ([] : List (Event I)) = [] := rfl

@[simp] theorem requestsOf_reported (n : Notice) (events : List (Event I)) :
    requestsOf (.reported n :: events) = requestsOf events := rfl

@[simp] theorem requestsOf_answered (r : I.Request) (a : I.Answer r) (events : List (Event I)) :
    requestsOf (.answered r a :: events) = r :: requestsOf events := rfl

@[simp] theorem requestsOf_append (before after : List (Event I)) :
    requestsOf (before ++ after) = requestsOf before ++ requestsOf after :=
  List.filterMap_append

theorem mem_requestsOf {r : I.Request} {a : I.Answer r} {events : List (Event I)}
    (member : .answered r a ∈ events) : r ∈ requestsOf events :=
  List.mem_filterMap.mpr ⟨_, member, rfl⟩

@[simp] theorem noticesOf_nil : noticesOf ([] : List (Event I)) = [] := rfl

@[simp] theorem noticesOf_reported (n : Notice) (events : List (Event I)) :
    noticesOf (.reported n :: events) = n :: noticesOf events := rfl

@[simp] theorem noticesOf_answered (r : I.Request) (a : I.Answer r) (events : List (Event I)) :
    noticesOf (.answered r a :: events) = noticesOf events := rfl

@[simp] theorem noticesOf_append (before after : List (Event I)) :
    noticesOf (before ++ after) = noticesOf before ++ noticesOf after :=
  List.filterMap_append

namespace Proc

/-- `p.Runs events a`: some answers lead through `p` by way of `events` to the result `a`. -/
inductive Runs : Proc I α → List (Event I) → α → Prop where
  | result (value : α) : Runs (.result value) [] value
  | report {n : Notice} {next : Proc I α} {events : List (Event I)} {a : α} :
      Runs next events a → Runs (.report n next) (.reported n :: events) a
  | request {r : I.Request} {next : I.Answer r → Proc I α} {answer : I.Answer r}
      {events : List (Event I)} {a : α} :
      Runs (next answer) events a → Runs (.request r next) (.answered r answer :: events) a

@[simp] theorem runs_pure {value a : α} {events : List (Event I)} :
    (pure value : Proc I α).Runs events a ↔ events = [] ∧ a = value := by
  constructor
  · intro run
    cases run
    exact ⟨rfl, rfl⟩
  · rintro ⟨rfl, rfl⟩
    exact .result a

theorem runs_pure_pair {value a : α} {state b : β} {events : List (Event I)} :
    (pure (value, state) : Proc I (α × β)).Runs events (a, b)
      ↔ events = [] ∧ a = value ∧ b = state := by
  rw [runs_pure, Prod.mk.injEq]

@[simp] theorem runs_notice {n : Notice} {events : List (Event I)} {u : Unit} :
    (notice n : Proc I Unit).Runs events u ↔ events = [.reported n] := by
  constructor
  · intro run
    cases run with
    | report rest =>
      cases rest
      rfl
  · rintro rfl
    exact .report (.result ())

theorem noticeFailure_runs {ε : Type} {describe : ε → Notice} {outcome : Except ε Unit}
    {events : List (Event I)} {u : Unit}
    (run : (noticeFailure describe outcome : Proc I Unit).Runs events u) :
    requestsOf events = [] ∧ ∀ n ∈ noticesOf events, ∃ cause, n = describe cause := by
  cases outcome with
  | ok _ =>
    obtain ⟨rfl, -⟩ := runs_pure.mp run
    simp
  | error cause =>
    obtain rfl := runs_notice.mp run
    refine ⟨rfl, fun n member => ⟨cause, ?_⟩⟩
    simpa using member

@[simp] theorem runs_ask {r : I.Request} {events : List (Event I)} {answer : I.Answer r} :
    (ask r).Runs events answer ↔ events = [.answered r answer] := by
  constructor
  · intro run
    cases run with
    | request rest =>
      cases rest
      rfl
  · rintro rfl
    exact .request (.result answer)

theorem Runs.bind {p : Proc I α} {f : α → Proc I β} {before after : List (Event I)} {a : α} {b : β}
    (first : p.Runs before a) (rest : (f a).Runs after b) :
    (p >>= f).Runs (before ++ after) b := by
  induction first with
  | result value => exact rest
  | report _ ih => exact .report (ih rest)
  | request _ ih => exact .request (ih rest)

/-- A run of two programs in sequence is a run of the first, followed by one of the second. -/
theorem runs_bind {p : Proc I α} {f : α → Proc I β} {events : List (Event I)} {b : β} :
    (p >>= f).Runs events b ↔
      ∃ before a after, events = before ++ after ∧ p.Runs before a ∧ (f a).Runs after b := by
  constructor
  · intro run
    induction p generalizing events with
    | result value => exact ⟨[], value, events, rfl, .result value, run⟩
    | report n next ih =>
      cases run with
      | report rest =>
        obtain ⟨before, a, after, rfl, first, last⟩ := ih rest
        exact ⟨.reported n :: before, a, after, rfl, .report first, last⟩
    | request r next ih =>
      cases run with
      | request rest =>
        obtain ⟨before, a, after, rfl, first, last⟩ := ih _ rest
        exact ⟨.answered r _ :: before, a, after, rfl, .request first, last⟩
  · rintro ⟨before, a, after, rfl, first, last⟩
    exact first.bind last

theorem runs_ask_bind {r : I.Request} {f : I.Answer r → Proc I α} {events : List (Event I)}
    {a : α} : (ask r >>= f).Runs events a ↔
      ∃ answer later, events = .answered r answer :: later ∧ (f answer).Runs later a := by
  rw [runs_bind]
  constructor
  · rintro ⟨_, answer, later, rfl, asked, rest⟩
    obtain rfl := runs_ask.mp asked
    exact ⟨answer, later, rfl, rest⟩
  · rintro ⟨answer, later, rfl, rest⟩
    exact ⟨_, answer, later, rfl, runs_ask.mpr rfl, rest⟩

theorem runs_map {p : Proc I α} {f : α → β} {events : List (Event I)} {b : β} :
    (f <$> p).Runs events b ↔ ∃ a, p.Runs events a ∧ b = f a := by
  rw [map_eq_pure_bind, runs_bind]
  constructor
  · rintro ⟨before, a, after, rfl, first, last⟩
    obtain ⟨rfl, rfl⟩ := runs_pure.mp last
    exact ⟨a, by rwa [List.append_nil], rfl⟩
  · rintro ⟨a, first, rfl⟩
    exact ⟨events, a, [], (List.append_nil _).symm, first, runs_pure.mpr ⟨rfl, rfl⟩⟩

/-- What a device answers is one of the runs. -/
theorem runs_run {σ : Type} (serve : (r : I.Request) → σ → I.Answer r × σ) (p : Proc I α) (s : σ) :
    p.Runs (p.run serve s).1 (p.run serve s).2.1 := by
  induction p generalizing s with
  | result value => exact .result value
  | report n next ih => exact .report (ih s)
  | request r next ih => exact .request (ih (serve r s).1 (serve r s).2)

/-- What holds of every answer of a device holds of every answer in its runs. -/
theorem answered_run {σ : Type} {serve : (r : I.Request) → σ → I.Answer r × σ}
    {P : (r : I.Request) → I.Answer r → Prop} (answers : ∀ r s, P r (serve r s).1) {p : Proc I α}
    {s : σ} {r : I.Request} {a : I.Answer r} (member : .answered r a ∈ (p.run serve s).1) :
    P r a := by
  induction p generalizing s with
  | result value => cases member
  | report n next ih =>
    rcases List.mem_cons.mp member with head | later
    · cases head
    · exact ih later
  | request _ next ih =>
    rcases List.mem_cons.mp member with head | later
    · cases head
      exact answers r s
    · exact ih _ later

end Proc

end Scanout
