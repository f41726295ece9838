import Scanout.Log.Notice

/-!
# Programs that call a device

A program over an interface is a tree: it ends with a result, reports a notice, or makes a request
and goes on with the answer. The answers come from outside, so a statement about all answers is a
statement about every way the device can behave, failures included.

`run` answers the requests from a state and gives the trace of what happened in order. `translate`
answers the requests of one interface by programs over another.
-/

namespace Scanout

/-- The requests a device understands, with the type of answer to each. -/
structure Interface where
  Request : Type
  Answer : Request → Type

/-- A program that makes requests of `I` and results in an `α`. -/
inductive Proc (I : Interface) (α : Type) where
  | result (value : α)
  | report (notice : Notice) (next : Proc I α)
  | request (r : I.Request) (next : I.Answer r → Proc I α)

/-- One thing that happened in a run. -/
inductive Event (I : Interface) where
  | reported (notice : Notice)
  | answered (r : I.Request) (a : I.Answer r)

def noticesOf {I : Interface} (events : List (Event I)) : List Notice :=
  events.filterMap fun
    | .reported notice => some notice
    | .answered .. => none

namespace Proc

variable {I J : Interface} {α β : Type}

protected def bind : Proc I α → (α → Proc I β) → Proc I β
  | result value, f => f value
  | report notice next, f => report notice (next.bind f)
  | request r next, f => request r fun a => (next a).bind f

instance : Monad (Proc I) where
  pure := result
  bind := Proc.bind

theorem bind_result (p : Proc I α) : p.bind result = p := by
  induction p with
  | result value => rfl
  | report notice next ih => simp [Proc.bind, ih]
  | request r next ih => simp [Proc.bind, ih]

theorem bind_assoc {γ : Type} (p : Proc I α) (f : α → Proc I β) (g : β → Proc I γ) :
    (p.bind f).bind g = p.bind fun a => (f a).bind g := by
  induction p with
  | result value => rfl
  | report notice next ih => simp [Proc.bind, ih]
  | request r next ih => simp [Proc.bind, ih]

instance : LawfulMonad (Proc I) :=
  LawfulMonad.mk' (Proc I) bind_result (fun _ _ => rfl) Proc.bind_assoc

def ask (r : I.Request) : Proc I (I.Answer r) := request r result

def notice (n : Notice) : Proc I Unit := report n (result ())

def noticeFailure {ε : Type} (describe : ε → Notice) : Except ε Unit → Proc I Unit
  | .ok () => result ()
  | .error cause => notice (describe cause)

def notices : List Notice → Proc I Unit
  | [] => result ()
  | n :: rest => report n (notices rest)

/-- Runs a program on a device whose answers depend on its state. -/
def run {σ : Type} (serve : (r : I.Request) → σ → I.Answer r × σ) :
    Proc I α → σ → List (Event I) × α × σ
  | result value, s => ([], value, s)
  | report n next, s =>
    let (events, out) := next.run serve s
    (.reported n :: events, out)
  | request r next, s =>
    let (a, s) := serve r s
    let (events, out) := (next a).run serve s
    (.answered r a :: events, out)

/-- Answers every request of `I` by a program over `J` that carries a state along. -/
def translate {σ : Type} (serve : (r : I.Request) → σ → Proc J (I.Answer r × σ)) :
    Proc I α → σ → Proc J (α × σ)
  | result value, s => result (value, s)
  | report n next, s => report n (next.translate serve s)
  | request r next, s => (serve r s).bind fun (a, s) => (next a).translate serve s

end Proc

end Scanout
