import Mathlib.Data.List.Induction
import Scanout.Proofs.Proc.Runs

/-!
# Histories

An object that is used through programs has a history: one turn after the other, each with the state
it found, what was asked for, what happened on the device, and the reply. Nothing is assumed of the
answers, so what holds of every history holds however the device behaves.

`History.preserves` is the induction by which an invariant is proved. Where a property is broken by
some turns and restored by others, `Mended` says of a list of turns that it has been restored since,
and `History.iff_mended` proves that the property holds exactly then.
-/

namespace Scanout

/-- One operation with all that came of it. -/
structure Turn (I : Interface) (State Operation Reply : Type) where
  before : State
  asked : Operation
  events : List (Event I)
  reply : Reply

variable {I : Interface} {State Operation Reply : Type}

def journal (turns : List (Turn I State Operation Reply)) : List (Event I) :=
  turns.flatMap Turn.events

@[simp] theorem journal_nil : journal ([] : List (Turn I State Operation Reply)) = [] := rfl

@[simp] theorem journal_cons (t : Turn I State Operation Reply)
    (turns : List (Turn I State Operation Reply)) :
    journal (t :: turns) = t.events ++ journal turns :=
  List.flatMap_cons

@[simp] theorem journal_append (earlier later : List (Turn I State Operation Reply)) :
    journal (earlier ++ later) = journal earlier ++ journal later :=
  List.flatMap_append

/-- Turns that follow one another. `step` is what an operation does in a state, and `left` the state
that a reply leaves. -/
inductive History (step : State → Operation → Proc I Reply) (left : Reply → State) (start : State) :
    List (Turn I State Operation Reply) → State → Prop where
  | nil : History step left start [] start
  | concat {turns : List (Turn I State Operation Reply)} {t : Turn I State Operation Reply}
      (past : History step left start turns t.before)
      (run : (step t.before t.asked).Runs t.events t.reply) :
      History step left start (turns ++ [t]) (left t.reply)

namespace History

variable {step : State → Operation → Proc I Reply} {left : Reply → State} {start now : State}
  {earlier later turns : List (Turn I State Operation Reply)}

theorem append {middle : State} (first : History step left start earlier middle)
    (second : History step left middle later now) :
    History step left start (earlier ++ later) now := by
  induction second with
  | nil => rwa [List.append_nil]
  | concat _ run ih =>
    rw [← List.append_assoc]
    exact ih.concat run

theorem concat_iff {t : Turn I State Operation Reply} :
    History step left start (turns ++ [t]) now ↔
      History step left start turns t.before ∧ (step t.before t.asked).Runs t.events t.reply ∧
        now = left t.reply := by
  constructor
  · intro history
    generalize split : turns ++ [t] = whole at history
    cases history with
    | nil => simp at split
    | concat past run =>
      obtain ⟨rfl, same⟩ := List.append_inj' split rfl
      obtain rfl := List.singleton_inj.mp same
      exact ⟨past, run, rfl⟩
  · rintro ⟨past, run, rfl⟩
    exact past.concat run

theorem append_iff : History step left start (earlier ++ later) now ↔
    ∃ middle, History step left start earlier middle ∧ History step left middle later now := by
  constructor
  · intro history
    induction later using List.reverseRecOn generalizing now with
    | nil =>
      rw [List.append_nil] at history
      exact ⟨now, history, .nil⟩
    | append_singleton rest t ih =>
      rw [← List.append_assoc] at history
      obtain ⟨past, run, rfl⟩ := concat_iff.mp history
      obtain ⟨middle, first, second⟩ := ih past
      exact ⟨middle, first, second.concat run⟩
  · rintro ⟨middle, first, second⟩
    exact first.append second

theorem upTo {t : Turn I State Operation Reply} (history : History step left start turns now)
    (member : t ∈ turns) : ∃ past rest, turns = past ++ [t] ++ rest ∧
      History step left start (past ++ [t]) (left t.reply) := by
  obtain ⟨past, rest, rfl⟩ := List.append_of_mem member
  rw [← List.singleton_append, ← List.append_assoc] at history ⊢
  obtain ⟨middle, first, -⟩ := append_iff.mp history
  obtain ⟨before, run, -⟩ := concat_iff.mp first
  exact ⟨past, rest, rfl, before.concat run⟩

theorem of_prefix {past : List (Turn I State Operation Reply)} {t : Turn I State Operation Reply}
    (history : History step left start turns now) (cut : past ++ [t] <+: turns) :
    History step left start past t.before ∧ (step t.before t.asked).Runs t.events t.reply := by
  obtain ⟨later, rfl⟩ := cut
  obtain ⟨middle, first, -⟩ := append_iff.mp history
  obtain ⟨before, run, -⟩ := concat_iff.mp first
  exact ⟨before, run⟩

/-- What every turn keeps is true at all times. -/
theorem preserves {P : State → Prop} (begins : P start)
    (keeps : ∀ t : Turn I State Operation Reply,
      (step t.before t.asked).Runs t.events t.reply → P t.before → P (left t.reply))
    (history : History step left start turns now) : P now := by
  induction history with
  | nil => exact begins
  | concat _ run ih => exact keeps _ run ih

end History

/-- The turns that a device with a state of its own makes of some operations, and the state they
lead to. -/
def simulate {World : Type} (step : State → Operation → Proc I Reply) (left : Reply → State)
    (serve : (r : I.Request) → World → I.Answer r × World) :
    List Operation → State → World → List (Turn I State Operation Reply) × State
  | [], s, _ => ([], s)
  | asked :: rest, s, world =>
    let (events, reply, world) := (step s asked).run serve world
    let (turns, now) := simulate step left serve rest (left reply) world
    (⟨s, asked, events, reply⟩ :: turns, now)

theorem simulate_history {World : Type} {step : State → Operation → Proc I Reply}
    {left : Reply → State} (serve : (r : I.Request) → World → I.Answer r × World)
    (asked : List Operation) (s : State) (world : World) :
    History step left s (simulate step left serve asked s world).1
      (simulate step left serve asked s world).2 := by
  induction asked generalizing s world with
  | nil => exact .nil
  | cons first rest ih =>
    have run := Proc.runs_run serve (step s first) world
    exact (History.nil.concat (t := ⟨s, first, _, _⟩) run).append (ih _ _)

theorem simulate_asked {World : Type} {step : State → Operation → Proc I Reply}
    {left : Reply → State} (serve : (r : I.Request) → World → I.Answer r × World)
    (asked : List Operation) (s : State) (world : World) :
    (simulate step left serve asked s world).1.map Turn.asked = asked := by
  induction asked generalizing s world with
  | nil => rfl
  | cons first rest ih => exact congrArg (first :: ·) (ih _ _)

/-- Every turn that breaks a property has been followed by one that restores it. -/
def Mended {α : Type} (Breaks Mends : α → Prop) (turns : List α) : Prop :=
  ∀ earlier t later, turns = earlier ++ t :: later → Breaks t → ∃ r ∈ later, Mends r

theorem mended_nil {α : Type} (Breaks Mends : α → Prop) : Mended Breaks Mends [] := by
  intro earlier t later split
  simp at split

theorem mended_concat {α : Type} {Breaks Mends : α → Prop} {turns : List α} {t : α} :
    Mended Breaks Mends (turns ++ [t]) ↔
      ¬ Breaks t ∧ (Mends t ∨ Mended Breaks Mends turns) := by
  constructor
  · intro mended
    refine ⟨fun breaks => ?_, ?_⟩
    · obtain ⟨r, member, -⟩ := mended turns t [] rfl breaks
      cases member
    · by_cases mends : Mends t
      · exact .inl mends
      · refine .inr fun earlier other later split breaks => ?_
        obtain ⟨r, member, restores⟩ :=
          mended earlier other (later ++ [t]) (by simp [split]) breaks
        rcases List.mem_append.mp member with found | last
        · exact ⟨r, found, restores⟩
        · rw [List.mem_singleton.mp last] at restores
          exact absurd restores mends
  · rintro ⟨whole, restored⟩ earlier other later split breaks
    rcases List.eq_nil_or_concat later with rfl | ⟨rest, last, rfl⟩
    · obtain ⟨-, ⟨⟩⟩ := List.append_inj' split rfl
      exact absurd breaks whole
    · rw [List.concat_eq_append, ← List.cons_append, ← List.append_assoc] at split
      obtain ⟨same, ⟨⟩⟩ := List.append_inj' split rfl
      rcases restored with mends | mended
      · exact ⟨t, by simp, mends⟩
      · obtain ⟨r, member, restores⟩ := mended earlier other rest same breaks
        exact ⟨r, by simp [member], restores⟩

/-- What a turn does to a property that some turns break and others restore. -/
inductive Tracks {α : Type} (Breaks Mends : α → Prop) (t : α) (before after : Prop) : Prop where
  | broken (breaks : Breaks t) (lost : ¬ after)
  | restored (whole : ¬ Breaks t) (mends : Mends t) (holds : after)
  | kept (whole : ¬ Breaks t) (idle : ¬ Mends t) (same : after ↔ before)

theorem Tracks.iff_mended {α : Type} {Breaks Mends : α → Prop} {t : α} {before after : Prop}
    {turns : List α} (tracks : Tracks Breaks Mends t before after)
    (held : before ↔ Mended Breaks Mends turns) : after ↔ Mended Breaks Mends (turns ++ [t]) := by
  rw [mended_concat]
  cases tracks with
  | broken breaks lost => exact iff_of_false lost fun mended => mended.1 breaks
  | restored whole mends holds => exact iff_of_true holds ⟨whole, .inl mends⟩
  | kept whole idle same =>
    rw [same, held]
    exact ⟨fun mended => ⟨whole, .inr mended⟩, fun mended => mended.2.resolve_left idle⟩

/-- A property that every turn breaks, restores or keeps, as long as an invariant holds, is true at
the times when all breaks have been mended. -/
theorem History.iff_mended {step : State → Operation → Proc I Reply} {left : Reply → State}
    {start now : State} {turns : List (Turn I State Operation Reply)} {Invariant P : State → Prop}
    {Breaks Mends : Turn I State Operation Reply → Prop} (begins : Invariant start ∧ P start)
    (tracks : ∀ t : Turn I State Operation Reply, (step t.before t.asked).Runs t.events t.reply →
      Invariant t.before →
        Invariant (left t.reply) ∧ Tracks Breaks Mends t (P t.before) (P (left t.reply)))
    (history : History step left start turns now) :
    Invariant now ∧ (P now ↔ Mended Breaks Mends turns) := by
  induction history with
  | nil => exact ⟨begins.1, iff_of_true begins.2 (mended_nil _ _)⟩
  | concat _ run ih =>
    obtain ⟨invariant, tracked⟩ := tracks _ run ih.1
    exact ⟨invariant, tracked.iff_mended ih.2⟩

end Scanout
