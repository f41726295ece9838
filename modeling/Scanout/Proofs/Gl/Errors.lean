import Mathlib.Data.Finset.Lattice.Lemmas
import Mathlib.Data.Multiset.AddSub
import Scanout.Gl.Images
import Scanout.Proofs.Proc.Runs
import Scanout.Simulation.GraphicsLibrary

/-!
# Errors and who is blamed for them

An error stays with the library until it is taken, one by each query. A call therefore cannot tell
its own errors from those that were pending before, unless these are taken first. `Along` says which
errors the calls of a run raise and what the library is left with.

Taking errors is bounded. A library that never runs out of them, as after the loss of its context,
is asked so many times and no more, and the import fails.
-/

namespace Scanout.Gl

open Proc
open Texture (TextureId ExternalImage externalTarget)

/-- What the library keeps from call to call. -/
@[ext] structure Condition where
  /-- Errors to be reported once each. -/
  pending : Multiset UInt32
  /-- Errors that are reported over and over. -/
  lasting : Finset UInt32
  unit : UInt32
  /-- What the targets of the texture units are bound to. -/
  bound : UInt32 × UInt32 → Option TextureId

namespace Condition

def Reports (c : Condition) (code : UInt32) : Prop := code ∈ c.pending ∨ code ∈ c.lasting

/-- Few enough errors are pending for all of them to be taken. -/
def Clearable (c : Condition) : Prop := c.lasting = ∅ ∧ c.pending.card ≤ maxPendingErrors

/-- How many queries it takes to find no error, up to a limit. -/
def queries (c : Condition) (limit : Nat) : Nat :=
  if c.lasting = ∅ then min limit (c.pending.card + 1) else limit

def rebound (c : Condition) (target : UInt32) (texture : Option TextureId) :
    UInt32 × UInt32 → Option TextureId :=
  Function.update c.bound (c.unit, target) texture

end Condition

/-- A query takes one of the errors there are, whichever the library chooses. -/
inductive Takes (c : Condition) : UInt32 → Condition → Prop where
  | nothing (clean : ∀ code, ¬c.Reports code) : Takes c 0 c
  | once {code : UInt32} (error : code ≠ 0) (pending : code ∈ c.pending) :
      Takes c code { c with pending := c.pending.erase code }
  | again {code : UInt32} (error : code ≠ 0) (lasting : code ∈ c.lasting) : Takes c code c

/-- Errors join those that there are. One that is pending already may be pending twice or not. -/
structure Raises (before : Condition) (raised : Finset UInt32) (after : Condition) : Prop where
  pending : before.pending ≤ after.pending
  lasting : before.lasting ⊆ after.lasting
  reports : ∀ code, after.Reports code ↔ before.Reports code ∨ code ∈ raised

/-- What becomes of the bindings. The library may refuse to bind a texture, one of another target
for instance, but not to bind none. -/
def Rebinds (before after : Condition) : Request → Prop
  | .activeTexture unit =>
    after.bound = before.bound ∧ (after.unit = unit ∨ after.unit = before.unit)
  | .bindTexture target none =>
    after.unit = before.unit ∧ after.bound = before.rebound target none
  | .bindTexture target (some texture) =>
    after.unit = before.unit ∧
      (after.bound = before.rebound target (some texture) ∨ after.bound = before.bound)
  | .deleteTexture texture =>
    after.unit = before.unit ∧
      after.bound = fun place => (before.bound place).filter (· ≠ texture)
  | _ => after.unit = before.unit ∧ after.bound = before.bound

/-- What the library does at one event, and the errors that this raises. -/
inductive Serves : Condition → Event interface → Finset UInt32 → Condition → Prop where
  | reported (c : Condition) (n : Notice) : Serves c (.reported n) ∅ c
  | queried {before after : Condition} {code : UInt32} (takes : Takes before code after) :
      Serves before (.answered .getError code) ∅ after
  | called {before after : Condition} {r : Request} {a : Request.Answer r} {raised : Finset UInt32}
      (call : r ≠ .getError) (raises : Raises before raised after)
      (rebinds : Rebinds before after r) : Serves before (.answered r a) raised after

def Along : Condition → List (Event interface) → Finset UInt32 → Condition → Prop
  | before, [], raised, after => raised = ∅ ∧ after = before
  | before, event :: rest, raised, after => ∃ middle own others, raised = own ∪ others ∧
      Serves before event own middle ∧ Along middle rest others after

section Along

variable {before after : Condition} {events later : List (Event interface)}
  {raised : Finset UInt32}

theorem along_append : Along before (events ++ later) raised after ↔
    ∃ middle own others, raised = own ∪ others ∧ Along before events own middle ∧
      Along middle later others after := by
  induction events generalizing before raised with
  | nil =>
    simp only [List.nil_append, Along]
    constructor
    · intro along
      exact ⟨before, ∅, raised, (Finset.empty_union raised).symm, ⟨rfl, rfl⟩, along⟩
    · rintro ⟨middle, own, others, rfl, ⟨rfl, rfl⟩, along⟩
      rwa [Finset.empty_union]
  | cons event rest ih =>
    simp only [List.cons_append, Along, ih]
    constructor
    · rintro ⟨middle, own, _, rfl, first, last, others, more, rfl, along, behind⟩
      exact ⟨last, own ∪ others, more, (Finset.union_assoc ..).symm,
        ⟨middle, own, others, rfl, first, along⟩, behind⟩
    · rintro ⟨last, _, more, rfl, ⟨middle, own, others, rfl, first, along⟩, behind⟩
      exact ⟨middle, own, others ∪ more, Finset.union_assoc .., first, last, others, more, rfl,
        along, behind⟩

theorem along_reported {n : Notice} :
    Along before (.reported n :: events) raised after ↔ Along before events raised after := by
  constructor
  · rintro ⟨middle, own, others, rfl, ⟨⟩, along⟩
    rwa [Finset.empty_union]
  · intro along
    exact ⟨before, ∅, raised, (Finset.empty_union raised).symm, .reported before n, along⟩

theorem along_silent (silent : requestsOf events = []) :
    Along before (events ++ later) raised after ↔ Along before later raised after := by
  induction events with
  | nil => exact .rfl
  | cons event rest ih =>
    cases event with
    | answered _ _ => exact absurd silent (List.cons_ne_nil _ _)
    | reported n => exact along_reported.trans (ih silent)

theorem along_queried {code : UInt32} :
    Along before (.answered .getError code :: events) raised after ↔
      ∃ middle, Takes before code middle ∧ Along middle events raised after := by
  constructor
  · rintro ⟨middle, own, others, rfl, first, along⟩
    cases first with
    | queried takes => exact ⟨middle, takes, by rwa [Finset.empty_union]⟩
    | called call _ _ => exact absurd rfl call
  · rintro ⟨middle, takes, along⟩
    exact ⟨middle, ∅, raised, (Finset.empty_union raised).symm, .queried takes, along⟩

theorem along_called {r : Request} {a : Request.Answer r} (call : r ≠ .getError) :
    Along before (.answered r a :: events) raised after ↔
      ∃ middle own others, raised = own ∪ others ∧ Raises before own middle ∧
        Rebinds before middle r ∧ Along middle events others after := by
  constructor
  · rintro ⟨middle, own, others, rfl, first, along⟩
    cases first with
    | queried _ => exact absurd rfl call
    | called _ raises rebinds => exact ⟨middle, own, others, rfl, raises, rebinds, along⟩
  · rintro ⟨middle, own, others, rfl, raises, rebinds, along⟩
    exact ⟨middle, own, others, rfl, .called call raises rebinds, along⟩

theorem Raises.trans {middle : Condition} {others : Finset UInt32}
    (first : Raises before raised middle) (second : Raises middle others after) :
    Raises before (raised ∪ others) after where
  pending := first.pending.trans second.pending
  lasting := first.lasting.trans second.lasting
  reports code := by
    rw [second.reports, first.reports, Finset.mem_union, or_assoc]

theorem Takes.eq_zero_iff {code : UInt32} (takes : Takes before code after) :
    code = 0 ↔ ∀ other, ¬before.Reports other := by
  cases takes with
  | nothing clean => exact iff_of_true rfl clean
  | once error pending => exact iff_of_false error fun clean => clean code (.inl pending)
  | again error lasting => exact iff_of_false error fun clean => clean code (.inr lasting)

theorem Takes.reported {code : UInt32} (takes : Takes before code after) (error : code ≠ 0) :
    before.Reports code := by
  cases takes with
  | nothing _ => exact absurd rfl error
  | once _ pending => exact .inl pending
  | again _ lasting => exact .inr lasting

theorem Takes.reports_of {code other : UInt32} (takes : Takes before code after)
    (reports : after.Reports other) : before.Reports other := by
  cases takes with
  | nothing _ => exact reports
  | once _ _ => exact reports.imp_left Multiset.mem_of_mem_erase
  | again _ _ => exact reports

theorem Takes.bindings_eq {code : UInt32} (takes : Takes before code after) :
    after.unit = before.unit ∧ after.bound = before.bound := by
  cases takes <;> exact ⟨rfl, rfl⟩

end Along

/-- What taking errors comes to: how many queries it makes, how many errors it takes, and what it
leaves. -/
structure Drains (limit : Nat) (before : Condition) (events : List (Event interface))
    (taken : Nat) (after : Condition) : Prop where
  requests : requestsOf events = List.replicate (before.queries limit) .getError
  left_eq : ∃ rest ≤ before.pending, after = { before with pending := rest }
  /-- Errors that do not last are taken, each once, as far as the limit goes. -/
  cleared : before.lasting = ∅ →
    taken = min limit before.pending.card ∧ taken + after.pending.card = before.pending.card
  endless : before.lasting ≠ ∅ → taken = limit

theorem Condition.not_reports_iff {c : Condition} :
    (∀ code, ¬c.Reports code) ↔ c.pending = 0 ∧ c.lasting = ∅ := by
  simp only [Condition.Reports, not_or, forall_and, Multiset.eq_zero_iff_forall_notMem,
    Finset.eq_empty_iff_forall_notMem]

theorem drains_zero (c : Condition) : Drains 0 c [] 0 c where
  requests := by
    have few : c.queries 0 = 0 := by
      rw [Condition.queries, Nat.zero_min, ite_self]
    rw [few]
    rfl
  left_eq := ⟨_, le_rfl, rfl⟩
  cleared _ := ⟨(Nat.zero_min _).symm, Nat.zero_add _⟩
  endless _ := rfl

/-- The query that finds no error is the last. -/
theorem drains_clean {c : Condition} (clean : ∀ code, ¬c.Reports code) (limit : Nat) :
    Drains (limit + 1) c [.answered .getError (0 : UInt32)] 0 c := by
  obtain ⟨pending, lasting⟩ := Condition.not_reports_iff.mp clean
  have card : c.pending.card = 0 := by
    rw [pending, Multiset.card_zero]
  have once : c.queries (limit + 1) = 1 := by
    rw [Condition.queries, if_pos lasting, card]
    omega
  refine ⟨?_, ⟨_, le_rfl, rfl⟩, fun _ => ?_, fun ends => absurd lasting ends⟩
  · rw [once]
    rfl
  · omega

theorem Takes.drains {limit taken : Nat} {code : UInt32} {before middle after : Condition}
    {events : List (Event interface)} (takes : Takes before code middle) (error : code ≠ 0)
    (rest : Drains limit middle events taken after) :
    Drains (limit + 1) before (.answered .getError code :: events) (taken + 1) after := by
  cases takes with
  | nothing _ => exact absurd rfl error
  | again _ lasting =>
    -- It stays, so the limit is what ends the queries.
    have ends : before.lasting ≠ ∅ := Finset.ne_empty_of_mem lasting
    have queries : before.queries (limit + 1) = before.queries limit + 1 := by
      rw [Condition.queries, Condition.queries, if_neg ends, if_neg ends]
    refine ⟨?_, rest.left_eq, fun clears => absurd clears ends, fun _ => ?_⟩
    · show .getError :: requestsOf events = _
      rw [rest.requests, queries]
      rfl
    · rw [rest.endless ends]
  | once _ pending =>
    have card := Multiset.card_erase_add_one pending
    have queries : before.queries (limit + 1)
        = { before with pending := before.pending.erase code : Condition }.queries limit + 1 := by
      simp only [Condition.queries]
      split <;> omega
    refine ⟨?_, ?_, fun clears => ?_, fun ends => ?_⟩
    · show .getError :: requestsOf events = _
      rw [rest.requests, queries]
      rfl
    · obtain ⟨left, part, rfl⟩ := rest.left_eq
      exact ⟨left, part.trans (Multiset.erase_le _ _), rfl⟩
    · have cleared := rest.cleared clears
      dsimp only at cleared
      omega
    · rw [rest.endless ends]

theorem drainErrors_drains {limit taken : Nat} {before after : Condition}
    {events : List (Event interface)} {raised : Finset UInt32}
    (run : (drainErrors limit).Runs events taken) (along : Along before events raised after) :
    raised = ∅ ∧ Drains limit before events taken after := by
  induction limit generalizing before events taken with
  | zero =>
    obtain ⟨rfl, rfl⟩ := runs_pure.mp run
    obtain ⟨rfl, rfl⟩ := along
    exact ⟨rfl, drains_zero _⟩
  | succ limit ih =>
    obtain ⟨code, rest, rfl, next⟩ := runs_ask_bind.mp run
    obtain ⟨middle, takes, behind⟩ := along_queried.mp along
    split at next
    case isTrue none =>
      subst none
      obtain ⟨rfl, rfl⟩ := runs_pure.mp next
      obtain ⟨rfl, rfl⟩ := behind
      cases takes with
      | nothing clean => exact ⟨rfl, drains_clean clean limit⟩
      | once error _ => exact absurd rfl error
      | again error _ => exact absurd rfl error
    case isFalse error =>
      obtain ⟨events, fewer, _, rfl, drain, last⟩ := runs_bind.mp next
      obtain ⟨rfl, rfl⟩ := runs_pure.mp last
      rw [List.append_nil] at behind ⊢
      obtain ⟨raised, rest⟩ := ih drain behind
      exact ⟨raised, takes.drains error rest⟩

/-- If there are few enough, none is left, and else some error is. -/
theorem Drains.clean_iff {taken : Nat} {before after : Condition} {events : List (Event interface)}
    (drains : Drains maxPendingErrors before events taken after) :
    (∀ code, ¬after.Reports code) ↔ before.Clearable := by
  obtain ⟨rest, part, rfl⟩ := drains.left_eq
  rw [Condition.not_reports_iff, Condition.Clearable, and_comm]
  refine and_congr_right fun clears => ?_
  have cleared := drains.cleared clears
  dsimp only at cleared ⊢
  rw [← Multiset.card_eq_zero]
  omega

def bindCalls (texture : TextureId) (image : ExternalImage) : List (Event interface) :=
  [.answered (.activeTexture unitZero) (),
    .answered (.bindTexture externalTarget (some texture)) (),
    .answered (.imageTargetTexture externalTarget image) (),
    .answered (.bindTexture externalTarget none) ()]

/-- Whatever the calls before it did, the last of them leaves no texture bound, and no other binding
has changed. -/
theorem bindCalls_along {texture : TextureId} {image : ExternalImage} {before after : Condition}
    {raised : Finset UInt32} (along : Along before (bindCalls texture image) raised after) :
    Raises before raised after ∧
      after.bound = Function.update before.bound (after.unit, externalTarget) none := by
  obtain ⟨_, _, _, rfl, raises₁, ⟨kept₁, -⟩, along₁⟩ := (along_called (by nofun)).mp along
  obtain ⟨_, _, _, rfl, raises₂, ⟨unit₂, bound₂⟩, along₂⟩ := (along_called (by nofun)).mp along₁
  obtain ⟨_, _, _, rfl, raises₃, ⟨unit₃, bound₃⟩, along₃⟩ := (along_called (by nofun)).mp along₂
  obtain ⟨_, _, _, rfl, raises₄, ⟨unit₄, bound₄⟩, along₄⟩ := (along_called (by nofun)).mp along₃
  obtain ⟨rfl, rfl⟩ := along₄
  refine ⟨?_, ?_⟩
  · rw [Finset.union_empty]
    exact raises₁.trans (raises₂.trans (raises₃.trans raises₄))
  · -- If the texture was bound, taking it away undoes this. If not, there is nothing to undo.
    rw [bound₄, Condition.rebound, bound₃, unit₄, unit₃, unit₂, ← kept₁]
    rcases bound₂ with bound | refused
    · rw [bound, Condition.rebound, Function.update_idem]
    · rw [refused]

structure BindsImage (texture : TextureId) (image : ExternalImage) (before : Condition)
    (events : List (Event interface)) (raised : Finset UInt32) (outcome : Except PresentError Unit)
    (after : Condition) : Prop where
  /-- Errors are asked for until there is none, at most 16 times, and once more at the end. -/
  requests : requestsOf events = List.replicate (before.queries maxPendingErrors) .getError ++
    requestsOf (bindCalls texture image) ++ [.getError]
  /-- No error from before is left. What is reported next was raised by these calls. -/
  cleared : before.Clearable → ∀ code, after.Reports code → code ∈ raised
  ok_iff : before.Clearable → (outcome = .ok () ↔ raised = ∅)
  blames : before.Clearable → ∀ e, outcome = .error e → ∃ code ∈ raised, e = .bindFailed code
  overdue : ¬before.Clearable → ∃ code, outcome = .error (.bindFailed code)
  importing : ∀ e, outcome = .error e → e.kind = .importing
  unbound : after.bound = Function.update before.bound (after.unit, externalTarget) none

theorem attach_runs {texture : TextureId} {image : ExternalImage}
    {events : List (Event interface)} {outcome : Except PresentError Unit}
    (run : Proc.Runs (do
      Program.activeTexture unitZero
      Program.bindTexture externalTarget (some texture)
      Program.imageTargetTexture externalTarget image
      Program.bindTexture externalTarget none
      let code ← Program.getError
      if code = 0 then return .ok () else return .error (.bindFailed code)) events outcome) :
    ∃ code : UInt32, events = bindCalls texture image ++ [.answered .getError code] ∧
      outcome = if code = 0 then .ok () else .error (.bindFailed code) := by
  obtain ⟨_, _, rfl, run₁⟩ := runs_ask_bind.mp run
  obtain ⟨_, _, rfl, run₂⟩ := runs_ask_bind.mp run₁
  obtain ⟨_, _, rfl, run₃⟩ := runs_ask_bind.mp run₂
  obtain ⟨_, _, rfl, run₄⟩ := runs_ask_bind.mp run₃
  obtain ⟨code, _, rfl, run₅⟩ := runs_ask_bind.mp run₄
  rw [← apply_ite pure] at run₅
  obtain ⟨rfl, rfl⟩ := runs_pure.mp run₅
  exact ⟨code, rfl, rfl⟩

theorem bindImage_runs {texture : TextureId} {image : ExternalImage}
    {events : List (Event interface)} {outcome : Except PresentError Unit}
    (run : (bindImage texture image).Runs events outcome) :
    ∃ drained taken told code,
      events = drained ++ (told ++ (bindCalls texture image ++ [.answered .getError code])) ∧
        (drainErrors maxPendingErrors).Runs drained taken ∧
        (told = [] ∨ told = [.reported (.staleErrorsDiscarded taken)]) ∧
        outcome = if code = 0 then .ok () else .error (.bindFailed code) := by
  obtain ⟨drained, taken, _, rfl, drain, rest⟩ := runs_bind.mp run
  dsimp only at rest
  split at rest
  case isTrue =>
    obtain ⟨_, _, _, rfl, tell, attach⟩ := runs_bind.mp rest
    obtain rfl := runs_notice.mp tell
    obtain ⟨code, rfl, rfl⟩ := attach_runs attach
    exact ⟨drained, taken, _, code, rfl, drain, .inr rfl, rfl⟩
  case isFalse =>
    obtain ⟨code, rfl, rfl⟩ := attach_runs rest
    exact ⟨drained, taken, [], code, rfl, drain, .inl rfl, rfl⟩

theorem bindImage_blames_own_errors {texture : TextureId} {image : ExternalImage}
    {before after : Condition} {events : List (Event interface)} {raised : Finset UInt32}
    {outcome : Except PresentError Unit} (run : (bindImage texture image).Runs events outcome)
    (along : Along before events raised after) :
    BindsImage texture image before events raised outcome after := by
  obtain ⟨drained, taken, told, code, rfl, drain, tell, rfl⟩ := bindImage_runs run
  obtain ⟨fresh, _, _, rfl, drainedAlong, toldAlong⟩ := along_append.mp along
  obtain ⟨rfl, drains⟩ := drainErrors_drains drain drainedAlong
  have silent : requestsOf told = [] := by
    rcases tell with rfl | rfl <;> rfl
  obtain ⟨later, own, _, rfl, attached, query⟩ :=
    along_append.mp ((along_silent silent).mp toldAlong)
  obtain ⟨raises, bound⟩ := bindCalls_along attached
  obtain ⟨last, takes, rfl, rfl⟩ := along_queried.mp query
  rw [Finset.union_empty, Finset.empty_union]
  -- Without an error from before, the last query finds what the calls have raised.
  have reports : before.Clearable → ∀ other, later.Reports other ↔ other ∈ own := by
    intro few other
    have clean := drains.clean_iff.mpr few other
    rw [raises.reports, or_iff_right clean]
  refine ⟨?requests, ?cleared, ?ok_iff, ?blames, ?overdue, ?importing, ?unbound⟩
  case requests =>
    rw [requestsOf_append, drains.requests, requestsOf_append, silent, requestsOf_append,
      List.append_assoc]
    rfl
  case cleared =>
    intro few other remains
    exact (reports few other).mp (takes.reports_of remains)
  case ok_iff =>
    intro few
    have none : code = 0 ↔ own = ∅ := by
      rw [takes.eq_zero_iff, Finset.eq_empty_iff_forall_notMem]
      exact forall_congr' fun other => not_congr (reports few other)
    rw [← none]
    by_cases error : code = 0
    · exact iff_of_true (if_pos error) error
    · rw [if_neg error]
      exact iff_of_false nofun error
  case blames =>
    intro few e failed
    split at failed
    case isTrue none => cases failed
    case isFalse error =>
      cases failed
      exact ⟨code, (reports few code).mp (takes.reported error), rfl⟩
  case overdue =>
    intro many
    have error : code ≠ 0 := by
      intro none
      refine many (drains.clean_iff.mp fun other stale => ?_)
      exact takes.eq_zero_iff.mp none other ((raises.reports other).mpr (.inl stale))
    exact ⟨code, if_neg error⟩
  case importing =>
    intro e failed
    split at failed <;> cases failed
    rfl
  case unbound =>
    obtain ⟨unit, same⟩ := takes.bindings_eq
    obtain ⟨rest, part, rfl⟩ := drains.left_eq
    rw [unit, same, bound]

namespace Sample

/-- Two errors are pending, and there will be one more when an image is to be sampled. -/
def faulty : Simulation.GraphicsLibrary where
  context := true
  display := true
  displayExtensions := none
  version := ""
  extensions := []
  absent := []
  stop := none
  counter := 0
  pending := [0x500, 0x502]
  lost := none
  failures := [⟨"glEGLImageTargetTexture2DOES", 0, 1, ⟨0x501⟩⟩]

def stale : Condition where
  pending := {0x500, 0x502}
  lasting := ∅
  unit := 0x84C1
  bound _ := none

def settled : Condition where
  pending := 0
  lasting := ∅
  unit := unitZero
  bound _ := none

theorem raises_nothing {c : Condition} (unit : UInt32)
    (bound : UInt32 × UInt32 → Option TextureId) : Raises c ∅ { c with unit, bound } where
  pending := le_rfl
  lasting := Finset.Subset.refl _
  reports code := by
    rw [or_iff_left (Finset.notMem_empty code)]
    rfl

theorem raises_one {c : Condition} {code : UInt32} :
    Raises c {code} { c with pending := code ::ₘ c.pending } where
  pending := Multiset.le_cons_self _ _
  lasting := Finset.Subset.refl _
  reports other := by
    rw [Condition.Reports, Condition.Reports, Multiset.mem_cons, Finset.mem_singleton]
    tauto

theorem faulty_along :
    Along stale ((bindImage ⟨7⟩ ⟨9⟩).run Simulation.GraphicsLibrary.answer faulty).1 {0x501}
      settled := by
  have happened : ((bindImage ⟨7⟩ ⟨9⟩).run Simulation.GraphicsLibrary.answer faulty).1 =
      [.answered .getError (0x500 : UInt32), .answered .getError (0x502 : UInt32),
        .answered .getError (0 : UInt32), .reported (.staleErrorsDiscarded 2)] ++
          (bindCalls ⟨7⟩ ⟨9⟩ ++ [.answered .getError (0x501 : UInt32)]) := rfl
  rw [happened]
  refine along_queried.mpr ⟨_, .once (by decide) (by decide), ?_⟩
  refine along_queried.mpr ⟨_, .once (by decide) (by decide), ?_⟩
  refine along_queried.mpr ⟨_, .nothing (Condition.not_reports_iff.mpr ⟨by decide, rfl⟩), ?_⟩
  refine along_reported.mpr ?_
  refine (along_called (by nofun)).mpr ⟨_, ∅, {0x501}, by decide, raises_nothing unitZero _,
    ⟨rfl, .inl rfl⟩, ?_⟩
  refine (along_called (by nofun)).mpr ⟨_, ∅, {0x501}, by decide,
    raises_nothing _ (Condition.rebound _ externalTarget (some ⟨7⟩)), ⟨rfl, .inl rfl⟩, ?_⟩
  refine (along_called (by nofun)).mpr ⟨_, {0x501}, ∅, by decide, raises_one, ⟨rfl, rfl⟩, ?_⟩
  refine (along_called (by nofun)).mpr ⟨_, ∅, ∅, by decide,
    raises_nothing _ (Condition.rebound _ externalTarget none), ⟨rfl, rfl⟩, ?_⟩
  refine along_queried.mpr ⟨_, .once (by decide) (by decide), rfl, ?_⟩
  have pending :
      ((0x501 : UInt32) ::ₘ (stale.pending.erase 0x500).erase 0x502).erase 0x501 = 0 := by
    decide
  have bound : Function.update (Function.update stale.bound (unitZero, externalTarget) (some ⟨7⟩))
      (unitZero, externalTarget) none = fun _ => none := by
    rw [Function.update_idem]
    exact Function.update_eq_self _ _
  exact Condition.ext pending.symm rfl rfl bound.symm

end Sample

/-- The error of the call is reported, and neither of the two before it. -/
theorem bindImage_blames_own_errors_stale :
    let bound := (bindImage ⟨7⟩ ⟨9⟩).run Simulation.GraphicsLibrary.answer Sample.faulty
    Sample.stale.Clearable ∧ bound.2.1 = .error (.bindFailed 0x501) ∧
      Along Sample.stale bound.1 {0x501} Sample.settled ∧
        BindsImage ⟨7⟩ ⟨9⟩ Sample.stale bound.1 {0x501} bound.2.1 Sample.settled := by
  intro bound
  have run := runs_run (I := interface) Simulation.GraphicsLibrary.answer (bindImage ⟨7⟩ ⟨9⟩)
    Sample.faulty
  exact ⟨⟨rfl, by decide⟩, rfl, Sample.faulty_along,
    bindImage_blames_own_errors run Sample.faulty_along⟩

end Scanout.Gl
