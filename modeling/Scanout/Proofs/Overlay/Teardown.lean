import Scanout.Proofs.Import.Order
import Scanout.Proofs.Overlay.Generation

/-!
# The release of a generation, step by step

A release tries everything: the framebuffer first and then every handle, in the order of the
objects, whatever the device refuses. Its outcome is the first refusal. What is left has nothing to
release, so a second release asks for nothing.

`Tries` are the ways in which some targets can be tried. `closeFrom_runs_iff` finds them in the runs
over the slots of a set of handles, and `release_runs_iff` in the runs of a release: there is one for
every pattern of refusals.
-/

namespace Scanout

open Display Proc

namespace Generation

/-- Something that a release gives back to the device; a handle with the object it was imported
for. -/
inductive Target where
  | framebuffer (framebuffer : FramebufferId)
  | handle (object : Nat) (handle : GemHandle)

/-- The error of a release that the device refuses. -/
def Target.lingers : Target → DeviceError → PresentError
  | framebuffer f, cause => .framebufferLingers f cause
  | handle object _, cause => .handleLingers object cause

theorem Target.lingers_kind (t : Target) (cause : DeviceError) :
    (t.lingers cause).kind = .teardown := by
  cases t <;> rfl

/-- The call for one target, with its answer. -/
structure Attempt where
  target : Target
  answer : Except DeviceError Unit

namespace Attempt

def exchange : Attempt → Event interface
  | ⟨.framebuffer f, answer⟩ => .answered (.destroyFramebuffer f) answer
  | ⟨.handle _ h, answer⟩ => .answered (.closeHandle h) answer

/-- What is reported of it at once. -/
def notices : Attempt → List (Event interface)
  | ⟨.handle _ h, .error cause⟩ => [.reported (.closeFailed h cause)]
  | _ => []

def events (a : Attempt) : List (Event interface) := a.exchange :: a.notices

end Attempt

def firstFailure : List Attempt → Except PresentError Unit
  | [] => .ok ()
  | ⟨_, .ok ()⟩ :: rest => firstFailure rest
  | ⟨target, .error cause⟩ :: _ => .error (target.lingers cause)

/-- What there is to release in slots for the objects from `object` on. -/
def targetsFrom (object : Nat) : List (Option GemHandle) → List Target
  | [] => []
  | none :: rest => targetsFrom (object + 1) rest
  | some h :: rest => .handle object h :: targetsFrom (object + 1) rest

/-- What a generation has to release: its framebuffer, and its handles in the order of the
objects. -/
def targets (g : Generation) : List Target :=
  g.framebuffer.toList.map .framebuffer ++
    (List.range maxPlanes).filterMap fun object => (g.handles.get? object).map (.handle object)

theorem firstFailure_append (before after : List Attempt) :
    firstFailure (before ++ after) = (firstFailure before >>= fun _ => firstFailure after) := by
  induction before with
  | nil => rfl
  | cons a rest ih =>
    obtain ⟨target, cause | done⟩ := a
    · rfl
    · exact ih

theorem firstFailure_eq_ok {attempts : List Attempt} :
    firstFailure attempts = .ok () ↔ ∀ a ∈ attempts, a.answer = .ok () := by
  induction attempts with
  | nil => simp [firstFailure]
  | cons a rest ih =>
    obtain ⟨target, cause | done⟩ := a
    · simp [firstFailure]
    · simpa [firstFailure] using ih

theorem firstFailure_eq_error {attempts : List Attempt} {e : PresentError} :
    firstFailure attempts = .error e ↔ ∃ before target cause after,
      attempts = before ++ ⟨target, .error cause⟩ :: after ∧
        (∀ a ∈ before, a.answer = .ok ()) ∧ e = target.lingers cause := by
  constructor
  · intro fails
    induction attempts with
    | nil => cases fails
    | cons a rest ih =>
      obtain ⟨target, cause | done⟩ := a
      · cases fails
        exact ⟨[], target, cause, rest, rfl, by simp, rfl⟩
      · obtain ⟨before, failed, cause, after, rfl, given, same⟩ := ih fails
        exact ⟨⟨target, .ok ()⟩ :: before, failed, cause, after, rfl, by simpa using given, same⟩
  · rintro ⟨before, target, cause, after, rfl, given, rfl⟩
    rw [firstFailure_append, firstFailure_eq_ok.mpr given]
    rfl

/-- Some targets are tried in turn, and the device answers as it likes, once for each. -/
def Tries (targets : List Target) (events : List (Event interface))
    (outcome : Except PresentError Unit) : Prop :=
  ∃ attempts, attempts.map Attempt.target = targets ∧ events = attempts.flatMap Attempt.events ∧
    outcome = firstFailure attempts

variable {events : List (Event interface)} {outcome : Except PresentError Unit}

theorem tries_nil : Tries [] events outcome ↔ events = [] ∧ outcome = .ok () := by
  simp [Tries, firstFailure]

theorem tries_singleton {target : Target} : Tries [target] events outcome ↔
    ∃ answer, events = Attempt.events ⟨target, answer⟩ ∧
      outcome = firstFailure [⟨target, answer⟩] := by
  constructor
  · rintro ⟨attempts, targets, rfl, rfl⟩
    obtain ⟨⟨_, answer⟩, rfl, rfl⟩ := List.map_eq_singleton_iff.mp targets
    exact ⟨answer, List.append_nil _, rfl⟩
  · rintro ⟨answer, rfl, rfl⟩
    exact ⟨[⟨target, answer⟩], rfl, (List.append_nil _).symm, rfl⟩

theorem tries_append {targets others : List Target} : Tries (targets ++ others) events outcome ↔
    ∃ before tried after closed, events = before ++ after ∧ Tries targets before tried ∧
      Tries others after closed ∧ outcome = (tried >>= fun _ => closed) := by
  constructor
  · rintro ⟨attempts, tried, rfl, rfl⟩
    obtain ⟨before, after, rfl, first, last⟩ := List.map_eq_append_iff.mp tried
    exact ⟨_, _, _, _, List.flatMap_append, ⟨before, first, rfl, rfl⟩, ⟨after, last, rfl, rfl⟩,
      firstFailure_append before after⟩
  · rintro ⟨_, _, _, _, rfl, ⟨before, first, rfl, rfl⟩, ⟨after, last, rfl, rfl⟩, rfl⟩
    refine ⟨before ++ after, ?_, List.flatMap_append.symm, (firstFailure_append _ _).symm⟩
    rw [List.map_append, first, last]

theorem closeFrom_cons_runs {object : Nat} {h : GemHandle} {rest : List (Option GemHandle)} :
    (HandleSet.closeFrom object (some h :: rest)).Runs events outcome ↔
      ∃ before tried after closed, events = before ++ after ∧
        Tries [.handle object h] before tried ∧
        (HandleSet.closeFrom (object + 1) rest).Runs after closed ∧
        outcome = (tried >>= fun _ => closed) := by
  simp only [tries_singleton]
  constructor
  · intro run
    obtain ⟨answer, later, rfl, followed⟩ := runs_ask_bind.mp run
    cases answer with
    | ok done => exact ⟨_, _, later, outcome, rfl, ⟨.ok (), rfl, rfl⟩, followed, rfl⟩
    | error cause =>
      obtain ⟨report, _, later, rfl, reported, closing⟩ := runs_bind.mp followed
      obtain rfl := runs_notice.mp reported
      obtain ⟨closes, others, last, rfl, closed, done⟩ := runs_bind.mp closing
      obtain ⟨rfl, rfl⟩ := runs_pure.mp done
      rw [List.append_nil]
      exact ⟨_, _, closes, others, rfl, ⟨.error cause, rfl, rfl⟩, closed, rfl⟩
  · rintro ⟨_, _, later, others, rfl, ⟨answer, rfl, rfl⟩, closed, rfl⟩
    refine runs_ask_bind.mpr ⟨answer, _, rfl, ?_⟩
    cases answer with
    | ok done => exact closed
    | error cause =>
      have failing : (HandleSet.closeFrom (object + 1) rest >>= fun _ =>
          pure (firstFailure [⟨.handle object h, .error cause⟩])).Runs later _ :=
        runs_bind.mpr ⟨later, others, [], by simp, closed, runs_pure.mpr ⟨rfl, rfl⟩⟩
      exact .report failing

theorem closeFrom_runs_iff {object : Nat} {slots : List (Option GemHandle)} :
    (HandleSet.closeFrom object slots).Runs events outcome ↔
      Tries (targetsFrom object slots) events outcome := by
  induction slots generalizing object events outcome with
  | nil => exact runs_pure.trans tries_nil.symm
  | cons slot rest ih =>
    cases slot with
    | none => exact ih
    | some h =>
      have first : targetsFrom object (some h :: rest)
          = [.handle object h] ++ targetsFrom (object + 1) rest := rfl
      rw [closeFrom_cons_runs, first, tries_append]
      simp only [ih]

theorem targetsFrom_eq (object : Nat) (slots : List (Option GemHandle)) :
    targetsFrom object slots = (List.range slots.length).filterMap fun i =>
      (slots[i]?.join).map (.handle (object + i)) := by
  induction slots generalizing object with
  | nil => rfl
  | cons slot rest ih =>
    have later : (fun i => ((slot :: rest)[i + 1]?.join).map (Target.handle (object + (i + 1))))
        = fun i => (rest[i]?.join).map (.handle (object + 1 + i)) := by
      funext i
      rw [List.getElem?_cons_succ, Nat.add_assoc, Nat.add_comm 1]
    rw [List.length_cons, List.range_succ_eq_map, List.filterMap_cons, List.filterMap_map]
    cases slot with
    | none => exact (ih _).trans (congrArg (List.filterMap · _) later.symm)
    | some h => exact congrArg _ ((ih _).trans (congrArg (List.filterMap · _) later.symm))

theorem targets_eq (g : Generation) :
    g.targets = g.framebuffer.toList.map .framebuffer ++ targetsFrom 0 g.handles.slots.toList := by
  rw [targets, targetsFrom_eq, Vector.length_toList]
  simp only [Nat.zero_add, Vector.getElem?_toList]
  rfl

theorem destroyFramebuffer_runs_iff {g : Generation} :
    g.destroyFramebuffer.Runs events outcome ↔
      Tries (g.framebuffer.toList.map .framebuffer) events outcome := by
  unfold destroyFramebuffer
  cases g.framebuffer with
  | none => exact runs_pure.trans tries_nil.symm
  | some f =>
    rw [Option.toList_some, List.map_singleton, tries_singleton]
    refine runs_ask_bind.trans (exists_congr fun answer => ?_)
    cases answer with
    | ok done => simp [Attempt.events, Attempt.exchange, Attempt.notices, firstFailure]
    | error cause =>
      simp [Attempt.events, Attempt.exchange, Attempt.notices, firstFailure, Target.lingers]

/-- The runs of a release are the ways in which its targets can be tried. -/
theorem release_runs_iff {g left : Generation} :
    g.release.Runs events (outcome, left) ↔ Tries g.targets events outcome ∧ left = empty := by
  rw [targets_eq, tries_append]
  simp only [← destroyFramebuffer_runs_iff, ← closeFrom_runs_iff]
  constructor
  · intro run
    obtain ⟨destroys, destroyed, later, rfl, first, rest⟩ := runs_bind.mp run
    obtain ⟨closes, ⟨closed, handles⟩, last, rfl, second, done⟩ := runs_bind.mp rest
    obtain ⟨slots, closing, ending, rfl, third, emptied⟩ := runs_bind.mp second
    obtain ⟨rfl, rfl, rfl⟩ := runs_pure_pair.mp emptied
    obtain ⟨rfl, rfl, rfl⟩ := runs_pure_pair.mp done
    refine ⟨⟨destroys, destroyed, slots, closed, by simp, first, third, ?_⟩, rfl⟩
    cases destroyed <;> rfl
  · rintro ⟨⟨destroys, destroyed, closes, closed, rfl, first, second, rfl⟩, rfl⟩
    refine runs_bind.mpr ⟨_, _, _, rfl, first, ?_⟩
    refine runs_bind.mpr ⟨_, (closed, .empty), [], (List.append_nil _).symm, ?_, ?_⟩
    · exact runs_bind.mpr ⟨_, _, [], (List.append_nil _).symm, second, runs_pure.mpr ⟨rfl, rfl⟩⟩
    · refine runs_pure_pair.mpr ⟨rfl, ?_, rfl⟩
      cases destroyed <;> rfl

theorem exchangesOf_attempts (attempts : List Attempt) :
    exchangesOf (attempts.flatMap Attempt.events) = attempts.map Attempt.exchange := by
  induction attempts with
  | nil => rfl
  | cons a rest ih =>
    have first : exchangesOf a.events = [a.exchange] := by
      obtain ⟨target, answer⟩ := a
      cases target <;> cases answer <;> rfl
    calc exchangesOf (a.events ++ rest.flatMap Attempt.events)
        = exchangesOf a.events ++ exchangesOf (rest.flatMap Attempt.events) := callsOf_append _ _
      _ = (a :: rest).map Attempt.exchange := by
        rw [first, ih]
        rfl

theorem release_empty : empty.release = pure (.ok (), empty) := rfl

/-- What a release comes to that has made these attempts. -/
structure TriesAll (g : Generation) (attempts : List Attempt) (events : List (Event interface))
    (outcome : Except PresentError Unit) (left : Generation) : Prop where
  /-- Each resource is tried once: the framebuffer, and then the handles in the order of the
  objects. -/
  targets_eq : attempts.map Attempt.target = g.targets
  /-- Nothing else is asked of the device. -/
  exchanges_eq : exchangesOf events = attempts.map Attempt.exchange
  succeeds_iff : outcome = .ok () ↔ ∀ a ∈ attempts, a.answer = .ok ()
  fails_iff : ∀ e, outcome = .error e ↔ ∃ before target cause after,
    attempts = before ++ ⟨target, .error cause⟩ :: after ∧ (∀ a ∈ before, a.answer = .ok ()) ∧
      e = target.lingers cause
  teardown : ∀ e, outcome = .error e → e.kind = .teardown
  emptied : left.framebuffer = none ∧ (∀ object, left.handles.get? object = none) ∧
    left.image = none
  again : ∀ others second, left.release.Runs others second → others = [] ∧ second = (.ok (), left)

theorem triesAll {g : Generation} {attempts : List Attempt}
    (targets : attempts.map Attempt.target = g.targets) :
    TriesAll g attempts (attempts.flatMap Attempt.events) (firstFailure attempts) empty where
  targets_eq := targets
  exchanges_eq := exchangesOf_attempts attempts
  succeeds_iff := firstFailure_eq_ok
  fails_iff _ := firstFailure_eq_error
  teardown e fails := by
    obtain ⟨-, target, cause, -, -, -, rfl⟩ := firstFailure_eq_error.mp fails
    exact target.lingers_kind cause
  emptied := ⟨rfl, HandleSet.get?_empty, rfl⟩
  again others second run := by
    rw [release_empty] at run
    exact runs_pure.mp run

/-- However the device answers: a release tries each resource once, and its outcome is the first
refusal. All answers are possible. -/
theorem release_tries_all (g : Generation) :
    (∀ events outcome left, g.release.Runs events (outcome, left) →
      ∃ attempts, TriesAll g attempts events outcome left) ∧
    ∀ attempts : List Attempt, attempts.map Attempt.target = g.targets →
      ∃ events outcome left, g.release.Runs events (outcome, left) ∧
        TriesAll g attempts events outcome left := by
  constructor
  · intro events outcome left run
    obtain ⟨⟨attempts, targets, rfl, rfl⟩, rfl⟩ := release_runs_iff.mp run
    exact ⟨attempts, triesAll targets⟩
  · intro attempts targets
    exact ⟨_, _, _, release_runs_iff.mpr ⟨⟨attempts, targets, rfl, rfl⟩, rfl⟩, triesAll targets⟩

namespace Sample

def generation : Generation where
  framebuffer := some ⟨9⟩
  handles := ⟨#v[some ⟨5⟩, none, some ⟨6⟩, none]⟩
  image := none

def attempts : List Attempt :=
  [⟨.framebuffer ⟨9⟩, .ok ()⟩, ⟨.handle 0 ⟨5⟩, .error (.reported "busy")⟩,
    ⟨.handle 2 ⟨6⟩, .error (.reported "gone")⟩]

end Sample

theorem release_tries_all_busy :
    Sample.attempts.map Attempt.target = Sample.generation.targets ∧
      ∃ events outcome left, Sample.generation.release.Runs events (outcome, left) ∧
        TriesAll Sample.generation Sample.attempts events outcome left ∧
        outcome = .error (.handleLingers 0 (.reported "busy")) := by
  have targets : Sample.attempts.map Attempt.target = Sample.generation.targets := rfl
  obtain ⟨events, outcome, left, run, tries⟩ :=
    (release_tries_all Sample.generation).2 Sample.attempts targets
  refine ⟨targets, events, outcome, left, run, tries, (tries.fails_iff _).mpr ?_⟩
  exact ⟨[⟨.framebuffer ⟨9⟩, .ok ()⟩], .handle 0 ⟨5⟩, .reported "busy",
    [⟨.handle 2 ⟨6⟩, .error (.reported "gone")⟩], rfl, by simp, rfl⟩

end Generation

end Scanout
