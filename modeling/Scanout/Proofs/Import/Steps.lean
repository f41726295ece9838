import Scanout.Proofs.Display.Steps
import Scanout.Proofs.Import.Runs

/-!
# The steps of an import

The steps of an import are the imports of its objects, and the first that fails ends it: how the
handles that are given back again are closed has no say in it. So two imports of the same planes
make the same calls and end in the same way, if these calls are given the same answers.
-/

namespace Scanout.HandleSet

open Display Proc

variable {d : FrameDescriptor} {planes : List Plane} {s : HandleSet}
  {events others : List (Event interface)} {outcome other : Except PresentError HandleSet}

theorem Imports.stepsOf_eq (imports : Imports s events outcome) :
    stepsOf events = acquisitionsOf events := by
  refine callsOf_congr fun request asked => ?_
  rcases imports.request_cases asked with ⟨fd, rfl⟩ | ⟨h, rfl⟩ <;> rfl

theorem Imports.modeQueriesOf_eq (imports : Imports s events outcome) :
    modeQueriesOf events = [] := by
  refine callsOf_eq_nil fun request asked => ?_
  rcases imports.request_cases asked with ⟨fd, rfl⟩ | ⟨h, rfl⟩ <;> rfl

theorem refused_runs {e : PresentError}
    (run : (do s.rollBack; return .error e : Program (Except PresentError HandleSet)).Runs
      events outcome) : acquisitionsOf events = [] ∧ outcome = .error e := by
  obtain ⟨closes, _, last, rfl, rolled, done⟩ := runs_bind.mp run
  obtain ⟨rfl, rfl⟩ := runs_pure.mp done
  exact ⟨by rw [List.append_nil, acquisitionsOf_of_releases (rollBack_runs rolled).1], rfl⟩

theorem refused_agree {e : PresentError} {later rest : List (Event interface)}
    (first : (do s.rollBack; return .error e : Program (Except PresentError HandleSet)).Runs
      events outcome)
    (second : (do s.rollBack; return .error e : Program (Except PresentError HandleSet)).Runs
      others other)
    (same : SameAnswers (acquisitionsOf events ++ later) (acquisitionsOf others ++ rest)) :
    acquisitionsOf events = acquisitionsOf others ∧ outcome = other ∧ SameAnswers later rest := by
  obtain ⟨silent, rfl⟩ := refused_runs first
  obtain ⟨quiet, rfl⟩ := refused_runs second
  rw [silent, quiet] at same ⊢
  exact ⟨rfl, rfl, same⟩

/-- Two imports of the same planes that are given the same answers. The induction is on the planes,
and what follows the imports is left open. -/
theorem extend_agree {later rest : List (Event interface)}
    (first : (extend d planes s).Runs events outcome) (second : (extend d planes s).Runs others other)
    (same : SameAnswers (acquisitionsOf events ++ later) (acquisitionsOf others ++ rest)) :
    acquisitionsOf events = acquisitionsOf others ∧ outcome = other ∧ SameAnswers later rest := by
  induction planes generalizing s events others with
  | nil =>
    obtain ⟨rfl, rfl⟩ := runs_pure.mp first
    obtain ⟨rfl, rfl⟩ := runs_pure.mp second
    exact ⟨rfl, rfl, same⟩
  | cons plane planes ih =>
    rw [extend] at first second
    by_cases present : (s.get? plane.object).isSome
    · rw [if_pos present] at first second
      exact ih first second same
    rw [if_neg present] at first second
    cases found : d.object? plane.object with
    | none =>
      rw [found] at first second
      exact refused_agree first second same
    | some memory =>
      rw [found] at first second
      by_cases bound : plane.object < maxPlanes
      · dsimp only at first second
        rw [dif_pos bound] at first second
        obtain ⟨asking, answer, after, rfl, asked, went⟩ := runs_bind.mp first
        obtain ⟨askingToo, answerToo, afterToo, rfl, askedToo, wentToo⟩ := runs_bind.mp second
        obtain rfl := runs_ask.mp asked
        obtain rfl := runs_ask.mp askedToo
        -- Both have asked for the same object, so they have the same answer to go on with.
        obtain ⟨rfl, agreed⟩ := SameAnswers.answered same
        cases answer with
        | ok h =>
          obtain ⟨reporting, _, last, rfl, reported, imported⟩ := runs_bind.mp went
          obtain ⟨reportingToo, _, lastToo, rfl, reportedToo, importedToo⟩ := runs_bind.mp wentToo
          obtain rfl := runs_notice.mp reported
          obtain rfl := runs_notice.mp reportedToo
          obtain ⟨calls, ends⟩ := ih imported importedToo agreed
          exact ⟨by simp [calls], ends⟩
        | error cause =>
          obtain ⟨calls, ends⟩ := refused_agree went wentToo agreed
          exact ⟨by simp [calls], ends⟩
      · dsimp only at first second
        rw [dif_neg bound] at first second
        exact refused_agree first second same

/-- A step that fails fails the import, and nothing else does. -/
theorem Extends.failedStep (ways : Extends d planes s events outcome)
    (fits : ∀ p ∈ planes, p.object < d.objects.length) :
    (∀ next, outcome = .ok next → failedStep? events = none) ∧
      ∀ e, outcome = .error e → e.kind = .importing ∧
        ∃ fd, failedStep? events = some (.importPrimeFd fd) := by
  induction ways with
  | done => exact ⟨fun _ _ => rfl, nofun⟩
  | kept _ _ ih => exact ih fun p later => fits p (List.mem_cons_of_mem _ later)
  | imported _ _ _ _ ih => exact ih fun p later => fits p (List.mem_cons_of_mem _ later)
  | unknown absent => exact absurd absent (d.object_present (fits _ List.mem_cons_self))
  | @failed _ _ _ memory =>
    refine ⟨nofun, ?_⟩
    rintro _ ⟨⟩
    exact ⟨rfl, memory.fd, rfl⟩

end Scanout.HandleSet
