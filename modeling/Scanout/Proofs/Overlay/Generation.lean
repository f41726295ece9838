import Scanout.Overlay.Generation
import Scanout.Proofs.Import.Runs

/-!
# Runs that retire generations

Retiring a generation asks the device for one thing per resource: its framebuffer first, then its
handles in the order of the objects. No failure skips a later step.
-/

namespace Scanout.Generation

open Display Proc

def resources (g : Generation) : List Resource :=
  g.framebuffer.toList.map .framebuffer ++ g.handles.resources

theorem handleCount_append (before after : List Generation) :
    handleCount (before ++ after) = handleCount before + handleCount after := by
  induction before with
  | nil => exact (Nat.zero_add _).symm
  | cons g rest ih => rw [List.cons_append, handleCount, handleCount, ih, Nat.add_assoc]

theorem destroyFramebuffer_runs {g : Generation} {events : List (Event interface)}
    {outcome : Except PresentError Unit} (run : g.destroyFramebuffer.Runs events outcome) :
    requestsOf events = g.framebuffer.toList.map .destroyFramebuffer ∧ NoLeak events := by
  unfold destroyFramebuffer at run
  split at run
  · rename_i absent
    obtain ⟨rfl, -⟩ := runs_pure.mp run
    simp [absent]
  · rename_i framebuffer present
    obtain ⟨call, answer, later, rfl, asked, rest⟩ := runs_bind.mp run
    obtain rfl := runs_ask.mp asked
    cases answer with
    | ok destroyed =>
      obtain ⟨rfl, -⟩ := runs_pure.mp rest
      simp [present]
    | error cause =>
      obtain ⟨rfl, -⟩ := runs_pure.mp rest
      simp [present]

theorem release_runs {g left : Generation} {events : List (Event interface)}
    {outcome : Except PresentError Unit} (run : g.release.Runs events (outcome, left)) :
    left = empty ∧ requestsOf events = g.resources.map Resource.releaseCall ∧ NoLeak events := by
  obtain ⟨destroys, destroyed, later, rfl, first, rest⟩ := runs_bind.mp run
  obtain ⟨closes, ⟨closed, handles⟩, last, rfl, second, done⟩ := runs_bind.mp rest
  obtain ⟨rfl, -, emptied⟩ := runs_pure_pair.mp done
  obtain ⟨destroyRequests, destroyQuiet⟩ := destroyFramebuffer_runs first
  obtain ⟨rfl, closeRequests, closeQuiet⟩ := HandleSet.release_runs second
  refine ⟨emptied, ?_, by simp [destroyQuiet, closeQuiet]⟩
  rw [List.append_nil, requestsOf_append, destroyRequests, closeRequests, resources,
    List.map_append, List.map_map]
  rfl

theorem retire_runs {g : Generation} {reason : Retirement} {events : List (Event interface)}
    {u : Unit} (run : (g.retire reason).Runs events u) :
    requestsOf events = g.resources.map Resource.releaseCall ∧ NoLeak events := by
  obtain ⟨releases, ⟨outcome, left⟩, later, rfl, released, rest⟩ := runs_bind.mp run
  obtain ⟨rfl, requests, quiet⟩ := release_runs released
  obtain ⟨reports, _, discarded, rfl, reported, done⟩ := runs_bind.mp rest
  obtain ⟨calls, reportsQuiet⟩ := noticeFailure_noLeak (by simp) reported
  obtain ⟨rfl, -⟩ := runs_pure.mp done
  simp [requests, calls, quiet, reportsQuiet]

theorem retireAll_runs {gs : List Generation} {reason : Retirement}
    {events : List (Event interface)} {u : Unit} (run : (retireAll reason gs).Runs events u) :
    requestsOf events = (gs.flatMap resources).map Resource.releaseCall ∧ NoLeak events := by
  induction gs generalizing events with
  | nil =>
    obtain ⟨rfl, -⟩ := runs_pure.mp run
    exact ⟨rfl, noLeak_nil⟩
  | cons g rest ih =>
    obtain ⟨first, _, others, rfl, retired, later⟩ := runs_bind.mp run
    obtain ⟨requests, quiet⟩ := retire_runs retired
    obtain ⟨laterRequests, laterQuiet⟩ := ih later
    simp [requests, laterRequests, quiet, laterQuiet]

end Scanout.Generation
