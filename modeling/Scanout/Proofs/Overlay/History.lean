import Scanout.Proofs.Overlay.Lifetime
import Scanout.Proofs.Proc.History

/-!
# Histories of a manager

The calls made of a manager from its creation on, each with what it handed back. `Takes` sorts the
turns of a history by what they can be, and `Turn.shown?` reads off which of them showed an image.
-/

namespace Scanout.Overlay

open Display Proc

/-- A call as a program that yields all its caller sees. A call that takes no batch hands an empty
one back. -/
def Call.reply (m : Manager) : Call → Program Presentation
  | .present image src dst batch => m.present image src dst batch
  | call => (fun left => ⟨left, .empty, .ok ()⟩) <$> call.program m

theorem Call.program_eq (m : Manager) (call : Call) :
    call.program m = Presentation.manager <$> call.reply m := by
  cases call with
  | present => rfl
  | refreshDisplaySize | disablePlane | uninit =>
    simp only [reply, Functor.map_map, id_map']

abbrev Turn : Type := Scanout.Turn interface Manager Call Presentation

abbrev History (start : Manager) (turns : List Turn) (m : Manager) : Prop :=
  Scanout.History (fun m call => Call.reply m call) Presentation.manager start turns m

namespace Turn

def shown? (t : Turn) : Option Image :=
  match t.asked, t.reply.outcome with
  | .present (some image) .., .ok () => some image
  | _, _ => none

inductive Takes : Turn → Prop where
  | presented {m : Manager} {image : Image} {src dst : Rect} {batch : Batch}
      {events : List (Event interface)} {p : Presentation}
      (presents : m.resumed.Presents image src dst batch events p) :
      Takes ⟨m, .present (some image) src dst batch, events, p⟩
  | ended {m : Manager} {src dst : Rect} {batch : Batch} {events : List (Event interface)}
      (drains : m.Drains events) :
      Takes ⟨m, .present none src dst batch, events, ⟨m.ended, m.resetBatch batch, .ok ()⟩⟩
  | refreshed {m : Manager} {events : List (Event interface)} {size : Option Size}
      (calls : requestsOf events = [.crtcModeSize m.config.targets.crtc]) :
      Takes ⟨m, .refreshDisplaySize, events, ⟨m.withDisplaySize size, .empty, .ok ()⟩⟩
  | disabled {m : Manager} {events : List (Event interface)}
      (calls : requestsOf events = [disableRequest m.config]) :
      Takes ⟨m, .disablePlane, events, ⟨m, .empty, .ok ()⟩⟩
  | idle {m : Manager} (torn : m.tornDown = true) :
      Takes ⟨m, .uninit, [], ⟨m, .empty, .ok ()⟩⟩
  | released {m : Manager} {events : List (Event interface)} (running : m.tornDown = false)
      (drains : m.Drains events) :
      Takes ⟨m, .uninit, events, ⟨m.released, .empty, .ok ()⟩⟩

end Turn

variable {m : Manager} {call : Call} {events : List (Event interface)} {p : Presentation}

theorem Call.takes (run : (call.reply m).Runs events p) :
    Turn.Takes ⟨m, call, events, p⟩ := by
  cases call with
  | present image src dst batch =>
    cases image with
    | none =>
      have ending : (m.present none src dst batch).Runs events p := run
      obtain ⟨drains, rfl⟩ := Manager.presentNone_runs ending
      exact .ended drains
    | some image => exact .presented (Manager.presentSome_runs run)
  | refreshDisplaySize =>
    obtain ⟨left, running, rfl⟩ := runs_map.mp run
    cases Call.does running with
    | refreshed _ calls => exact .refreshed calls
  | disablePlane =>
    obtain ⟨left, running, rfl⟩ := runs_map.mp run
    cases Call.does running with
    | disabled _ calls => exact .disabled calls
  | uninit =>
    obtain ⟨left, running, rfl⟩ := runs_map.mp run
    cases Call.does running with
    | idle torn => exact .idle torn
    | released idle drains => exact .released idle drains

theorem Call.does_of_reply (run : (call.reply m).Runs events p) :
    call.Does m events p.manager := by
  refine Call.does ?_
  rw [program_eq]
  exact runs_map.mpr ⟨p, run, rfl⟩

namespace Turn

theorem shown?_eq_some {t : Turn} {image : Image} :
    t.shown? = some image ↔
      ∃ src dst batch, t.asked = .present (some image) src dst batch ∧ t.reply.outcome = .ok () := by
  unfold shown?
  split
  · rename_i asked outcome
    simp [asked, outcome]
  · rename_i other
    simp only [reduceCtorEq, false_iff, not_exists, not_and]
    exact other image

end Turn

namespace History

variable {config : Config} {start : Manager} {turns : List Turn}

theorem sound (history : History start turns m) (sound : start.Sound config) : m.Sound config :=
  history.preserves sound fun _ run before => before.does (Call.does_of_reply run)

end History

theorem Manager.Sound.created {config : Config} {opening : List (Event interface)}
    {start : Manager} (creating : (create config).Runs opening (.ok start)) :
    start.Sound config := by
  obtain ⟨size, panel, rfl⟩ := (create_runs creating).2.2 start rfl
  exact .of_empty rfl rfl rfl rfl

namespace Sample

open Simulation

def calls (asked : List Call) (m : Manager) (device : DisplayDevice) : List Turn × Manager :=
  simulate (fun m call => Call.reply m call) Presentation.manager DisplayDevice.answer asked m device

theorem calls_history (asked : List Call) (m : Manager) (device : DisplayDevice) :
    History m (calls asked m device).1 (calls asked m device).2 :=
  simulate_history (I := interface) DisplayDevice.answer asked m device

def frame : Call := .present (some image) area area .empty

end Sample

end Scanout.Overlay
