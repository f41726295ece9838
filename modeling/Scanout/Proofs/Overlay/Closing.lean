import Scanout.Proofs.Overlay.Streaming

/-!
# When the end of a stream frees what is read

The end of a stream disables the plane and gives up the ring at once. A plane update has taken
effect by then. A commit that does not block has not: until it latches, the plane reads what it
showed before, and if that is a framebuffer of the ring it is destroyed too early.

`closing_keeps_iff` is the exact condition, and `closing_frees_scanned` the case that a stream with
a single frame runs into.
-/

namespace Scanout.Overlay

open Display Proc

variable {config : Config} {m left : Manager} {call : Call} {s : Screen} {plane : UInt32}

def shownFramebuffers (s : Screen) : List Resource := s.shown.map .framebuffer

theorem scanned_shown : ∀ s : Screen, ∀ r ∈ s.scanned, r ∈ shownFramebuffers s := by
  intro s r member
  rw [shownFramebuffers, Screen.shown, List.map_append]
  exact List.mem_append_left _ member

theorem shownFramebuffers_within {later s : Screen} (within : later.Within s) :
    ∀ r ∈ shownFramebuffers later, r ∈ shownFramebuffers s := by
  intro r member
  obtain ⟨f, shown, rfl⟩ := List.mem_map.mp member
  exact List.mem_map_of_mem (within.shown f shown)

theorem Call.Does.drains_or_idle {events : List (Event interface)} (sound : m.Sound config)
    (closes : call.Closes) (does : call.Does m events left) :
    m.Drains events ∨ (events = [] ∧ m.ring.slots = []) := by
  cases does with
  | presented => cases closes
  | ended drains => exact .inl drains
  | refreshed | disabled => exact closes.elim
  | idle torn => exact .inr ⟨rfl, (sound.torn torn).1⟩
  | released _ drains => exact .inl drains

theorem Manager.Drains.accepted {events : List (Event interface)} (drains : m.Drains events)
    (accepted : disableEvent m.config (.ok ()) ∈ events) :
    ∃ releases, events = disableEvent m.config (.ok ()) :: releases ∧
      requestsOf releases = m.resources.map Resource.releaseCall := by
  obtain ⟨answer, releases, rfl, given⟩ := drains.calls
  refine ⟨releases, ?_, given⟩
  rcases List.mem_cons.mp accepted with head | later
  · rw [head]
  · -- A release asks for something else, so the accepted request is not among them.
    have asked : disableRequest m.config ∈ requestsOf releases :=
      mem_requestsOf_disableEvent later
    rw [given] at asked
    obtain ⟨r, -, same⟩ := List.mem_map.mp asked
    have released := released?_releaseCall r
    rw [same, (neutral_disableRequest m.config).1] at released
    cases released

theorem disableBatch_value? (plane : UInt32) :
    (disableBatch plane).value? (.plane plane) Property.fbId = some 0 := by
  simp [disableBatch, Batch.value?, Batch.set, Batch.empty, Property.fbId, Property.crtcId]

/-- An accepted request to disable the plane: a plane update has taken effect, a commit will. -/
theorem after_disableEvent (config : Config) (s : Screen) :
    s.after config.targets.videoPlane (.event (disableEvent config (.ok ())))
      = match config.strategy with
        | .legacy => s.turnTo none
        | .atomic => s.await none := by
  unfold disableEvent
  cases config.strategy with
  | legacy => exact if_pos rfl
  | atomic => exact Screen.answer_commit (disableBatch_value? _)

/-- Once a request to disable the plane is accepted, the plane reads at most what it was to show,
and that only if the request was a commit. -/
theorem disabled_shown {f : FramebufferId}
    (free : (Moment.event (disableEvent config (.ok ()))).unblocked = true → s.pending = none)
    (shown : f ∈ (s.after config.targets.videoPlane (.event (disableEvent config (.ok ())))).shown) :
    config.strategy = .atomic ∧ s.latest = some f := by
  rw [after_disableEvent] at shown
  unfold disableEvent at free
  cases strategy : config.strategy with
  | legacy =>
    rw [strategy] at shown
    cases shown
  | atomic =>
    rw [strategy] at shown free
    rw [Screen.latest_of_settled (free rfl)]
    exact ⟨rfl, by simpa using shown⟩

theorem framebuffer_mem_resources {f : FramebufferId} :
    .framebuffer f ∈ m.resources ↔ ∃ g ∈ m.ring.slots, g.framebuffer = some f := by
  simp [Manager.resources, Manager.sessionResources, Generation.resources, HandleSet.resources]

/-- Only latches come before the request of a drain that is accepted, and only releases after it. -/
theorem exists_of_drains {moments : List Moment} (sound : m.Sound config)
    (drains : m.Drains (eventsOf moments))
    (accepted : disableEvent config (.ok ()) ∈ eventsOf moments) :
    ∃ waits rest, moments = waits ++ .event (disableEvent config (.ok ())) :: rest ∧
      eventsOf waits = [] ∧
      requestsOf (eventsOf rest) = m.resources.map Resource.releaseCall := by
  rw [← sound.config_eq] at accepted
  obtain ⟨releases, split, given⟩ := drains.accepted accepted
  rw [sound.config_eq, ← List.singleton_append] at split
  obtain ⟨first, last, rfl, disabling, releasing⟩ := exists_of_eventsOf_append split
  obtain ⟨waits, idles, rfl, waiting, idle⟩ := exists_of_eventsOf_singleton disabling
  refine ⟨waits, idles ++ last, List.append_assoc _ _ _, waiting, ?_⟩
  rw [eventsOf_append, idle, releasing, List.nil_append, given]

/-- A drain whose disable request is accepted is safe if nothing of the ring was to be shown, or the
request was a plane update. -/
theorem keeps_of_drains {moments : List Moment} (sound : m.Sound config)
    (drains : m.Drains (eventsOf moments))
    (accepted : disableEvent config (.ok ()) ∈ eventsOf moments)
    (orderly : Orderly config.targets.videoPlane s moments)
    (harmless : config.strategy = .legacy ∨
      ∀ g ∈ m.ring.slots, ∀ f, g.framebuffer = some f → s.latest ≠ some f) :
    Keeps Screen.scanned config.targets.videoPlane s moments := by
  obtain ⟨waits, rest, rfl, waiting, given⟩ := exists_of_drains sound drains accepted
  obtain ⟨-, free, -⟩ := orderly_append.mp orderly
  have movements := movementsOf_of_releases given
  -- Latches before the request only take from what is read, and all releases come after it.
  obtain ⟨keepsWaits, within⟩ : Keeps Screen.scanned config.targets.videoPlane s waits ∧
    (s.run config.targets.videoPlane waits).Within s := keeps_of_idle waiting
  refine keeps_append.mpr ⟨keepsWaits, fun r given => ?_, ?_⟩
  · have moved := Moment.mem_released?.mp given
    simp at moved
  · refine (keeps_of_still shownFramebuffers_within (still_of_releases given) ?_ ?_).1.mono
      scanned_shown
    · rw [movements]
      simp
    · intro r released guarded
      rw [movements, List.mem_map] at released
      obtain ⟨_, member, ⟨⟩⟩ := released
      obtain ⟨f, shown, rfl⟩ := List.mem_map.mp guarded
      obtain ⟨atomic, latest⟩ := disabled_shown free shown
      rcases harmless with legacy | absent
      · rw [legacy] at atomic
        cases atomic
      · obtain ⟨g, kept, same⟩ := framebuffer_mem_resources.mp member
        exact absent g kept f same (within.latest ▸ latest)

/-- A device that takes every submission and fails at everything else. -/
def submitOnly : (request : Request) → interface.Answer request
  | .setPlane _ | .commit .. => .ok ()
  | _ => .error (.reported "gone")

theorem accepted_of_submitOnly {α : Type} {p : Program α} {answer : Except DeviceError Unit}
    (member : disableEvent config answer
      ∈ (p.run (fun request (_ : Unit) => (submitOnly request, ())) ()).1) : answer = .ok () := by
  unfold disableEvent at member
  cases strategy : config.strategy with
  | legacy =>
    rw [strategy] at member
    exact answered_run (P := fun request a => a = submitOnly request) (fun _ _ => rfl) member
  | atomic =>
    rw [strategy] at member
    exact answered_run (P := fun request a => a = submitOnly request) (fun _ _ => rfl) member

/-- The end of a stream whose ring is not empty can have its disable request accepted. -/
theorem exists_drain (sound : m.Sound config) (closes : call.Closes) {g : Generation}
    (kept : g ∈ m.ring.slots) :
    ∃ releases left, (call.program m).Runs (disableEvent config (.ok ()) :: releases) left ∧
      requestsOf releases = m.resources.map Resource.releaseCall := by
  have run := runs_run (I := interface) (fun request _ => (submitOnly request, ()))
    (call.program m) ()
  rcases (Call.does run).drains_or_idle sound closes with drains | ⟨-, empty⟩
  · obtain ⟨answer, releases, events_eq, given⟩ := drains.calls
    rw [sound.config_eq] at events_eq
    have accepted : answer = .ok () :=
      accepted_of_submitOnly (events_eq ▸ List.mem_cons_self)
    rw [accepted] at events_eq
    exact ⟨releases, _, events_eq ▸ run, given⟩
  · rw [empty] at kept
    cases kept

/-- The end of a stream is safe for what is read, whatever the order of its calls and the latches,
if and only if the strategy is the legacy one or nothing of the ring is to be shown. -/
theorem closing_keeps_iff (reachable : Reachable config m) (closes : call.Closes) (s : Screen) :
    (∀ moments left, (call.program m).Runs (eventsOf moments) left →
      disableEvent config (.ok ()) ∈ eventsOf moments →
      Orderly config.targets.videoPlane s moments →
      Keeps Screen.scanned config.targets.videoPlane s moments) ↔
    (config.strategy = .legacy ∨
      ∀ g ∈ m.ring.slots, ∀ f, g.framebuffer = some f → s.latest ≠ some f) := by
  obtain ⟨acts, events, life⟩ := reachable
  have sound := life.sound m rfl
  constructor
  · intro safe
    cases strategy : config.strategy with
    | legacy => exact .inl rfl
    | atomic =>
      refine .inr fun g kept f framebuffer latest => ?_
      obtain ⟨releases, left, run, given⟩ := exists_drain sound closes kept
      have still := still_of_releases given
      -- What is pending latches, the request is accepted, and nothing latches before the releases.
      have orderly : Orderly config.targets.videoPlane s
          (.latch :: .event (disableEvent config (.ok ())) :: releases.map .event) :=
        ⟨fun unblocked => (nomatch unblocked), fun _ => s.latch_settled.1,
          orderly_of_still (by simpa using still)⟩
      have keeps := safe _ left (by simpa using run) (by simp) orderly
      have destroyed : .release (.framebuffer f) ∈ movementsOf releases := by
        rw [movementsOf_of_releases given]
        exact List.mem_map_of_mem (framebuffer_mem_resources.mpr ⟨g, kept, framebuffer⟩)
      refine not_scanned_of_keeps still keeps.2.2 destroyed ?_
      have disabled := after_disableEvent config s.latch
      rw [strategy] at disabled
      change _ ∈ (Screen.after _ s.latch _).scanned
      rw [disabled, Screen.scanned, Screen.await_current, s.latch_settled.2, latest]
      exact List.mem_singleton_self _
  · intro harmless moments left run accepted orderly
    rcases (Call.does run).drains_or_idle sound closes with drains | ⟨idle, -⟩
    · exact keeps_of_drains sound drains accepted orderly harmless
    · rw [idle] at accepted
      cases accepted

/-- The condition for the manager that shows one image. -/
theorem closing_keeps_iff_one_frame :
    Reachable Sample.config Sample.showing.2.1.manager ∧ Call.uninit.Closes ∧
    ((∀ moments left, (Call.uninit.program Sample.showing.2.1.manager).Runs (eventsOf moments) left →
      disableEvent Sample.config (.ok ()) ∈ eventsOf moments → Orderly 63 Sample.dark moments →
      Keeps Screen.scanned 63 Sample.dark moments) ↔
    (Sample.config.strategy = .legacy ∨
      ∀ g ∈ Sample.showing.2.1.manager.ring.slots, ∀ f, g.framebuffer = some f →
        Sample.dark.latest ≠ some f)) := by
  have reachable : Reachable Sample.config Sample.showing.2.1.manager := ⟨_, _, Sample.shown_life⟩
  have closes : Call.uninit.Closes := trivial
  exact ⟨reachable, closes, closing_keeps_iff reachable closes Sample.dark⟩

/-- One image is on the plane when the stream ends. The request to disable the plane is accepted, and
the image's framebuffer is destroyed before that latches, while it is still read. -/
theorem closing_frees_scanned :
    ∃ moments left, Reachable Sample.config Sample.showing.2.1.manager ∧
      ((Call.present none Sample.area Sample.area .empty).program
        Sample.showing.2.1.manager).Runs (eventsOf moments) left ∧
      disableEvent Sample.config (.ok ()) ∈ eventsOf moments ∧
      Orderly 63 (Sample.dark.run 63 Sample.firstFrame) moments ∧
      ¬ Keeps Screen.scanned 63 (Sample.dark.run 63 Sample.firstFrame) moments := by
  have run := runs_run (I := interface) Simulation.DisplayDevice.answer
    ((Call.present none Sample.area Sample.area .empty).program Sample.showing.2.1.manager)
    Sample.showing.2.2
  rw [← eventsOf_map_event (Proc.run _ _ _).1] at run
  exact ⟨_, _, ⟨_, _, Sample.shown_life⟩, run, List.mem_cons_self, by decide, by decide⟩

end Scanout.Overlay
