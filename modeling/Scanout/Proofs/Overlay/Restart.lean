import Scanout.Proofs.Overlay.Accounting
import Scanout.Proofs.Overlay.Session
import Scanout.Proofs.Overlay.StreamEnd

/-!
# Releasing an overlay, and using it again

A manager that has been released holds nothing, and releasing it again is idle until an image is
presented. From then on it is a manager like a new one: its next release gives back all that has
been acquired, and the first frame that it shows begins a stream.

All of this rests on one flag. `Turn.Takes.tracks_torn` says which turns clear it and which set it,
and `History.torn_iff` reads the flag off a history.
-/

namespace Scanout.Overlay

open Display Proc

def Call.Offers : Call → Prop
  | .present image .. => image ≠ none
  | .refreshDisplaySize | .disablePlane | .uninit => False

def Turn.Offers (t : Turn) : Prop := t.asked.Offers

def Turn.Releases (t : Turn) : Prop := t.asked = .uninit

variable {config : Config} {start m left now : Manager} {turns : List Turn}
  {events : List (Event interface)}

theorem Turn.Takes.tracks_torn {t : Turn} (takes : Turn.Takes t) :
    Tracks Turn.Offers Turn.Releases t (t.before.tornDown = true)
      (t.reply.manager.tornDown = true) := by
  cases takes with
  | presented presents =>
    refine .broken (Option.some_ne_none _) ?_
    rw [presents.keeps.2.2]
    exact Bool.false_ne_true
  | ended => exact .kept (fun offers => offers rfl) nofun Iff.rfl
  | refreshed | disabled => exact .kept id nofun Iff.rfl
  | idle torn => exact .restored id rfl torn
  | released => exact .restored id rfl rfl

/-- A manager that was released is so again exactly if it has been released since it was last asked
to present an image. -/
theorem History.torn_iff (sound : start.Sound config) (torn : start.tornDown = true)
    (history : History start turns now) :
    now.tornDown = true ↔ Mended Turn.Offers Turn.Releases turns :=
  (history.iff_mended (P := fun m => m.tornDown = true) ⟨sound, torn⟩ fun _ run before =>
    ⟨before.does (Call.does_of_reply run), (Call.takes run).tracks_torn⟩).2

theorem History.settles (history : History start turns now) :
    Settles start.resources (movementsOf (journal turns)) now.resources := by
  induction history with
  | nil => exact .nil _
  | concat _ run ih =>
    rw [journal_append, journal_cons, journal_nil, List.append_nil, movementsOf_append]
    exact ih.append (Call.does_of_reply run).settles

structure Manager.Bare (m : Manager) : Prop where
  slots_eq : m.ring.slots = []
  hdr_eq : m.hdr = none

theorem Manager.Bare.resources_eq (bare : m.Bare) : m.resources = [] := by
  rw [resources, sessionResources, bare.slots_eq, bare.hdr_eq]
  rfl

theorem Turn.Takes.bare {t : Turn} (takes : Turn.Takes t) (bare : t.before.Bare)
    (unshown : t.shown? = none) : t.reply.manager.Bare := by
  cases takes with
  | @presented m image src dst batch events p presents =>
    cases outcome : p.outcome with
    | ok _ =>
      rw [Turn.shown?_eq_some.mpr ⟨src, dst, batch, rfl, outcome⟩] at unshown
      cases unshown
    | error fault =>
      have fails := presents.fails outcome
      obtain ⟨lost, slots, -⟩ := fails.lost
      rw [show m.resumed.ring.slots = [] from bare.slots_eq] at slots
      exact ⟨(List.append_eq_nil_iff.mp slots.symm).2, fails.hdr_eq.trans bare.hdr_eq⟩
  | ended | released => exact ⟨rfl, rfl⟩
  | refreshed | disabled | idle => exact ⟨bare.slots_eq, bare.hdr_eq⟩

theorem History.bare (bare : start.Bare) (history : History start turns now)
    (unshown : ∀ t ∈ turns, t.shown? = none) : now.Bare := by
  induction history with
  | nil => exact bare
  | @concat turns t past run ih =>
    simp only [List.forall_mem_append, List.forall_mem_singleton] at unshown
    exact (Call.takes run).bare (ih unshown.1) unshown.2

/-- What releases a manager that is in use, after some turns in which it began with nothing. -/
structure Clears (now : Manager) (turns : List Turn) (events : List (Event interface)) : Prop where
  /-- The plane is disabled, and then all that is held is given back. -/
  calls : Manager.EndCalls now.config now (requestsOf events)
  /-- By then everything has been given back, once for each time that it was handed out. -/
  balanced : (acquiredOf (movementsOf (journal turns ++ events))).Perm
    (releasedOf (movementsOf (journal turns ++ events)))

theorem Manager.Drains.clears (sound : now.Sound config) (bare : start.Bare)
    (history : History start turns now) (drains : now.Drains events) : Clears now turns events where
  calls := drains.endCalls (sound.config_eq ▸ sound)
  balanced := by
    have settles := history.settles
    rw [bare.resources_eq] at settles
    have balance := (settles.append drains.settles).balance
    rw [← movementsOf_append, Multiset.coe_nil, Multiset.zero_add, Multiset.zero_add] at balance
    exact Multiset.coe_eq_coe.mp balance

/-- The first frame of a stream, if it is shown: the mode is read again, and by commits a blob is
made for it. -/
structure Begins (m : Manager) (image : Image) (events : List (Event interface)) (p : Presentation) :
    Prop where
  mode : ∃ answer rest, events = .answered (.crtcModeSize m.config.targets.crtc) answer :: rest ∧
    p.manager.displaySize = answer.toOption.join
  session : m.config.strategy = .atomic → p.outcome = .ok () → ∃ blob,
    blobCallsOf events = [.made (HdrMetadata.ofColor image.color).toBytes blob] ∧
    p.manager.hdr = some ⟨HdrMetadata.ofColor image.color, blob⟩

theorem Manager.Presents.begins {image : Image} {src dst : Rect} {batch : Batch} {p : Presentation}
    (presents : m.resumed.Presents image src dst batch events p) (bare : m.Bare) :
    Begins m image events p where
  mode := by
    obtain ⟨query, rest, rfl, asks, -⟩ := presents.asks
    have first : m.ring.isEmpty = true := by simp [Ring.isEmpty, bare.slots_eq]
    generalize p.manager.displaySize = size at asks
    cases asks with
    | kept streaming => cases first.symm.trans streaming
    | asked => exact ⟨_, _, rfl, rfl⟩
  session atomic shown := by
    obtain ⟨session, g, staged⟩ := presents.stages atomic shown
    obtain ⟨opening, opens, calls⟩ := staged.opens
    cases opens with
    | kept running => cases bare.hdr_eq.symm.trans running
    | @opened blob fresh => exact ⟨blob, calls, staged.hdr_eq⟩

/-- A manager that has been released, as it may be used from then on. -/
structure Restartable (left : Manager) : Prop where
  bare : left.Bare
  /-- Releasing or dropping it does nothing, as long as it has been released since it was last asked
  to present an image. -/
  idle : ∀ turns now, History left turns now → Mended Turn.Offers Turn.Releases turns →
    (∀ events after, now.uninit.Runs events after → events = [] ∧ after = now) ∧
      ∀ events, now.drop.Runs events () → events = []
  /-- Otherwise everything is given back. -/
  clears : ∀ turns now, History left turns now → ¬ Mended Turn.Offers Turn.Releases turns →
    (∀ events after, now.uninit.Runs events after → Clears now turns events ∧ after.Bare) ∧
      ∀ events, now.drop.Runs events () → Clears now turns events
  /-- As long as nothing has been shown, an image begins a stream. -/
  begins : ∀ turns now, History left turns now → (∀ t ∈ turns, t.shown? = none) →
    ∀ (image : Image) (src dst : Rect) (batch : Batch) (events : List (Event interface))
      (p : Presentation), (now.present (some image) src dst batch).Runs events p →
        Begins now image events p

theorem Manager.Sound.bare_of_torn (sound : m.Sound config) (torn : m.tornDown = true) : m.Bare :=
  ⟨(sound.torn torn).1, (sound.torn torn).2⟩

/-- Whatever has been done with a manager and however the device has behaved, a manager that is
released can be used again. -/
theorem uninit_restartable (reachable : Reachable config m) (run : m.uninit.Runs events left) :
    Restartable left := by
  obtain ⟨acts, before, life⟩ := reachable
  have does : Call.uninit.Does m events left := Call.does run
  have sound : left.Sound config := (life.sound m rfl).does does
  have torn : left.tornDown = true := by
    rcases Manager.uninit_runs run with ⟨torn, -, rfl⟩ | ⟨-, -, rfl⟩
    · exact torn
    · rfl
  have bare := sound.bare_of_torn torn
  refine ⟨bare, fun turns now history mended => ?_, fun turns now history unmended => ?_,
    fun turns now history unshown image src dst batch events p presenting =>
      (Manager.presentSome_runs presenting).begins (history.bare bare unshown)⟩
  · have idle : ∀ events after, now.uninit.Runs events after → events = [] ∧ after = now := by
      intro events after releasing
      rcases Manager.uninit_runs releasing with ⟨-, silent, unchanged⟩ | ⟨running, -⟩
      · exact ⟨silent, unchanged⟩
      · cases running.symm.trans ((history.torn_iff sound torn).mpr mended)
    refine ⟨idle, fun events dropping => ?_⟩
    obtain ⟨after, releasing⟩ :=
      Manager.drop_runs (fun torn => ((history.sound sound).torn torn).1) dropping
    exact (idle events after releasing).1
  · have clears : ∀ events after, now.uninit.Runs events after →
        Clears now turns events ∧ after.Bare := by
      intro events after releasing
      rcases Manager.uninit_runs releasing with ⟨idle, -⟩ | ⟨-, drains, rfl⟩
      · exact absurd ((history.torn_iff sound torn).mp idle) unmended
      · exact ⟨drains.clears (history.sound sound) bare history, rfl, rfl⟩
    refine ⟨clears, fun events dropping => ?_⟩
    obtain ⟨after, releasing⟩ :=
      Manager.drop_runs (fun torn => ((history.sound sound).torn torn).1) dropping
    exact (clears events after releasing).1

/-- A frame is shown, and the manager is released. -/
theorem uninit_restartable_shown :
    ∃ events left, Reachable Sample.config Sample.showing.2.1.manager ∧
      Sample.showing.2.1.manager.uninit.Runs events left ∧ requestsOf events ≠ [] ∧
      Restartable left := by
  have reachable : Reachable Sample.config Sample.showing.2.1.manager := ⟨_, _, Sample.shown_life⟩
  have run := runs_run (I := interface) Simulation.DisplayDevice.answer
    Sample.showing.2.1.manager.uninit Sample.showing.2.2
  exact ⟨_, _, reachable, run, by decide, uninit_restartable reachable run⟩

end Scanout.Overlay
