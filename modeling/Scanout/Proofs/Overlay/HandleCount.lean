import Scanout.Proofs.Overlay.History

/-!
# When the reported number of handles is right

A manager's statistics hold the number of its handles. It is taken anew when a frame is shown, when
an import fails and when a stream ends. A call that fails later, at its framebuffer, its blob or its
plane update, leaves it as it was; if the ring was full, the oldest generation has given way by
then, and the number is too high until it is taken again.

`reported_handles_iff` says that this is the only way in which it can be wrong.
-/

namespace Scanout.Overlay

open Display Proc

/-- A fault of a call that had imported its frame. -/
inductive FailsLate : Fault → Prop where
  | framebuffer (size : Size) (cause : DeviceError) :
      FailsLate (.refused (.framebufferFailed size cause))
  | blob (cause : DeviceError) : FailsLate (.refused (.blobFailed cause))
  | update (plane framebuffer : UInt32) (cause : DeviceError) :
      FailsLate (.refused (.planeUpdateFailed plane framebuffer cause))

theorem FailsLate.kind? {fault : Fault} (late : FailsLate fault) :
    fault.kind? = some .importing ∨ fault.kind? = some .commit := by
  cases late with
  | framebuffer => exact .inl rfl
  | blob | update => exact .inr rfl

/-- The call failed after the import, and the oldest generation of a full ring had given way. -/
def Turn.Lapses (t : Turn) : Prop :=
  t.before.ring.size = t.before.ring.depth ∧
    ∃ fault, t.reply.outcome = .error fault ∧ FailsLate fault

inductive Turn.Recounts (t : Turn) : Prop where
  | shown {image : Image} (shown : t.shown? = some image)
  | unimported {object : Nat} {cause : DeviceError}
      (failed : t.reply.outcome = .error (.refused (.objectImportFailed object cause)))
  | closed (closes : t.asked.Closes)

namespace Manager

variable {m left : Manager} {image : Image} {src dst : Rect} {batch : Batch}
  {events : List (Event interface)} {p : Presentation}

/-- What a presentation makes of the number of handles, by the way it ends. -/
inductive Reckons (m : Manager) : Except Fault Unit → Manager → Prop where
  | counted {outcome : Except Fault Unit} {left : Manager}
      (why : outcome = .ok () ∨
        ∃ object cause, outcome = .error (.refused (.objectImportFailed object cause)))
      (counted : left.stats.liveHandles = left.liveHandles) : Reckons m outcome left
  | checked {fault : Fault} {left : Manager} (checked : fault.FromCheck)
      (stats_eq : left.stats.liveHandles = m.stats.liveHandles) (ring_eq : left.ring = m.ring) :
      Reckons m (.error fault) left
  | late {fault : Fault} {left : Manager} (late : FailsLate fault)
      (stats_eq : left.stats.liveHandles = m.stats.liveHandles)
      (ring_eq : left.ring = m.ring.makeRoom.2) : Reckons m (.error fault) left

theorem Submits.failsLate {color : Color} {g : Generation} {geometry : PlaneGeometry}
    {e : PresentError} (submitted : Submits m color g geometry batch events left (.error e)) :
    FailsLate (.refused e) := by
  cases submitted with
  | blobFailed => exact .blob _
  | updateFailed => exact .update _ _ _

theorem Presents.reckons (presents : m.resumed.Presents image src dst batch events p) :
    m.Reckons p.outcome p.manager := by
  cases presents with
  | refused asks refuses => exact .checked refuses.fromCheck rfl rfl
  | importFailed prepares importing =>
    obtain ⟨object, fd, cause, rfl, -⟩ := HandleSet.ofPlanes_error importing
    exact .counted (.inr ⟨object, cause, rfl⟩) rfl
  | framebufferFailed => exact .late (.framebuffer _ _) rfl rfl
  | submitFailed prepares importing submitted =>
    have late := submitted.failsLate
    obtain ⟨hdr, reported, rfl⟩ := submitted.left_eq
    exact .late late rfl rfl
  | shown => exact .counted (.inl rfl) rfl

structure Tallied (m : Manager) : Prop where
  le : m.liveHandles ≤ m.stats.liveHandles
  /-- Every generation that is kept has handles. -/
  held : ∀ g ∈ m.ring.slots, 0 < g.handles.size
  torn : m.tornDown = true → m.stats.liveHandles = 0 ∧ m.ring.slots = []

theorem liveHandles_makeRoom (m : Manager) :
    m.liveHandles = Generation.handleCount m.ring.makeRoom.1.toList
      + Generation.handleCount m.ring.makeRoom.2.slots := by
  rw [liveHandles, ← Ring.makeRoom_slots, Generation.handleCount_append]

theorem Tallied.lost_pos (tallied : m.Tallied) (full : m.ring.size = m.ring.depth) :
    0 < Generation.handleCount m.ring.makeRoom.1.toList := by
  obtain ⟨oldest, rest, slots, taken, -⟩ := Ring.makeRoom_of_full full
  rw [taken]
  simpa [Generation.handleCount] using tallied.held oldest (by simp [slots])

theorem Tallied.held_of_presents (tallied : m.Tallied)
    (presents : m.resumed.Presents image src dst batch events p) :
    ∀ g ∈ p.manager.ring.slots, 0 < g.handles.size := by
  have kept : ∀ g ∈ m.ring.makeRoom.2.slots, 0 < g.handles.size := fun g member =>
    tallied.held g (Sound.mem_slots_of_makeRoom member)
  cases presents with
  | refused => exact tallied.held
  | importFailed prepares importing =>
    obtain ⟨object, fd, cause, rfl, -⟩ := HandleSet.ofPlanes_error importing
    exact kept
  | framebufferFailed => exact kept
  | submitFailed prepares importing submitted =>
    obtain ⟨hdr, reported, rfl⟩ := submitted.left_eq
    exact kept
  | shown prepares importing submitted =>
    obtain ⟨hdr, reported, rfl⟩ := submitted.left_eq
    intro g member
    rw [slots_installed m.ring.makeRoom_makeRoom] at member
    rcases List.mem_append.mp member with old | new
    · exact kept g old
    · rw [List.mem_singleton.mp new]
      exact HandleSet.size_pos_of_ofPlanes importing

theorem Tallied.of_empty (slots : m.ring.slots = []) (none : m.stats.liveHandles = 0) :
    m.Tallied := by
  refine ⟨?_, ?_, fun _ => ⟨none, slots⟩⟩
  · rw [liveHandles, slots, none]
    rfl
  · rw [slots]
    exact fun g member => absurd member List.not_mem_nil

theorem Tallied.presented (tallied : m.Tallied)
    (presents : m.resumed.Presents image src dst batch events p) : p.manager.Tallied := by
  have idle : p.manager.tornDown ≠ true := by simp [presents.keeps, resumed]
  refine ⟨?_, tallied.held_of_presents presents, fun torn => absurd torn idle⟩
  have reckons := presents.reckons
  generalize p.outcome = outcome at reckons
  cases reckons with
  | counted _ counted => exact counted.ge
  | checked _ stats_eq ring_eq =>
    rw [stats_eq, liveHandles, ring_eq]
    exact tallied.le
  | late _ stats_eq ring_eq =>
    have le := tallied.le
    rw [liveHandles_makeRoom] at le
    rw [stats_eq, liveHandles, ring_eq]
    exact (Nat.le_add_left _ _).trans le

end Manager

namespace Turn

def Tallies (t : Turn) : Prop :=
  Tracks Lapses Recounts t (t.before.stats.liveHandles = t.before.liveHandles)
    (t.reply.manager.stats.liveHandles = t.reply.manager.liveHandles)

variable {t : Turn}

theorem Tallies.same (whole : ¬ t.Lapses) (silent : ¬ t.Recounts)
    (stats_eq : t.reply.manager.stats.liveHandles = t.before.stats.liveHandles)
    (live_eq : t.reply.manager.liveHandles = t.before.liveHandles) : t.Tallies :=
  .kept whole silent (by rw [stats_eq, live_eq])

theorem whole_of_ok (outcome : t.reply.outcome = .ok ()) : ¬ t.Lapses := by
  rintro ⟨-, fault, failed, -⟩
  rw [outcome] at failed
  cases failed

/-- A turn that neither shows a frame nor ends the stream takes the number anew only if its import
has failed. -/
theorem silent_of_error {fault : Fault} (opens : ¬ t.asked.Closes)
    (failed : t.reply.outcome = .error fault)
    (other : ∀ object cause, fault ≠ .refused (.objectImportFailed object cause)) :
    ¬ t.Recounts := by
  intro recounts
  cases recounts with
  | shown shown =>
    obtain ⟨_, _, _, -, outcome⟩ := shown?_eq_some.mp shown
    rw [outcome] at failed
    cases failed
  | unimported unimported =>
    rw [unimported] at failed
    cases failed
    exact other _ _ rfl
  | closed closes => exact opens closes

theorem silent_of_ok (unshown : t.shown? = none) (opens : ¬ t.asked.Closes)
    (outcome : t.reply.outcome = .ok ()) : ¬ t.Recounts := by
  intro recounts
  cases recounts with
  | shown shown =>
    rw [unshown] at shown
    cases shown
  | unimported unimported =>
    rw [outcome] at unimported
    cases unimported
  | closed closes => exact opens closes

theorem tallies_presented {m : Manager} (tallied : m.Tallied) {image : Image} {src dst : Rect}
    {batch : Batch} {events : List (Event interface)} {p : Presentation}
    (reckons : m.Reckons p.outcome p.manager) :
    Tallies ⟨m, .present (some image) src dst batch, events, p⟩ := by
  have opens : ¬ (Call.present (some image) src dst batch).Closes := Option.some_ne_none image
  generalize given : p.outcome = outcome at reckons
  cases reckons with
  | counted why counted =>
    rcases why with rfl | ⟨object, cause, rfl⟩
    · exact .restored (whole_of_ok given) (.shown (shown?_eq_some.mpr ⟨_, _, _, rfl, given⟩)) counted
    · refine .restored ?_ (.unimported given) counted
      rintro ⟨-, fault, failed, late⟩
      obtain rfl : fault = _ := Except.error.inj (failed.symm.trans given)
      cases late
  | @checked fault _ checked stats_eq ring_eq =>
    obtain ⟨notImporting, notCommit⟩ := checked.kind?_ne
    refine .same ?_ (silent_of_error opens given ?_) stats_eq ?_
    · rintro ⟨-, other, failed, late⟩
      obtain rfl : other = fault := Except.error.inj (failed.symm.trans given)
      exact late.kind?.elim notImporting notCommit
    · rintro object cause rfl
      exact notImporting rfl
    · simp only [Manager.liveHandles, ring_eq]
  | @late fault _ late stats_eq ring_eq =>
    by_cases full : m.ring.size = m.ring.depth
    · refine .broken ⟨full, fault, given, late⟩ (ne_of_gt ?_)
      have le := tallied.le
      have lost := tallied.lost_pos full
      rw [Manager.liveHandles_makeRoom] at le
      simp only [Manager.liveHandles, ring_eq, stats_eq]
      exact Nat.lt_of_lt_of_le (Nat.lt_add_of_pos_left lost) le
    · rw [Ring.makeRoom_of_room full] at ring_eq
      refine .same (fun lapses => full lapses.1) (silent_of_error opens given ?_) stats_eq ?_
      · rintro object cause rfl
        cases late
      · simp only [Manager.liveHandles, ring_eq]

theorem Takes.tallies (takes : Takes t) (tallied : t.before.Tallied) :
    t.reply.manager.Tallied ∧ t.Tallies := by
  cases takes with
  | presented presents =>
    exact ⟨tallied.presented presents, tallies_presented tallied presents.reckons⟩
  | ended | released =>
    exact ⟨.of_empty rfl rfl, .restored (whole_of_ok rfl) (.closed (by trivial)) rfl⟩
  | refreshed =>
    exact ⟨⟨tallied.le, tallied.held, tallied.torn⟩,
      .same (whole_of_ok rfl) (silent_of_ok rfl id rfl) rfl rfl⟩
  | disabled => exact ⟨tallied, .same (whole_of_ok rfl) (silent_of_ok rfl id rfl) rfl rfl⟩
  | @idle m torn =>
    obtain ⟨none, slots⟩ := tallied.torn torn
    refine ⟨tallied, .restored (whole_of_ok rfl) (.closed trivial) ?_⟩
    change m.stats.liveHandles = m.liveHandles
    rw [none, Manager.liveHandles, slots]
    rfl

end Turn

/-- At any time, and however the device has behaved: the reported number of handles is that of the
generations that are held, if and only if every call that failed after its import on a full ring has
since been followed by a frame that was shown, by an import that failed, or by the end of a
stream. -/
theorem reported_handles_iff {config : Config} {opening : List (Event interface)} {start m : Manager}
    (creating : (Manager.create config).Runs opening (.ok start)) {turns : List Turn}
    (history : History start turns m) :
    m.stats.liveHandles = m.liveHandles ↔ Mended Turn.Lapses Turn.Recounts turns := by
  obtain ⟨size, panel, rfl⟩ := (Manager.create_runs creating).2.2 start rfl
  have begins : (Manager.fresh config size panel).Tallied := .of_empty rfl rfl
  exact (history.iff_mended (P := fun m => m.stats.liveHandles = m.liveHandles) ⟨begins, rfl⟩
    fun _ run => (Call.takes run).tallies).2

/-- Three frames fill the ring, and the number of their handles is right. -/
theorem reported_handles_iff_full_ring :
    ∃ turns m, (Manager.create Sample.config).Runs Sample.creation (.ok Sample.created) ∧
      History Sample.created turns m ∧ m.stats.liveHandles = 3 ∧
      (m.stats.liveHandles = m.liveHandles ↔ Mended Turn.Lapses Turn.Recounts turns) := by
  have history := Sample.calls_history [Sample.frame, Sample.frame, Sample.frame] Sample.created
    Sample.device
  exact ⟨_, _, Sample.creation_runs, history, by decide,
    reported_handles_iff Sample.creation_runs history⟩

/-- The framebuffer of a fourth frame fails. The oldest of three generations has given way, and its
handle is still reported. -/
theorem reported_handles_too_high :
    ∃ turns m, (Manager.create Sample.config).Runs Sample.creation (.ok Sample.created) ∧
      History Sample.created turns m ∧ turns.map Turn.asked = List.replicate 4 Sample.frame ∧
      m.stats.liveHandles = 3 ∧ m.liveHandles = 2 := by
  have history := Sample.calls_history (List.replicate 4 Sample.frame) Sample.created
    { Sample.device with failures := [⟨"add_framebuffer", 3, 1, "add_framebuffer rejected"⟩] }
  exact ⟨_, _, Sample.creation_runs, history, rfl, by decide, by decide⟩

end Scanout.Overlay
