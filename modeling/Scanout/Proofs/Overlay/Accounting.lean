import Scanout.Proofs.Overlay.Classification
import Scanout.Proofs.Overlay.History

/-!
# The statistics of a manager

Each frame that is presented is counted once, by the outcome its caller is told, and each end of a
stream is counted. So the statistics of a manager are the number of its turns of each sort, from its
creation on, and what each outcome stands for is known from its steps.
-/

namespace Scanout.Overlay

open Display Proc

namespace Turn

def failure? (t : Turn) : Option ErrorKind :=
  match t.asked with
  | .present (some _) .. => returned? t.reply.outcome
  | _ => none

def endsStream (t : Turn) : Bool :=
  match t.asked with
  | .present none .. => true
  | _ => false

end Turn

/-- Every turn has been counted for what it was. -/
structure Counted (stats : Stats) (turns : List Turn) : Prop where
  framesPresented_eq : stats.framesPresented = turns.countP fun t => t.shown?.isSome
  importFailures_eq : stats.importFailures = turns.countP fun t => t.failure? = some .importing
  commitFailures_eq : stats.commitFailures = turns.countP fun t => t.failure? = some .commit
  drains_eq : stats.drains = turns.countP Turn.endsStream

theorem Manager.Presents.stats_of_ok {m : Manager} {image : Image} {src dst : Rect} {batch : Batch}
    {events : List (Event interface)} {p : Presentation}
    (presents : m.Presents image src dst batch events p) (succeeded : p.outcome = .ok ()) :
    p.manager.stats = { m.stats with
      framesPresented := m.stats.framesPresented + 1
      liveHandles := p.manager.stats.liveHandles } := by
  cases presents with
  | shown prepares importing submitted =>
    obtain ⟨hdr, reported, rfl⟩ := submitted.left_eq
    rfl
  | refused | importFailed | framebufferFailed | submitFailed => cases succeeded

structure Turn.Counts (t : Turn) : Prop where
  framesPresented_eq : t.reply.manager.stats.framesPresented
    = t.before.stats.framesPresented + if t.shown?.isSome then 1 else 0
  importFailures_eq : t.reply.manager.stats.importFailures
    = t.before.stats.importFailures + if t.failure? = some .importing then 1 else 0
  commitFailures_eq : t.reply.manager.stats.commitFailures
    = t.before.stats.commitFailures + if t.failure? = some .commit then 1 else 0
  drains_eq : t.reply.manager.stats.drains = t.before.stats.drains + if t.endsStream then 1 else 0

theorem Turn.Takes.counts {t : Turn} (takes : Turn.Takes t) : t.Counts := by
  cases takes with
  | @presented m image src dst batch events p presents =>
    cases outcome : p.outcome with
    | ok _ =>
      have shown : Turn.shown? ⟨m, .present (some image) src dst batch, events, p⟩ = some image := by
        simp only [Turn.shown?, outcome]
      have failure : Turn.failure? ⟨m, .present (some image) src dst batch, events, p⟩ = none := by
        simp only [Turn.failure?, outcome, returned?]
      have stats_eq := presents.stats_of_ok outcome
      constructor <;> rw [stats_eq] <;> simp [shown, failure, Turn.endsStream, Manager.resumed]
    | error fault =>
      have shown : Turn.shown? ⟨m, .present (some image) src dst batch, events, p⟩ = none := by
        simp only [Turn.shown?, outcome]
      have failure : Turn.failure? ⟨m, .present (some image) src dst batch, events, p⟩
          = fault.kind? := by
        simp only [Turn.failure?, outcome, returned?]
      have stats_eq := (presents.fails outcome).stats_eq
      constructor <;> rw [stats_eq] <;> simp [shown, failure, Turn.endsStream, Manager.resumed,
        importFailuresOf, commitFailuresOf]
  | ended | refreshed | disabled | idle | released => constructor <;> rfl

theorem Counted.turn {turns : List Turn} {t : Turn} (counted : Counted t.before.stats turns)
    (counts : t.Counts) : Counted t.reply.manager.stats (turns ++ [t]) where
  framesPresented_eq := by
    rw [counts.framesPresented_eq, counted.framesPresented_eq, List.countP_append,
      List.countP_singleton]
  importFailures_eq := by
    rw [counts.importFailures_eq, counted.importFailures_eq, List.countP_append,
      List.countP_singleton]
    simp
  commitFailures_eq := by
    rw [counts.commitFailures_eq, counted.commitFailures_eq, List.countP_append,
      List.countP_singleton]
    simp
  drains_eq := by
    rw [counts.drains_eq, counted.drains_eq, List.countP_append, List.countP_singleton]

theorem History.counted {start m : Manager} {turns : List Turn} (begins : Counted start.stats [])
    (history : History start turns m) : Counted m.stats turns := by
  induction history with
  | nil => exact begins
  | concat _ run ih => exact ih.turn (Call.takes run).counts

theorem Manager.Asks.of_resumed {m : Manager} {query : List (Event interface)} {size : Option Size}
    (asks : m.resumed.Asks query size) : m.Asks query size := by
  cases asks with
  | kept streaming => exact .kept streaming
  | asked first calls quiet => exact .asked first calls quiet

/-- What is known of the presentations of a manager, whatever has happened to it. -/
structure Accounted (m : Manager) (turns : List Turn) : Prop where
  counted : Counted m.stats turns
  /-- The display's size is the one that the mode query of this call has told, or was known. -/
  classified : ∀ (image : Image) (src dst : Rect) (batch : Batch) (events : List (Event interface))
    (p : Presentation), (m.present (some image) src dst batch).Runs events p →
      (∃ query rest, events = query ++ rest ∧ m.Asks query p.manager.displaySize) ∧
      Classified m.config.strategy ((m.withDisplaySize p.manager.displaySize).place src dst) image
        events p.outcome
  /-- A mode that cannot be read only leaves the frame where it was given. -/
  unread : ∀ (image : Image) (src dst : Rect) (batch : Batch) (events : List (Event interface))
    (p : Presentation), (m.present (some image) src dst batch).Runs events p →
      ∀ (crtc : UInt32) (cause : DeviceError),
        .answered (.crtcModeSize crtc) (.error cause) ∈ events →
          Classified m.config.strategy (PlaneGeometry.ofRects src dst m.config.alignment) image events
            p.outcome
  /-- Where a frame is placed alike, as it is without a surface to scale from, and its steps are
  answered alike, no other answer changes the outcome. -/
  decided : ∀ (image : Image) (src dst : Rect) (batch own : Batch)
    (events others : List (Event interface)) (p q : Presentation),
    (m.present (some image) src dst batch).Runs events p →
      (m.present (some image) src dst own).Runs others q →
      m.config.osdSize = none ∨ (m.withDisplaySize q.manager.displaySize).place src dst
        = (m.withDisplaySize p.manager.displaySize).place src dst →
      SameAnswers (stepsOf events) (stepsOf others) → q.outcome = p.outcome
  /-- The end of a stream cannot fail. -/
  ended : ∀ (src dst : Rect) (batch : Batch) (events : List (Event interface)) (p : Presentation),
    (m.present none src dst batch).Runs events p → p.outcome = .ok ()

/-- At any time, and however the device has behaved. -/
theorem outcomes_accounted {config : Config} {opening : List (Event interface)} {start m : Manager}
    {turns : List Turn} (creating : (Manager.create config).Runs opening (.ok start))
    (history : History start turns m) : Accounted m turns where
  counted := by
    obtain ⟨size, panel, rfl⟩ := (Manager.create_runs creating).2.2 start rfl
    exact history.counted ⟨rfl, rfl, rfl, rfl⟩
  classified image src dst batch events p run := by
    have presents := Manager.presentSome_runs run
    obtain ⟨query, rest, split, asks, -⟩ := presents.asks
    exact ⟨⟨query, rest, split, asks.of_resumed⟩, presents.decided.classified⟩
  unread image src dst batch events p run crtc cause unread := by
    have presents := Manager.presentSome_runs run
    have classified := presents.decided.classified
    rwa [presents.place_of_unread unread] at classified
  decided image src dst batch own events others p q run runToo alike same := by
    refine (Manager.presentSome_runs run).outcome_agree (Manager.presentSome_runs runToo) ?_ same
    exact alike.elim (fun unscaled => Manager.place_of_unscaled unscaled _ _) id
  ended src dst batch events p run := by
    obtain ⟨-, rfl⟩ := Manager.presentNone_runs run
    rfl

namespace Sample

def restarted : List Turn × Manager :=
  calls [frame, .present none area area .empty, frame] created device

def afterwards : List (Event interface) × Presentation × Unit :=
  (Call.reply restarted.2 frame).run (I := interface) (fun _ _ => (.error (.reported "gone"), ())) ()

end Sample

/-- Two frames are shown, a stream ends, and one import fails. -/
theorem outcomes_accounted_gone :
    ∃ opening turns m, (Manager.create Sample.config).Runs opening (.ok Sample.created) ∧
      History Sample.created turns m ∧
      (m.stats.framesPresented, m.stats.importFailures, m.stats.commitFailures, m.stats.drains)
        = (2, 1, 0, 1) ∧ Accounted m turns := by
  have past : History Sample.created Sample.restarted.1 Sample.restarted.2 :=
    Sample.calls_history _ _ _
  have run : (Call.reply Sample.restarted.2 Sample.frame).Runs Sample.afterwards.1
    Sample.afterwards.2.1 := runs_run (I := interface) _ _ _
  have history := past.concat (t := ⟨_, _, _, _⟩) run
  exact ⟨_, _, _, Sample.creation_runs, history, by decide,
    outcomes_accounted Sample.creation_runs history⟩

/-- A mode query that fails, and no other call with it, can be what gets a frame shown: a pixel of
the surface that would be rescaled to nothing is shown where it is given. -/
theorem outcome_of_unread_mode :
    ∃ opening read unread p q,
      (Manager.create Sample.scaled).Runs opening (.ok Sample.scaledCreated) ∧
      (Sample.scaledCreated.present (some Sample.image) Sample.area ⟨1, 1, 2, 2⟩ .empty).Runs read p ∧
      (Sample.scaledCreated.present (some Sample.image) Sample.area ⟨1, 1, 2, 2⟩ .empty).Runs
        unread q ∧
      read.filterMap failed? = [] ∧ unread.filterMap failed? = [.crtcModeSize 31] ∧
      p.outcome = .error (.refused (.badDestination ⟨1, 1, 1, 1⟩)) ∧ q.outcome = .ok () := by
  have read := Sample.presenting_runs Sample.scaledCreated Sample.image ⟨1, 1, 2, 2⟩ .empty
    Sample.smallDevice
  have unread := Sample.presenting_runs Sample.scaledCreated Sample.image ⟨1, 1, 2, 2⟩ .empty
    { Sample.smallDevice with failures := [⟨"crtc_mode_size", 0, 1, "crtc_mode_size rejected"⟩] }
  refine ⟨_, _, _, _, _, Sample.scaledCreation_runs, read, unread, ?_, ?_, ?_, ?_⟩
  all_goals decide +kernel

end Scanout.Overlay
