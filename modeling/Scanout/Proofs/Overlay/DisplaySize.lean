import Scanout.Proofs.Overlay.Classification
import Scanout.Proofs.Overlay.FrameWrites
import Scanout.Proofs.Overlay.Window

/-!
# The size of the display during a stream

Destinations are scaled to the size of the display, so a size that changed between two frames of a
stream would make the picture jump. A manager reads the mode when it is created, when it is told to,
and for the frames of a stream until one of them is shown: `Turn.learns`. What it goes by is what it
has read last, and a frame that fails later on, or that costs the ring a generation, reads nothing.
-/

namespace Scanout.Overlay

open Display Proc

def modeQuery (crtc : UInt32) (answer : Except DeviceError (Option Size)) : Event interface :=
  .answered (.crtcModeSize crtc) answer

/-- What a query of the mode has found. A size that could not be read is unknown. -/
def foundSize : Event interface → Option Size
  | .answered (.crtcModeSize _) answer => answer.toOption.join
  | _ => none

def lastSize (events : List (Event interface)) : Option Size :=
  (modeQueriesOf events).getLast?.bind foundSize

section Queries

variable {events later : List (Event interface)} {crtc : UInt32}
  {answer : Except DeviceError (Option Size)}

theorem lastSize_append_silent (silent : modeQueriesOf later = []) :
    lastSize (events ++ later) = lastSize events := by
  rw [lastSize, modeQueriesOf_append, silent, List.append_nil, lastSize]

theorem lastSize_append_asked (asked : modeQueriesOf later = [modeQuery crtc answer]) :
    lastSize (events ++ later) = answer.toOption.join := by
  rw [lastSize, modeQueriesOf_append, asked, List.getLast?_concat]
  rfl

theorem modeQueriesOf_modeQuery (silent : modeQueriesOf later = []) :
    modeQueriesOf (modeQuery crtc answer :: later) = [modeQuery crtc answer] := by
  have asked : modeQueriesOf (modeQuery crtc answer :: later)
      = modeQuery crtc answer :: modeQueriesOf later := rfl
  rw [asked, silent]

theorem modeQueriesOf_of_silent (silent : requestsOf events = []) : modeQueriesOf events = [] :=
  callsOf_eq_nil (by simp [silent])

@[simp] theorem asksMode_disableRequest (config : Config) :
    (disableRequest config).asksMode = false := by
  unfold disableRequest
  cases config.strategy <;> rfl

theorem Manager.Drains.modeQueriesOf_eq {m : Manager} (drains : m.Drains events) :
    modeQueriesOf events = [] := by
  obtain ⟨answer, releases, rfl, calls⟩ := drains.calls
  refine callsOf_eq_nil ?_
  rw [requestsOf_disableEvent, List.forall_mem_cons]
  refine ⟨asksMode_disableRequest _, fun request member => ?_⟩
  rw [calls] at member
  obtain ⟨r, -, rfl⟩ := List.mem_map.mp member
  cases r <;> rfl

theorem modeQueriesOf_journal {turns : List Turn}
    (silent : ∀ t ∈ turns, modeQueriesOf t.events = []) : modeQueriesOf (journal turns) = [] := by
  induction turns with
  | nil => rfl
  | cons t rest ih =>
    obtain ⟨here, others⟩ := List.forall_mem_cons.mp silent
    rw [journal_cons, modeQueriesOf_append, here, ih others, List.nil_append]

end Queries

/-! ### When the mode is asked for -/

/-- The calls that read the mode: the one that is there for it, and every frame as long as its stream
has shown none. -/
def Call.AsksMode (past : List Turn) : Call → Prop
  | .refreshDisplaySize => True
  | .present (some _) .. => shows past = []
  | .present none .. | .disablePlane | .uninit => False

/-- What a turn finds out about the display's size, after the turns before it. A mode that is read is
read before anything else, and once. -/
inductive Turn.Learns (config : Config) (past : List Turn) (t : Turn) : Prop where
  | asked {answer : Except DeviceError (Option Size)} {later : List (Event interface)}
      (asks : t.asked.AsksMode past) (query : t.events = modeQuery config.targets.crtc answer :: later)
      (once : modeQueriesOf later = []) (size_eq : t.reply.manager.displaySize = answer.toOption.join)
  | kept (silent : ¬t.asked.AsksMode past) (query : modeQueriesOf t.events = [])
      (size_eq : t.reply.manager.displaySize = t.before.displaySize)

variable {config : Config} {past turns : List Turn} {t : Turn} {m start : Manager}
  {opening : List (Event interface)}

/-- The ring is empty until a frame of the stream has been shown. A frame that fails does not empty
it, as it costs a ring of two generations or more only one. -/
theorem Windowed.isEmpty_iff {ring : Ring Generation} (windowed : Windowed turns ring)
    (deep : 2 ≤ ring.depth) : ring.isEmpty = true ↔ shows turns = [] := by
  rw [Ring.isEmpty, List.isEmpty_iff, ← List.length_eq_zero_iff, ← List.length_eq_zero_iff]
  change ring.size = 0 ↔ _
  by_cases few : (shows turns).length < ring.depth
  · rw [windowed.filling few]
  · have full := windowed.full (Nat.not_lt.mp few)
    omega

theorem Call.learns {call : Call} {events : List (Event interface)} {p : Presentation}
    (sound : m.Sound config) (windowed : Windowed past m.ring)
    (run : (call.reply m).Runs events p) : Turn.Learns config past ⟨m, call, events, p⟩ := by
  have first_iff := windowed.isEmpty_iff sound.two_le_depth
  have config_eq := sound.config_eq
  cases Call.takes run with
  | presented presents =>
    obtain ⟨query, rest, rfl, asks, silent⟩ := presents.asks
    generalize size_eq : p.manager.displaySize = size at asks
    cases asks with
    | kept streaming =>
      refine .kept (fun none => ?_) silent size_eq
      cases streaming.symm.trans (first_iff.mpr none)
    | @asked answer reports first calls =>
      have others : modeQueriesOf (reports ++ rest) = [] := by
        rw [modeQueriesOf_append, modeQueriesOf_of_silent calls, silent, List.nil_append]
      exact .asked (first_iff.mp first) (config_eq ▸ rfl) others size_eq
  | ended drains | released _ drains => exact .kept id drains.modeQueriesOf_eq rfl
  | refreshed =>
    obtain ⟨left, running, reply_eq⟩ := runs_map.mp run
    obtain ⟨answer, reports, rfl, rfl, silent, -⟩ := Manager.refreshDisplaySize_runs running
    exact .asked trivial (config_eq ▸ rfl) (modeQueriesOf_of_silent silent)
      (congrArg (·.manager.displaySize) reply_eq)
  | disabled calls => exact .kept id (callsOf_eq_nil (by simp [calls])) rfl
  | idle => exact .kept id rfl rfl

theorem Manager.Creates.asks {outcome : Except PresentError Manager}
    (creates : Creates config opening outcome) (created : outcome = .ok start) :
    ∃ answer, modeQueriesOf opening = [modeQuery config.targets.crtc answer] ∧
      start.displaySize = answer.toOption.join := by
  cases creates with
  | refused => cases created
  | @created answer later _ calls =>
    cases created
    have others : modeQueriesOf later = [] := by
      apply callsOf_eq_nil
      rw [calls, List.forall_mem_cons, List.forall_mem_singleton]
      exact ⟨rfl, asksMode_disableRequest config⟩
    exact ⟨answer, modeQueriesOf_modeQuery others, rfl⟩

theorem Manager.drop_asks_nothing {events : List (Event interface)} (sound : m.Sound config)
    (run : m.drop.Runs events ()) : modeQueriesOf events = [] := by
  obtain ⟨left, released⟩ := drop_runs (fun torn => (sound.torn torn).1) run
  rcases uninit_runs released with ⟨-, rfl, -⟩ | ⟨-, drains, -⟩
  · rfl
  · exact drains.modeQueriesOf_eq

/-! ### Where a frame is placed -/

/-- What becomes of a frame by the place that its rectangles were given. -/
structure Obeys (config : Config) (placed : Except Fault PlaneGeometry) (batch : Batch)
    (events : List (Event interface)) (p : Presentation) : Prop where
  /-- A frame that has no place is refused for that. -/
  refused : ∀ fault, placed = .error fault → p.outcome = .error fault
  /-- A plane update, whether or not it is accepted, is to that place. -/
  updates : ∀ update answer, .answered (.setPlane update) answer ∈ events →
    ∃ f geometry, placed = .ok geometry ∧ update = showUpdate config.targets (some f) geometry
  updated : p.outcome = .ok () → config.strategy = .legacy → ∃ f geometry,
    placed = .ok geometry ∧
      .answered (.setPlane (showUpdate config.targets (some f) geometry)) (.ok ()) ∈ events
  /-- So are the writes for a commit. -/
  written : p.outcome = .ok () → config.strategy = .atomic → ∃ f geometry writes,
    placed = .ok geometry ∧ p.batch = batch.append writes ∧
      writes.Mirrors (showUpdate config.targets (some f) geometry)

/-- A frame that the turn was asked to show was placed where its destination lies on a display of
this size. -/
def Turn.PlacedBy (t : Turn) (config : Config) (size : Option Size) : Prop :=
  ∀ image src dst batch, t.asked = .present (some image) src dst batch →
    ∃ dest, Rescales config.osdSize size dst dest ∧
      Obeys config (PlaneGeometry.ofRects src dest config.alignment) batch t.events t.reply

section Acquires

variable {placed : Except Fault PlaneGeometry} {image : Image} {calls : List (Event interface)}

theorem Acquires.placed_eq {acquired : Acquired}
    (acquires : Acquires placed image calls (.ok acquired)) : placed = .ok acquired.geometry := by
  generalize came : Except.ok acquired = result at acquires
  cases acquires with
  | refused | unimported => cases came
  | answered checked importing answer =>
    cases answer with
    | error cause => cases came
    | ok f =>
      cases came
      exact (check_ok checked).1

theorem Acquires.misplaced {fault : Fault} {result : Except Fault Acquired}
    (acquires : Acquires placed image calls result) (misplaced : placed = .error fault) :
    result = .error fault := by
  have checked : check placed image = .error fault := by
    rw [misplaced]
    rfl
  cases acquires with
  | refused failed => exact congrArg Except.error (Except.error.inj (failed.symm.trans checked))
  | unimported passed | answered passed => cases passed.symm.trans checked

end Acquires

namespace Manager

variable {image : Image} {src dst : Rect} {batch : Batch} {events calls : List (Event interface)}
  {p : Presentation} {placed : Except Fault PlaneGeometry} {result : Except Fault Acquired}

theorem Submits.setPlane_eq {color : Color} {g : Generation} {geometry : PlaneGeometry}
    {left : Manager} {outcome : Except PresentError Batch} {update : PlaneUpdate}
    (submitted : Submits m color g geometry batch events left outcome)
    (made : .setPlane update ∈ requestsOf events) :
    update = showUpdate m.config.targets g.framebuffer geometry := by
  cases submitted with
  | staged | opened | blobFailed => simp at made
  | updated | updateFailed => simpa using made

theorem Ends.setPlane_eq (ends : m.Ends image batch calls events p result)
    (acquisitions : acquisitionsOf calls = calls) {update : PlaneUpdate}
    {answer : Except DeviceError Unit} (made : .answered (.setPlane update) answer ∈ events) :
    ∃ acquired, result = .ok acquired ∧
      update = showUpdate m.config.targets (some acquired.framebuffer) acquired.geometry := by
  have step : .answered (.setPlane update) answer ∈ stepsOf events := mem_callsOf.mpr ⟨made, rfl⟩
  -- What a frame gets hold of its framebuffer by is no update of the plane.
  have early : .answered (.setPlane update) answer ∉ calls := by
    intro member
    rw [← acquisitions] at member
    cases (mem_callsOf.mp member).2
  cases ends with
  | stopped steps =>
    rw [steps] at step
    exact absurd step early
  | submitted acquired submitted steps =>
    rw [steps] at step
    have submission := (List.mem_append.mp step).resolve_left early
    exact ⟨acquired, rfl, submitted.setPlane_eq (mem_requestsOf (mem_callsOf.mp submission).1)⟩

theorem Ends.obeys (ends : m.Ends image batch calls events p result)
    (acquires : Acquires placed image calls result) : Obeys m.config placed batch events p where
  refused := by
    intro fault misplaced
    obtain rfl := acquires.misplaced misplaced
    cases ends with
    | stopped _ outcome => exact outcome
  updates := by
    intro update answer made
    obtain ⟨acquired, rfl, update_eq⟩ := ends.setPlane_eq acquires.acquisitionsOf_eq made
    exact ⟨_, _, acquires.placed_eq, update_eq⟩
  updated := by
    intro shown legacy
    obtain ⟨acquired, rfl⟩ := ends.acquired_of_shown shown
    have update : .answered (.setPlane (showUpdate m.config.targets (some acquired.framebuffer)
        acquired.geometry)) (.ok ()) ∈ stepsOf events := by
      rw [ends.updates legacy shown]
      exact List.mem_append_right _ (List.mem_singleton_self _)
    exact ⟨_, _, acquires.placed_eq, (mem_callsOf.mp update).1⟩
  written := by
    intro shown atomic
    obtain ⟨acquired, rfl⟩ := ends.acquired_of_shown shown
    obtain ⟨writes, batch_eq, mirrors⟩ := ends.mirrors atomic shown
    exact ⟨_, _, writes, acquires.placed_eq, batch_eq, mirrors⟩

end Manager

theorem Call.placedBy {call : Call} {events : List (Event interface)} {p : Presentation}
    (sound : m.Sound config) (run : (call.reply m).Runs events p) :
    Turn.PlacedBy ⟨m, call, events, p⟩ config p.manager.displaySize := by
  rintro image src dst batch rfl
  have showing : (m.present (some image) src dst batch).Runs events p := run
  obtain ⟨calls, result, acquires, ends⟩ := (Manager.presentSome_runs showing).acquires
  have rescales := (m.withDisplaySize p.manager.displaySize).rescales_destination dst
  rw [← sound.config_eq]
  exact ⟨_, rescales, ends.obeys acquires⟩

/-! ### The size over a stream -/

theorem mem_currentStream {during : List Turn} (goesOn : ¬t.asked.Closes)
    (goOn : ∀ other ∈ during, ¬other.asked.Closes) : t ∈ currentStream (past ++ t :: during) := by
  induction during using List.reverseRecOn with
  | nil =>
    rw [currentStream_concat goesOn]
    simp
  | append_singleton during other ih =>
    obtain ⟨before, last⟩ := List.forall_mem_append.mp goOn
    rw [← List.cons_append, ← List.append_assoc,
      currentStream_concat (last other (List.mem_singleton_self other))]
    exact List.mem_append_left _ (ih before)

theorem Turn.goesOn_of_shown (shown : t.shown?.isSome) : ¬t.asked.Closes := by
  obtain ⟨image, showing⟩ := Option.isSome_iff_exists.mp shown
  obtain ⟨src, dst, batch, asked, -⟩ := Turn.shown?_eq_some.mp showing
  rw [asked]
  exact Option.some_ne_none image

theorem Call.not_asksMode {call : Call} (streaming : shows past ≠ [])
    (other : call ≠ .refreshDisplaySize) : ¬call.AsksMode past := by
  intro asks
  cases call with
  | present image =>
    cases image with
    | none => exact asks
    | some image => exact streaming asks
  | refreshDisplaySize => exact other rfl
  | disablePlane | uninit => exact asks

section Created

variable (creating : (Manager.create config).Runs opening (.ok start))
include creating

theorem History.learns (history : History start turns m) (cut : past ++ [t] <+: turns) :
    t.Learns config past := by
  have created := Manager.Sound.created creating
  obtain ⟨size, panel, rfl⟩ := (Manager.create_runs creating).2.2 start rfl
  obtain ⟨before, run⟩ := history.of_prefix cut
  exact Call.learns (History.sound before created) (History.windowed created rfl before) run

/-- What the manager goes by is what has been read last. -/
theorem History.displaySize_eq (history : History start turns m) :
    m.displaySize = lastSize (opening ++ journal turns) := by
  induction history with
  | nil =>
    obtain ⟨answer, asked, size_eq⟩ := (Manager.create_cases creating).asks rfl
    rw [size_eq, journal_nil, List.append_nil, ← List.nil_append opening]
    exact (lastSize_append_asked asked).symm
  | concat past run ih =>
    rw [journal_append, journal_cons, journal_nil, List.append_nil, ← List.append_assoc]
    cases History.learns creating (past.concat run) (List.prefix_refl _) with
    | asked _ query once size_eq =>
      rw [query, lastSize_append_asked (modeQueriesOf_modeQuery once), size_eq]
    | kept _ query size_eq => rw [lastSize_append_silent query, size_eq, ih]

theorem History.size_eq_of_prefix (history : History start turns m) (cut : past ++ [t] <+: turns) :
    t.reply.manager.displaySize = lastSize (opening ++ journal (past ++ [t])) := by
  obtain ⟨before, run⟩ := history.of_prefix cut
  exact History.displaySize_eq creating (before.concat run)

/-- After a frame that was shown, the mode is not read until the stream has ended, unless the manager
is told to. -/
theorem History.silent_during {first : Turn} {during : List Turn} (history : History start turns m)
    (cut : past ++ first :: during <+: turns) (shown : first.shown?.isSome)
    (goOn : ∀ t ∈ during, ¬t.asked.Closes ∧ t.asked ≠ .refreshDisplaySize) :
    ∀ t ∈ during, modeQueriesOf t.events = [] := by
  intro t member
  obtain ⟨earlier, later, rfl⟩ := List.append_of_mem member
  have streaming : shows (past ++ first :: earlier) ≠ [] := by
    have inStream : first ∈ currentStream (past ++ first :: earlier) :=
      mem_currentStream (Turn.goesOn_of_shown shown) fun other found =>
        (goOn other (List.mem_append_left _ found)).1
    exact List.ne_nil_of_mem (List.mem_filter.mpr ⟨inStream, shown⟩)
  have upTo : past ++ first :: earlier ++ [t] <+: turns := by
    refine List.IsPrefix.trans ⟨later, ?_⟩ cut
    simp
  cases History.learns creating history upTo with
  | asked asks => exact absurd asks (Call.not_asksMode streaming (goOn t member).2)
  | kept _ query => exact query

/-- So the size stays what it was for that frame. -/
theorem History.size_during {first : Turn} {during : List Turn} (history : History start turns m)
    (cut : past ++ first :: during <+: turns) (shown : first.shown?.isSome)
    (goOn : ∀ t ∈ during, ¬t.asked.Closes ∧ t.asked ≠ .refreshDisplaySize)
    {between later : List Turn} (split : during = between ++ [t] ++ later) :
    t.reply.manager.displaySize = first.reply.manager.displaySize := by
  have silent := History.silent_during creating history cut shown goOn
  have quiet : modeQueriesOf (journal (between ++ [t])) = [] :=
    modeQueriesOf_journal fun other found => silent other (split ▸ List.mem_append_left _ found)
  have firstCut : past ++ [first] <+: turns := List.IsPrefix.trans ⟨during, by simp⟩ cut
  have upTo : past ++ [first] ++ between ++ [t] <+: turns :=
    List.IsPrefix.trans ⟨later, by simp [split]⟩ cut
  rw [History.size_eq_of_prefix creating history upTo,
    History.size_eq_of_prefix creating history firstCut, List.append_assoc _ between,
    journal_append (past ++ [first]), ← List.append_assoc, lastSize_append_silent quiet]

end Created

/-- The size of the display over a manager's life. -/
structure SizeFixed (config : Config) (opening : List (Event interface)) (turns : List Turn)
    (m : Manager) : Prop where
  /-- Creating the manager reads the mode once. -/
  created : ∃ answer, modeQueriesOf opening = [modeQuery config.targets.crtc answer]
  /-- A turn reads it once if it has to, and else not at all. -/
  learns : ∀ past t, past ++ [t] <+: turns → t.Learns config past
  dropped : ∀ events, m.drop.Runs events () → modeQueriesOf events = []
  size_eq : m.displaySize = lastSize (opening ++ journal turns)
  /-- Every frame is placed by what has been read last. -/
  placed : ∀ past t, past ++ [t] <+: turns →
    t.PlacedBy config (lastSize (opening ++ journal (past ++ [t])))
  /-- From the first frame of a stream that is shown on, all are placed by the same size. -/
  fixed : ∀ past first during, past ++ first :: during <+: turns → first.shown?.isSome →
    (∀ t ∈ during, ¬t.asked.Closes ∧ t.asked ≠ .refreshDisplaySize) →
    ∀ t ∈ first :: during, t.reply.manager.displaySize = first.reply.manager.displaySize ∧
      t.PlacedBy config first.reply.manager.displaySize
  /-- A frame before which the stream has shown none is placed by the mode of its own time. -/
  current : ∀ past t image src dst batch, past ++ [t] <+: turns → shows past = [] →
    t.asked = .present (some image) src dst batch → ∃ answer later,
      t.events = modeQuery config.targets.crtc answer :: later ∧ modeQueriesOf later = [] ∧
      t.PlacedBy config answer.toOption.join

/-- At any time, and however the device has behaved. -/
theorem display_size_fixed (creating : (Manager.create config).Runs opening (.ok start))
    (history : History start turns m) : SizeFixed config opening turns m := by
  have created := Manager.Sound.created creating
  have placed {past : List Turn} {t : Turn} (cut : past ++ [t] <+: turns) :
      t.PlacedBy config t.reply.manager.displaySize := by
    obtain ⟨before, run⟩ := history.of_prefix cut
    exact Call.placedBy (History.sound before created) run
  exact {
    created := by
      obtain ⟨answer, asked, -⟩ := (Manager.create_cases creating).asks rfl
      exact ⟨answer, asked⟩
    learns := fun past t cut => History.learns creating history cut
    dropped := fun events run => Manager.drop_asks_nothing (history.sound created) run
    size_eq := History.displaySize_eq creating history
    placed := by
      intro past t cut
      rw [← History.size_eq_of_prefix creating history cut]
      exact placed cut
    fixed := by
      intro past first during cut shown goOn t member
      rcases List.mem_cons.mp member with rfl | found
      · have firstCut : past ++ [t] <+: turns := List.IsPrefix.trans ⟨during, by simp⟩ cut
        exact ⟨rfl, placed firstCut⟩
      · obtain ⟨between, later, split⟩ := List.append_of_mem found
        rw [List.append_cons] at split
        have same := History.size_during creating history cut shown goOn split
        have upTo : past ++ first :: between ++ [t] <+: turns :=
          List.IsPrefix.trans ⟨later, by simp [split]⟩ cut
        exact ⟨same, same ▸ placed upTo⟩
    current := by
      intro past t image src dst batch cut none asked
      cases History.learns creating history cut with
      | @asked answer later _ query once size_eq =>
        exact ⟨answer, later, query, once, size_eq ▸ placed cut⟩
      | kept silent =>
        rw [asked] at silent
        exact absurd none silent }

/-- Two frames of one stream are shown, rescaled by the mode that the first has read, and one between
them fails. Told to read the mode again, the manager cannot, and the next stream reads it. -/
theorem display_size_fixed_small_display :
    ∃ opening turns m, (Manager.create Sample.scaled).Runs opening (.ok Sample.scaledCreated) ∧
      History Sample.scaledCreated turns m ∧
      turns.map (fun t => (t.shown?.isSome, t.reply.manager.displaySize,
          t.reply.batch.value? (.plane 63) Property.crtcW))
        = [(true, some ⟨1280, 720⟩, some 1280), (false, some ⟨1280, 720⟩, none),
          (true, some ⟨1280, 720⟩, some 1280), (false, none, none), (false, none, none),
          (true, some ⟨1280, 720⟩, some 1280)] ∧
      SizeFixed Sample.scaled opening turns m := by
  have history := Sample.calls_history
    [Sample.frame, Sample.frame, Sample.frame, .refreshDisplaySize,
      .present none Sample.area Sample.area .empty, Sample.frame] Sample.scaledCreated
    { Sample.smallDevice with failures := [⟨"crtc_mode_size", 1, 1, "crtc_mode_size rejected"⟩,
      ⟨"add_framebuffer", 1, 1, "add_framebuffer rejected"⟩] }
  exact ⟨_, _, _, Sample.scaledCreation_runs, history, by decide +kernel,
    display_size_fixed Sample.scaledCreation_runs history⟩

end Scanout.Overlay
