import Mathlib.Data.List.Forall2
import Scanout.Proofs.Overlay.Movements
import Scanout.Proofs.Overlay.Session

/-!
# The ring is a window of the stream

The generations in the ring are those of the frames shown last, in order, each with what was made
for it in its own turn. A ring that is full stays full, except that a frame that fails may cost it
one generation, which the next frame that is shown makes up for.
-/

namespace Scanout.Overlay

open Display Proc

namespace Turn

/-- The generation is what the turn has made of an image that it has shown. -/
structure Made (t : Turn) (image : Image) (g : Generation) : Prop where
  shown : t.shown? = some image
  image_eq : g.image = some image
  /-- The framebuffer was made in this turn, of these handles. -/
  framebuffer : ∃ framebuffer format, g.framebuffer = some framebuffer ∧
    image.descriptor.scanoutFormat = .ok format ∧
    .answered (.addFramebuffer (Manager.layoutOf image format g.handles)) (.ok framebuffer) ∈ t.events
  /-- A handle was imported in this turn, from the descriptor of its object. -/
  handles : ∀ object h, g.handles.get? object = some h → ∃ memory,
    image.descriptor.object? object = some memory ∧
    .answered (.importPrimeFd memory.fd) (.ok h) ∈ t.events
  objects : ∀ object, (g.handles.get? object).isSome ↔
    ∃ p ∈ image.descriptor.scanoutPlanes, p.object = object
  /-- Nothing else was acquired in this turn, except that the first frame may have had a blob made. -/
  own : ∃ blobs : List BlobId,
    (acquiredOf (movementsOf t.events)).Perm (g.resources ++ blobs.map .blob)

def Frames (t : Turn) (g : Generation) : Prop := ∃ image, t.Made image g

def Failed (t : Turn) : Prop :=
  ∃ image src dst batch fault, t.asked = .present (some image) src dst batch ∧
    t.reply.outcome = .error fault

end Turn

variable {m : Manager} {image : Image} {src dst : Rect} {batch : Batch}
  {events : List (Event interface)} {p : Presentation}

theorem Manager.Presents.frames (presents : m.resumed.Presents image src dst batch events p)
    (shown : p.outcome = .ok ()) :
    ∃ g, Turn.Frames ⟨m, .present (some image) src dst batch, events, p⟩ g ∧
      p.manager.ring.slots = m.ring.makeRoom.2.slots ++ [g] ∧
      p.manager.ring.depth = m.ring.depth := by
  cases presents with
  | @shown _ imports _ _ format _ handles framebuffer _ _ prepares importing submitted =>
    have ways := HandleSet.extends_of_runs importing
    have imported {object : Nat} {h : GemHandle} (held : handles.get? object = some h) :=
      (ways.imported_from rfl held).resolve_left (by simp)
    obtain ⟨gained, blobs, moved, -, own⟩ := prepares.moves_shown importing
      (layoutOf image format handles) framebuffer submitted
    refine ⟨⟨some framebuffer, handles, some image⟩, ⟨image, ?_⟩, ?_⟩
    · exact {
        shown := rfl
        image_eq := rfl
        framebuffer := ⟨framebuffer, format, rfl, prepares.formatted,
          List.mem_append_right _ List.mem_cons_self⟩
        handles := fun object h held => by
          obtain ⟨-, memory, found, answered⟩ := imported held
          exact ⟨memory, found, List.mem_append_left _ (List.mem_append_right _ answered)⟩
        objects := fun object => by
          constructor
          · intro present
            obtain ⟨h, held⟩ := Option.isSome_iff_exists.mp present
            exact (imported held).1
          · exact fun wanted => ways.isSome_get? rfl (.inr wanted)
        own := ⟨blobs, by rw [moved]; simpa using own⟩ }
    · obtain ⟨hdr, reported, rfl⟩ := submitted.left_eq
      exact ⟨slots_installed m.ring.makeRoom_makeRoom,
        (Ring.advance_depth _ _).trans (Ring.makeRoom_depth _)⟩
  | refused | importFailed | framebufferFailed | submitFailed => cases shown

theorem tail_rtake_succ {α : Type} {l : List α} {n : ℕ} (long : n < l.length) :
    (l.rtake (n + 1)).tail = l.rtake n := by
  rw [List.rtake, List.rtake, List.tail_drop]
  congr 1
  omega

def shows (turns : List Turn) : List Turn :=
  (currentStream turns).filter fun t => t.shown?.isSome

def FailedSince (turns : List Turn) : Prop :=
  ∃ earlier t later, currentStream turns = earlier ++ t :: later ∧ t.Failed ∧
    ∀ other ∈ later, other.shown? = none

/-- The ring holds the frames shown last. -/
structure Windowed (turns : List Turn) (ring : Ring Generation) : Prop where
  frames : List.Forall₂ Turn.Frames ((shows turns).rtake ring.size) ring.slots
  filling : (shows turns).length < ring.depth → ring.size = (shows turns).length
  full : ring.depth ≤ (shows turns).length →
    ring.size = ring.depth ∨ ring.size + 1 = ring.depth ∧ FailedSince turns

variable {turns : List Turn} {t : Turn} {ring : Ring Generation}

theorem shows_concat_shown (turns : List Turn) (goesOn : ¬ t.asked.Closes)
    (shown : t.shown?.isSome) : shows (turns ++ [t]) = shows turns ++ [t] := by
  simp [shows, currentStream_concat goesOn, shown]

theorem shows_concat_unshown (turns : List Turn) (goesOn : ¬ t.asked.Closes)
    (nothing : t.shown? = none) : shows (turns ++ [t]) = shows turns := by
  simp [shows, currentStream_concat goesOn, nothing]

theorem FailedSince.concat (failed : FailedSince turns) (goesOn : ¬ t.asked.Closes)
    (nothing : t.shown? = none) : FailedSince (turns ++ [t]) := by
  obtain ⟨earlier, first, later, stream, fails, unshown⟩ := failed
  refine ⟨earlier, first, later ++ [t], ?_, fails, ?_⟩
  · rw [currentStream_concat goesOn, stream, List.append_assoc, List.cons_append]
  · exact List.forall_mem_append.mpr ⟨unshown, by simpa using nothing⟩

theorem Turn.Failed.goesOn (failed : t.Failed) : ¬ t.asked.Closes ∧ t.shown? = none := by
  obtain ⟨image, src, dst, batch, fault, asked, outcome⟩ := failed
  rw [shown?, asked, outcome]
  exact ⟨Option.some_ne_none image, rfl⟩

theorem Turn.Failed.failedSince (failed : t.Failed) : FailedSince (turns ++ [t]) :=
  ⟨currentStream turns, t, [], currentStream_concat failed.goesOn.1, failed, by simp⟩

namespace Windowed

theorem of_empty (stream : currentStream turns = []) (slots : ring.slots = []) :
    Windowed turns ring := by
  have nothing : shows turns = [] := by rw [shows, stream]; rfl
  have size : ring.size = 0 := by rw [Ring.size, slots]; rfl
  have pos := ring.depth_pos
  exact ⟨by simp [nothing, slots], by simp [nothing, size], by simp [nothing]; omega⟩

theorem unshown (windowed : Windowed turns ring) (goesOn : ¬ t.asked.Closes)
    (nothing : t.shown? = none) : Windowed (turns ++ [t]) ring := by
  have same := shows_concat_unshown turns goesOn nothing
  refine ⟨same ▸ windowed.frames, same ▸ windowed.filling, fun many => ?_⟩
  rw [same] at many
  exact (windowed.full many).imp_right fun ⟨size, failed⟩ => ⟨size, failed.concat goesOn nothing⟩

theorem size_le (windowed : Windowed turns ring) : ring.size ≤ (shows turns).length := by
  by_cases few : (shows turns).length < ring.depth
  · exact (windowed.filling few).le
  · exact ring.length_le.trans (Nat.not_lt.mp few)

/-- There is room for one more frame, and no more room than it takes. -/
theorem makeRoom_size (windowed : Windowed turns ring) :
    ring.makeRoom.2.size + 1 = min ring.depth ((shows turns).length + 1) := by
  have le := windowed.size_le
  by_cases full : ring.size = ring.depth
  · have size := Ring.makeRoom_size_of_full full
    omega
  · -- The ring is still filling, or the place of a frame that failed is free.
    have room : ring.size ≤ ring.depth := ring.length_le
    have stays : ring.makeRoom.2 = ring := by rw [Ring.makeRoom_of_room full]
    rw [stays]
    by_cases few : (shows turns).length < ring.depth
    · have filling := windowed.filling few
      omega
    · obtain ⟨size, -⟩ := (windowed.full (Nat.not_lt.mp few)).resolve_left full
      omega

/-- Without its oldest generation a full ring still holds the frames shown last. -/
theorem frames_makeRoom (windowed : Windowed turns ring) :
    List.Forall₂ Turn.Frames ((shows turns).rtake ring.makeRoom.2.size)
      ring.makeRoom.2.slots := by
  by_cases full : ring.size = ring.depth
  · obtain ⟨oldest, rest, slots, -, stays⟩ := Ring.makeRoom_of_full full
    have frames := windowed.frames
    have many := windowed.size_le
    rw [Ring.size, slots, List.length_cons] at many frames
    obtain ⟨first, others, -, later, split⟩ := List.forall₂_cons_right_iff.mp frames
    rwa [Ring.size, stays, ← tail_rtake_succ many, split]
  · rw [Ring.makeRoom_of_room full]
    exact windowed.frames

theorem evicted (windowed : Windowed turns ring) (failed : t.Failed) :
    Windowed (turns ++ [t]) ring.makeRoom.2 := by
  by_cases full : ring.size = ring.depth
  · have same := shows_concat_unshown turns failed.goesOn.1 failed.goesOn.2
    have size := Ring.makeRoom_size_of_full full
    have many := windowed.size_le
    refine ⟨same ▸ windowed.frames_makeRoom, ?_, fun _ => .inr ⟨?_, failed.failedSince⟩⟩
    · rw [same, Ring.makeRoom_depth]
      omega
    · rw [Ring.makeRoom_depth]
      omega
  · rw [Ring.makeRoom_of_room full]
    exact windowed.unshown failed.goesOn.1 failed.goesOn.2

theorem shown {left : Ring Generation} {g : Generation} (windowed : Windowed turns ring)
    (goesOn : ¬ t.asked.Closes) (frames : t.Frames g)
    (slots : left.slots = ring.makeRoom.2.slots ++ [g]) (depth : left.depth = ring.depth) :
    Windowed (turns ++ [t]) left := by
  have more : shows (turns ++ [t]) = shows turns ++ [t] := by
    obtain ⟨image, made⟩ := frames
    exact shows_concat_shown turns goesOn (by simp [made.shown])
  have size : left.size = ring.makeRoom.2.size + 1 := by
    rw [Ring.size, slots, List.length_append]
    rfl
  refine ⟨?_, ?_, ?_⟩
  · rw [more, size, List.rtake_concat_succ, slots]
    exact List.rel_append windowed.frames_makeRoom (.cons frames .nil)
  · rw [more, size, depth, windowed.makeRoom_size, List.length_append, List.length_singleton]
    omega
  · rw [more, size, depth, windowed.makeRoom_size, List.length_append, List.length_singleton]
    exact fun many => .inl (Nat.min_eq_left many)

end Windowed

theorem Windowed.presented (windowed : Windowed turns m.ring)
    (presents : m.resumed.Presents image src dst batch events p) :
    Windowed (turns ++ [⟨m, .present (some image) src dst batch, events, p⟩]) p.manager.ring := by
  cases outcome : p.outcome with
  | ok _ =>
    obtain ⟨g, frames, slots, depth⟩ := presents.frames outcome
    exact windowed.shown (Option.some_ne_none image) frames slots depth
  | error fault =>
    have failed : Turn.Failed ⟨m, .present (some image) src dst batch, events, p⟩ :=
      ⟨image, src, dst, batch, fault, rfl, outcome⟩
    cases (presents.fails outcome).how with
    | check ring_eq =>
      rw [ring_eq]
      exact windowed.unshown failed.goesOn.1 failed.goesOn.2
    | device ring_eq =>
      rw [ring_eq]
      exact windowed.evicted failed

theorem Turn.Takes.windowed {config : Config} (takes : t.Takes) (sound : t.before.Sound config)
    (windowed : Windowed turns t.before.ring) : Windowed (turns ++ [t]) t.reply.manager.ring := by
  cases takes with
  | presented presents => exact windowed.presented presents
  | ended | released => exact .of_empty (currentStream_closed (by trivial)) rfl
  | refreshed | disabled => exact windowed.unshown id rfl
  | idle torn => exact .of_empty (currentStream_closed trivial) (sound.torn torn).1

theorem History.windowed {config : Config} {start : Manager} (sound : start.Sound config)
    (begins : start.ring.slots = []) (history : History start turns m) : Windowed turns m.ring := by
  induction history with
  | nil => exact .of_empty rfl begins
  | concat past run ih => exact (Call.takes run).windowed (History.sound past sound) ih

/-- What is in the ring between two calls, and what becomes of it. -/
structure StreamWindow (config : Config) (turns : List Turn) (m : Manager) : Prop where
  /-- The generations are those of the frames shown last, oldest first. -/
  frames : List.Forall₂ Turn.Frames ((shows turns).rtake m.ring.size) m.ring.slots
  filling : (shows turns).length < config.strategy.ringDepth → m.ring.size = (shows turns).length
  full : config.strategy.ringDepth ≤ (shows turns).length →
    m.ring.size = config.strategy.ringDepth ∨
      m.ring.size + 1 = config.strategy.ringDepth ∧ FailedSince turns
  /-- An image is kept once for every frame among them that shows it. -/
  references : ∀ image, references m.ring image
    = ((shows turns).rtake m.ring.size).countP fun t =>
      t.shown?.map Image.serial == some image.serial
  /-- No frame empties the ring, whether or not it can be shown. -/
  stays : m.ring.slots ≠ [] → ∀ image src dst batch events p,
    (m.present (some image) src dst batch).Runs events p → p.manager.ring.slots ≠ []

theorem references_eq {shown : List Turn} {slots : List Generation}
    (frames : List.Forall₂ Turn.Frames shown slots) (image : Image) :
    (slots.countP fun g => g.image.map Image.serial == some image.serial)
      = shown.countP fun t => t.shown?.map Image.serial == some image.serial := by
  induction frames with
  | nil => rfl
  | cons first _ ih =>
    obtain ⟨own, made⟩ := first
    rw [List.countP_cons, List.countP_cons, ih, made.shown, made.image_eq]

theorem Manager.Presents.slots_ne_nil (presents : m.Presents image src dst batch events p)
    (deep : 2 ≤ m.ring.depth) (some : m.ring.slots ≠ []) : p.manager.ring.slots ≠ [] := by
  obtain ⟨new, -, slots⟩ := presents.moves
  rcases slots with same | grown
  · rwa [same]
  · -- Of two generations or more, only the oldest is given up.
    have newest := Ring.makeRoom_newest? deep
    rw [Ring.newest?, Ring.newest?] at newest
    have kept : m.ring.makeRoom.2.slots ≠ [] := fun none => some
      (List.getLast?_eq_none_iff.mp (newest.symm.trans (List.getLast?_eq_none_iff.mpr none)))
    rw [grown]
    exact List.append_ne_nil_of_left_ne_nil kept new

/-- At any time, and however the device has behaved. -/
theorem ring_holds_window {config : Config} {opening : List (Event interface)} {start : Manager}
    (creating : (Manager.create config).Runs opening (.ok start)) (history : History start turns m) :
    StreamWindow config turns m := by
  have created := Manager.Sound.created creating
  obtain ⟨size, panel, rfl⟩ := (Manager.create_runs creating).2.2 start rfl
  have windowed := history.windowed created rfl
  have sound := history.sound created
  obtain ⟨frames, filling, full⟩ := windowed
  rw [sound.depth_eq] at filling full
  exact {
    frames := frames
    filling := filling
    full := full
    references := references_eq frames
    stays := fun some image src dst batch events p run =>
      (Manager.presentSome_runs run).slots_ne_nil sound.resumed.two_le_depth some }

/-- Of four frames the last fails, when the ring is full. -/
theorem ring_holds_window_after_failure :
    ∃ turns m, (Manager.create Sample.config).Runs Sample.creation (.ok Sample.created) ∧
      History Sample.created turns m ∧
      turns.map (fun t => t.shown?.isSome) = [true, true, true, false] ∧ m.ring.size = 2 ∧
      references m.ring Sample.image = 2 ∧ StreamWindow Sample.config turns m := by
  have history := Sample.calls_history (List.replicate 4 Sample.frame) Sample.created
    { Sample.device with failures := [⟨"add_framebuffer", 3, 1, "add_framebuffer rejected"⟩] }
  exact ⟨_, _, Sample.creation_runs, history, by decide, by decide, by decide,
    ring_holds_window Sample.creation_runs history⟩

end Scanout.Overlay
