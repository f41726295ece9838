import Scanout.Proofs.Overlay.Conservation
import Scanout.Proofs.Overlay.Shown

/-!
# A running stream frees nothing that is read

While a stream runs, the plane reads at most the framebuffer shown last and the one before it, and
the latter only until a pending commit latches. `Covers` says that generations which making room
leaves in the ring keep both alive. It is kept by every presentation with what its caller does to
submit it, wherever latches fall; one generation less in the ring would break it for commits that do
not block.
-/

namespace Scanout.Overlay

open Display Proc

/-- A generation that keeps alive what the plane reads of a framebuffer. -/
structure Backs (s : Screen) (g : Generation) (f : FramebufferId) : Prop where
  framebuffer_eq : g.framebuffer = some f
  handles : ∀ h ∈ s.layouts f, h ∈ g.handles.held

theorem Backs.mem_resources {s : Screen} {g : Generation} {f : FramebufferId} (backs : Backs s g f)
    {r : Resource} (read : r = .framebuffer f ∨ ∃ h ∈ s.layouts f, r = .handle h) :
    r ∈ g.resources := by
  rcases read with rfl | ⟨h, member, rfl⟩
  · refine List.mem_append_left _ ?_
    rw [backs.framebuffer_eq]
    exact List.mem_singleton_self _
  · exact List.mem_append_right _ (List.mem_map_of_mem (backs.handles h member))

/-- What the plane reads, or will read, is kept alive by generations that stay in the ring when room
is made, and what it will show in the end by the newest one. -/
structure Covers (m : Manager) (s : Screen) : Prop where
  shown : ∀ f ∈ s.shown, ∃ g ∈ m.ring.makeRoom.2.slots, Backs s g f
  latest : ∀ f, s.latest = some f → ∃ g, m.ring.newest? = some g ∧ Backs s g f

namespace Covers

variable {m left : Manager} {s later : Screen} {plane : UInt32}

theorem mem_keptResources (covers : Covers m s) {r : Resource} (used : r ∈ s.inUse) :
    r ∈ m.keptResources := by
  obtain ⟨f, member, read⟩ := Screen.mem_inUse.mp used
  obtain ⟨g, kept, backs⟩ := covers.shown f member
  exact List.mem_flatMap.mpr ⟨g, kept, backs.mem_resources read⟩

theorem of_dark (current : s.current = none) (pending : s.pending = none) : Covers m s := by
  have dark : s.shown = [] := by
    rw [Screen.shown, current, pending]
    rfl
  refine ⟨fun f member => ?_, fun f latest => ?_⟩
  · rw [dark] at member
    cases member
  · have member := Screen.mem_shown_of_latest latest
    rw [dark] at member
    cases member

theorem within (covers : Covers m s) (within : later.Within s) : Covers m later where
  shown f member := by
    obtain ⟨g, kept, backs⟩ := covers.shown f (within.shown f member)
    exact ⟨g, kept, backs.framebuffer_eq, by rw [within.layouts f member]; exact backs.handles⟩
  latest f latest := by
    have member := Screen.mem_shown_of_latest latest
    obtain ⟨g, newest, backs⟩ := covers.latest f (within.latest ▸ latest)
    exact ⟨g, newest, backs.framebuffer_eq, by rw [within.layouts f member]; exact backs.handles⟩

theorem congr (covers : Covers m s) (kept : left.ring.makeRoom.2.slots = m.ring.makeRoom.2.slots)
    (newest : left.ring.newest? = m.ring.newest?) : Covers left s where
  shown := by rw [kept]; exact covers.shown
  latest := by rw [newest]; exact covers.latest

theorem resumed (covers : Covers m s) : Covers m.resumed s := ⟨covers.shown, covers.latest⟩

/-- A new generation takes over: the plane shows it in the end, and until then at most what was to
be shown before, provided that two more generations than that one fit. -/
theorem advance (covers : Covers m s) {g : Generation} {f : FramebufferId}
    (slots : left.ring.slots = m.ring.makeRoom.2.slots ++ [g])
    (depth : left.ring.depth = m.ring.depth) (deep : 2 ≤ m.ring.depth)
    (backs : Backs later g f) (layouts : later.layouts = s.layouts)
    (latest : ∀ other, later.latest = some other → other = f)
    (shown : ∀ other ∈ later.shown, other = f ∨ (s.latest = some other ∧ 3 ≤ m.ring.depth)) :
    Covers left later where
  shown other member := by
    rcases shown other member with rfl | ⟨before, room⟩
    · refine ⟨g, Ring.mem_makeRoom_of_recent slots ?_ (List.mem_singleton_self g), backs⟩
      rw [depth]
      exact deep
    · -- The newest generation so far keeps it alive, and is not the next to give way.
      obtain ⟨old, newest, oldBacks⟩ := covers.latest other before
      rw [← Ring.makeRoom_newest? deep] at newest
      obtain ⟨rest, split⟩ := List.getLast?_eq_some_iff.mp newest
      rw [split, List.append_assoc] at slots
      refine ⟨old, Ring.mem_makeRoom_of_recent slots ?_ (by simp), oldBacks.framebuffer_eq, ?_⟩
      · rw [depth]
        exact room
      · rw [layouts]
        exact oldBacks.handles
  latest other shownLast := by
    rw [latest other shownLast]
    refine ⟨g, ?_, backs⟩
    rw [Ring.newest?, slots, List.getLast?_concat]

/-- As long as a call submits nothing and leaves alone what stays in the ring, it is safe. -/
theorem keeps (covers : Covers m s) {moments : List Moment} (still : Still (eventsOf moments))
    (spares : Spares (movementsOf (eventsOf moments)) m.keptResources) :
    Keeps Screen.inUse plane s moments ∧ (s.run plane moments).Within s := by
  refine keeps_of_still (fun within r => within.inUse) still (fun f handed member => ?_)
    (fun r given used => ?_)
  · have used : .framebuffer f ∈ s.inUse := Screen.mem_inUse.mpr ⟨f, member, .inl rfl⟩
    exact (spares _ (covers.mem_keptResources used)).2 handed
  · exact (spares _ (covers.mem_keptResources used)).1 given

/-- A new generation is covered for as long as it takes to hand it over, and after that. -/
theorem handOver (covers : Covers m s) {front idle : List Moment} {request : Request}
    {a : interface.Answer request} (unreleased : request.released? = none)
    (still : Still (eventsOf front))
    (spares : Spares (movementsOf (eventsOf front)) m.keptResources)
    (handed : Covers m (s.run plane front) → Covers left ((s.run plane front).answer plane request a))
    (quiet : eventsOf idle = []) :
    Keeps Screen.inUse plane s (front ++ .event (.answered request a) :: idle) ∧
      Covers left (s.run plane (front ++ .event (.answered request a) :: idle)) := by
  obtain ⟨keeps, within⟩ := covers.keeps still spares
  obtain ⟨keepsLater, withinLater⟩ := keeps_of_idle quiet
  rw [Screen.run_append, Screen.run_cons]
  refine ⟨keeps_append.mpr ⟨keeps, fun r given => ?_, keepsLater⟩,
    (handed (covers.within within)).within withinLater⟩
  rw [Moment.released?, unreleased] at given
  cases given

end Covers

variable {m : Manager} {s : Screen} {image : Image} {src dst : Rect} {batch : Batch}
  {p : Presentation} {call submit : List Moment}

/-- A presentation gives back, and is handed out, nothing that stays in the ring. -/
theorem Manager.Presents.spares {events : List (Event interface)}
    (presents : m.Presents image src dst batch events p)
    (fresh : Fresh m.resources (movementsOf events))
    (unique : (m.resources : Multiset Resource).Nodup) :
    Spares (movementsOf events) m.keptResources := by
  obtain ⟨left, settles, -⟩ := presents.settles_beside
  rw [m.resources_eq] at fresh unique
  exact settles.spares fresh unique

/-- The newest generation keeps alive what its framebuffer was made from. -/
theorem Manager.Shown.backs {f : FramebufferId} {g : Generation}
    (shown : m.Shown (eventsOf call) p f g) (plane : UInt32) (s : Screen) :
    Backs (s.run plane call) g f := by
  obtain ⟨before, layout, later, split, unmade, handles⟩ := shown.made
  refine ⟨shown.framebuffer_eq, ?_⟩
  rw [Screen.layouts_of_made split unmade]
  exact handles

namespace Covers

theorem failed (covers : Covers m s) (deep : 2 ≤ m.ring.depth) {plane : UInt32} {fault : Fault}
    (presents : m.Presents image src dst batch (eventsOf call) p)
    (failed : p.outcome = .error fault)
    (spares : Spares (movementsOf (eventsOf call)) m.keptResources) :
    Keeps Screen.inUse plane s call ∧ Covers p.manager (s.run plane call) := by
  obtain ⟨keeps, within⟩ := covers.keeps (presents.still_of_error failed) spares
  refine ⟨keeps, (covers.within within).congr ?_ ?_⟩
  · cases (presents.fails failed).how with
    | check ring_eq => rw [ring_eq]
    | device ring_eq => rw [ring_eq, Ring.makeRoom_makeRoom]
  · cases (presents.fails failed).how with
    | check ring_eq => rw [ring_eq]
    | device ring_eq => rw [ring_eq, Ring.makeRoom_newest? deep]

/-- A plane update that succeeds at the end of a presentation puts the new generation in charge. -/
theorem updated (covers : Covers m s) (deep : 2 ≤ m.ring.depth) {plane : UInt32}
    (plane_eq : m.config.targets.videoPlane = plane) {f : FramebufferId}
    {g : Generation} {events : List (Event interface)} (shown : m.Shown events p f g)
    (called : eventsOf call = events) (legacy : m.config.strategy = .legacy)
    (spares : Spares (movementsOf events) m.keptResources) :
    Keeps Screen.inUse plane s call ∧ Covers p.manager (s.run plane call) := by
  cases shown.handed with
  | staged atomic => rw [legacy] at atomic; cases atomic
  | updated _ front update events_eq still target_eq framebuffer_eq =>
    obtain ⟨first, last, rfl, early, idle⟩ := exists_of_eventsOf_concat (called.trans events_eq)
    rw [events_eq, movementsOf_append] at spares
    have sparesFront := spares.of_append_left
    rw [← early] at still sparesFront
    refine covers.handOver rfl still sparesFront (fun covered => ?_) idle
    have whole : eventsOf (first ++ [.event (.answered (.setPlane update) (.ok ()))]) = events := by
      rw [eventsOf_append, early, events_eq]
      rfl
    rw [← whole] at shown
    have backs := shown.backs plane s
    have turned : (s.run plane first).answer plane (.setPlane update) (.ok ())
        = (s.run plane first).turnTo (some f) := by
      simp only [Screen.answer, target_eq, plane_eq, framebuffer_eq, if_pos]
    rw [Screen.run_append, Screen.run_cons, Screen.run_nil] at backs
    refine covered.advance shown.slots_eq shown.depth_eq deep backs ?_ ?_ ?_
    all_goals rw [turned]
    · rfl
    · rintro other ⟨⟩
      rfl
    · intro other member
      rw [Screen.turnTo_shown, Option.toList_some, List.mem_singleton] at member
      exact .inl member

/-- A batch that is accepted after its presentation puts the new generation in charge. -/
theorem committed (covers : Covers m s) (deep : 2 ≤ m.ring.depth) {plane : UInt32}
    (plane_eq : m.config.targets.videoPlane = plane) {f : FramebufferId}
    {g : Generation} (shown : m.Shown (eventsOf call) p f g)
    (atomic : m.config.strategy = .atomic) (room : 3 ≤ m.ring.depth)
    (spares : Spares (movementsOf (eventsOf call)) m.keptResources) {nonblock : Bool}
    (accepted : eventsOf submit = [.answered (.commit p.batch nonblock) (.ok ())])
    (orderly : Orderly plane s (call ++ submit)) :
    Keeps Screen.inUse plane s (call ++ submit) ∧
      Covers p.manager (s.run plane (call ++ submit)) := by
  cases shown.handed with
  | updated legacy => rw [atomic] at legacy; cases legacy
  | staged _ still value =>
    obtain ⟨waits, last, rfl, waiting, idle⟩ := exists_of_eventsOf_singleton accepted
    have called : eventsOf (call ++ waits) = eventsOf call := by
      rw [eventsOf_append, waiting, List.append_nil]
    rw [← called] at still spares shown
    rw [← List.append_assoc] at orderly ⊢
    obtain ⟨-, free, -⟩ := orderly_append.mp orderly
    refine covers.handOver rfl still spares (fun covered => ?_) idle
    have backs := shown.backs plane s
    rw [plane_eq] at value
    rw [Screen.answer_commit value]
    cases nonblock with
    | false =>
      refine covered.advance shown.slots_eq shown.depth_eq deep ⟨backs.1, backs.2⟩ rfl
        (fun other => eq_of_framebufferOf) (fun other member => ?_)
      exact .inl (eq_of_framebufferOf (by simpa using member))
    | true =>
      refine covered.advance shown.slots_eq shown.depth_eq deep ⟨backs.1, backs.2⟩ rfl
        (fun other => eq_of_framebufferOf) (fun other member => ?_)
      -- Only what the last commit showed is still read: it has latched, or this one would wait.
      rw [if_pos rfl, Screen.await_shown, List.mem_append, Option.mem_toList,
        Option.mem_toList] at member
      rcases member with before | next
      · exact .inr ⟨by rw [Screen.latest_of_settled (free rfl)]; exact before, room⟩
      · exact .inl (eq_of_framebufferOf next)

end Covers

/-- The frames of a stream, with latches anywhere. A frame that fails is given up; a plane update
takes effect within its presentation; a batch is accepted before the next frame is presented. -/
inductive Streaming (m₀ : Manager) : List Moment → Manager → Prop where
  | start : Streaming m₀ [] m₀
  | failed {m : Manager} {moments call : List Moment} {image : Image} {src dst : Rect}
      {batch : Batch} {p : Presentation} {fault : Fault} (stream : Streaming m₀ moments m)
      (run : (m.present (some image) src dst batch).Runs (eventsOf call) p)
      (outcome : p.outcome = .error fault) : Streaming m₀ (moments ++ call) p.manager
  | updated {m : Manager} {moments call : List Moment} {image : Image} {src dst : Rect}
      {batch : Batch} {p : Presentation} (stream : Streaming m₀ moments m)
      (legacy : m.config.strategy = .legacy)
      (run : (m.present (some image) src dst batch).Runs (eventsOf call) p)
      (outcome : p.outcome = .ok ()) : Streaming m₀ (moments ++ call) p.manager
  | committed {m : Manager} {moments call submit : List Moment} {image : Image} {src dst : Rect}
      {batch : Batch} {p : Presentation} {nonblock : Bool} (stream : Streaming m₀ moments m)
      (atomic : m.config.strategy = .atomic)
      (run : (m.present (some image) src dst batch).Runs (eventsOf call) p)
      (outcome : p.outcome = .ok ())
      (accepted : eventsOf submit = [.answered (.commit p.batch nonblock) (.ok ())]) :
      Streaming m₀ (moments ++ (call ++ submit)) p.manager

namespace Streaming

variable {config : Config} {m₀ : Manager} {s₀ : Screen} {moments : List Moment}

theorem settles (stream : Streaming m₀ moments m) :
    Settles m₀.resources (movementsOf (eventsOf moments)) m.resources := by
  induction stream with
  | start => exact .nil _
  | failed _ run _ ih | updated _ _ run _ ih =>
    rw [eventsOf_append, movementsOf_append]
    exact ih.append (Manager.presentSome_runs run).settles
  | committed _ _ run _ accepted ih =>
    rw [eventsOf_append, eventsOf_append, accepted, movementsOf_append, movementsOf_append]
    exact ih.append ((Manager.presentSome_runs run).settles.append
      (settles_of_neutral (by simp)))

theorem sound (stream : Streaming m₀ moments m) (sound : m₀.Sound config) : m.Sound config := by
  induction stream with
  | start => exact sound
  | failed _ run _ ih | updated _ _ run _ ih | committed _ _ run _ _ ih =>
    exact ih.resumed.presented rfl (Manager.presentSome_runs run)

/-- What one more frame spares, with what the frames before it take for granted. -/
theorem spares (stream : Streaming m₀ moments m)
    (unique : (m₀.resources : Multiset Resource).Nodup)
    (fresh : Fresh m₀.resources (movementsOf (eventsOf (moments ++ call))))
    (presents : m.resumed.Presents image src dst batch (eventsOf call) p) :
    Fresh m₀.resources (movementsOf (eventsOf moments)) ∧
      Spares (movementsOf (eventsOf call)) m.resumed.keptResources := by
  rw [eventsOf_append, movementsOf_append, stream.settles.fresh_append] at fresh
  exact ⟨fresh.1, presents.spares fresh.2 (stream.settles.nodup fresh.1 unique)⟩

theorem steady (stream : Streaming m₀ moments m) (sound : m₀.Sound config)
    (unique : (m₀.resources : Multiset Resource).Nodup) (covers : Covers m₀ s₀)
    (fresh : Fresh m₀.resources (movementsOf (eventsOf moments)))
    (orderly : Orderly config.targets.videoPlane s₀ moments) :
    Keeps Screen.inUse config.targets.videoPlane s₀ moments ∧
      Covers m (s₀.run config.targets.videoPlane moments) := by
  induction stream with
  | start => exact ⟨trivial, covers⟩
  | failed stream run outcome ih =>
    have presents := Manager.presentSome_runs run
    obtain ⟨earlier, spares⟩ := stream.spares unique fresh presents
    obtain ⟨keeps, covers⟩ := ih earlier (orderly_append.mp orderly).1
    obtain ⟨keepsCall, coversCall⟩ :=
      covers.resumed.failed (stream.sound sound).two_le_depth presents outcome spares
    rw [Screen.run_append]
    exact ⟨keeps_append.mpr ⟨keeps, keepsCall⟩, coversCall⟩
  | updated stream legacy run outcome ih =>
    have presents := Manager.presentSome_runs run
    obtain ⟨earlier, spares⟩ := stream.spares unique fresh presents
    obtain ⟨keeps, covers⟩ := ih earlier (orderly_append.mp orderly).1
    obtain ⟨f, g, shown⟩ := presents.shown_of_ok outcome
    have sound := stream.sound sound
    obtain ⟨keepsCall, coversCall⟩ := covers.resumed.updated sound.two_le_depth
      sound.videoPlane_eq shown rfl legacy spares
    rw [Screen.run_append]
    exact ⟨keeps_append.mpr ⟨keeps, keepsCall⟩, coversCall⟩
  | @committed _ moments call submit _ _ _ _ _ _ stream atomic run outcome accepted ih =>
    have silent : movementsOf (eventsOf submit) = [] := by
      rw [accepted]
      exact movementsOf_of_neutral (by simp)
    have same : movementsOf (eventsOf (moments ++ (call ++ submit)))
        = movementsOf (eventsOf (moments ++ call)) := by simp [silent]
    rw [same] at fresh
    have presents := Manager.presentSome_runs run
    obtain ⟨earlier, spares⟩ := stream.spares unique fresh presents
    obtain ⟨before, after⟩ := orderly_append.mp orderly
    obtain ⟨keeps, covers⟩ := ih earlier before
    obtain ⟨f, g, shown⟩ := presents.shown_of_ok outcome
    have sound := stream.sound sound
    have room := (sound.depth_of_atomic atomic).ge
    obtain ⟨keepsCall, coversCall⟩ := covers.resumed.committed sound.two_le_depth
      sound.videoPlane_eq shown atomic room spares accepted after
    rw [Screen.run_append]
    exact ⟨keeps_append.mpr ⟨keeps, keepsCall⟩, coversCall⟩

end Streaming

theorem Manager.resources_nodup_of_empty {m : Manager} (empty : m.ring.slots = []) :
    (m.resources : Multiset Resource).Nodup := by
  rw [Manager.resources, empty, Manager.sessionResources]
  cases m.hdr <;> simp

/-- Whatever the order of frames, failures and latches: no presentation of a stream gives back a
framebuffer that the plane reads or will read, or a handle that such a framebuffer was made from. -/
theorem stream_keeps {config : Config} {m₀ : Manager} (reachable : Reachable config m₀)
    (empty : m₀.ring.slots = []) {s₀ : Screen} (current : s₀.current = none)
    (pending : s₀.pending = none) {moments : List Moment} (stream : Streaming m₀ moments m)
    (run : (m.present (some image) src dst batch).Runs (eventsOf call) p)
    (fresh : Fresh m₀.resources (movementsOf (eventsOf (moments ++ call))))
    (orderly : Orderly config.targets.videoPlane s₀ (moments ++ call)) :
    Keeps Screen.inUse config.targets.videoPlane s₀ (moments ++ call) := by
  obtain ⟨acts, events, life⟩ := reachable
  have sound₀ := life.sound m₀ rfl
  have sound := stream.sound sound₀
  have unique := Manager.resources_nodup_of_empty empty
  have presents := Manager.presentSome_runs run
  obtain ⟨earlier, spares⟩ := stream.spares unique fresh presents
  obtain ⟨keeps, covers⟩ := stream.steady sound₀ unique (.of_dark current pending) earlier
    (orderly_append.mp orderly).1
  refine keeps_append.mpr ⟨keeps, ?_⟩
  cases outcome : p.outcome with
  | error fault => exact (covers.resumed.failed sound.two_le_depth presents outcome spares).1
  | ok _ =>
    obtain ⟨f, g, shown⟩ := presents.shown_of_ok outcome
    cases shown.handed with
    | staged atomic still value => exact (covers.resumed.keeps still spares).1
    | updated legacy =>
      exact (covers.resumed.updated sound.two_le_depth sound.videoPlane_eq shown rfl legacy
        spares).1

namespace Sample

open Simulation

def dark : Screen := ⟨none, none, fun _ => []⟩

def firstFrame : List Moment :=
  showing.1.map .event ++ [.event (.answered (.commit showing.2.1.batch true) (.ok ())), .latch]

theorem firstFrame_streaming : Streaming created firstFrame showing.2.1.manager := by
  have run : (created.present (some Sample.image) area area .empty).Runs
      (eventsOf (showing.1.map .event)) showing.2.1 := by
    rw [eventsOf_map_event]
    exact showing_runs
  exact .committed .start rfl run rfl rfl

def framesAfter : Nat → List Moment
  | 0 => firstFrame
  | n + 1 =>
    framesAfter n ++ ((showingAfter (n + 1)).1.map .event
      ++ [.event (.answered (.commit (showingAfter (n + 1)).2.1.batch true) (.ok ())), .latch])

theorem framesAfter_succ {n : Nat}
    (stream : Streaming created (framesAfter n) (showingAfter n).2.1.manager)
    (atomic : (showingAfter n).2.1.manager.config.strategy = .atomic)
    (shown : (showingAfter (n + 1)).2.1.outcome = .ok ()) :
    Streaming created (framesAfter (n + 1)) (showingAfter (n + 1)).2.1.manager := by
  have run : ((showingAfter n).2.1.manager.present (some Sample.image) area area .empty).Runs
      (eventsOf ((showingAfter (n + 1)).1.map .event)) (showingAfter (n + 1)).2.1 := by
    rw [eventsOf_map_event]
    exact showingAfter_runs n
  exact .committed stream atomic run shown rfl

theorem framesAfter_streaming : Streaming created (framesAfter 3) (showingAfter 3).2.1.manager := by
  have second := framesAfter_succ (n := 0) firstFrame_streaming rfl rfl
  have third := framesAfter_succ second rfl rfl
  exact framesAfter_succ third rfl rfl

/-- A fifth frame, before its batch is committed. -/
def fifthFrame : List Moment := (showingAfter 4).1.map .event

theorem fifthFrame_runs :
    ((showingAfter 3).2.1.manager.present (some Sample.image) area area .empty).Runs
      (eventsOf fifthFrame) (showingAfter 4).2.1 := by
  rw [fifthFrame, eventsOf_map_event]
  exact showingAfter_runs 3

end Sample

/-- For each frame from the fourth on, the oldest gives way. -/
theorem stream_keeps_fifth_frame :
    Fresh Sample.created.resources
        (movementsOf (eventsOf (Sample.framesAfter 3 ++ Sample.fifthFrame))) ∧
      Orderly 63 Sample.dark (Sample.framesAfter 3 ++ Sample.fifthFrame) ∧
      releasedOf (movementsOf (eventsOf (Sample.framesAfter 3 ++ Sample.fifthFrame)))
        = [.framebuffer ⟨2⟩, .handle ⟨1⟩, .framebuffer ⟨5⟩, .handle ⟨4⟩] ∧
      Keeps Screen.inUse 63 Sample.dark (Sample.framesAfter 3 ++ Sample.fifthFrame) := by
  have reachable : Reachable Sample.config Sample.created :=
    ⟨_, _, .next .start (.created Sample.creation_runs)⟩
  have fresh : Fresh Sample.created.resources
      (movementsOf (eventsOf (Sample.framesAfter 3 ++ Sample.fifthFrame))) := by
    decide
  have orderly : Orderly 63 Sample.dark (Sample.framesAfter 3 ++ Sample.fifthFrame) := by
    decide
  exact ⟨fresh, orderly, by decide, stream_keeps reachable rfl rfl rfl
    Sample.framesAfter_streaming Sample.fifthFrame_runs fresh orderly⟩

end Scanout.Overlay
