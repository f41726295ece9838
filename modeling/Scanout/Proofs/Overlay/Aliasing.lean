import Scanout.Proofs.Overlay.History
import Scanout.Proofs.Overlay.Releases

/-!
# Frames that share a buffer

A frame imports its buffers whether or not another frame of the ring has them open. On a device that
shares handles both then list the same handles, and the frame that is released first closes them for
the other. `handles_closed_once_iff` says that this is the only way in which a handle is closed at
the wrong time, or twice: the handles are closed once just if at no time the ring shows a buffer
twice, as it does when an image is shown again before it has left the ring, or when two objects of
an image are the same buffer.
-/

namespace Scanout.Overlay

open Display Proc Generation

variable {Buffer : Type} [DecidableEq Buffer] {memory : Option Image → Fd → Buffer}
  {o last : Openings Buffer}

theorem passive_disableRequest (config : Config) : (disableRequest config).Passive := by
  unfold disableRequest
  cases config.strategy <;> exact ⟨rfl, rfl⟩

theorem Blames.ne_closeHandle {fault : Fault} {request : Request} {cause : DeviceError}
    (blames : Blames fault request cause) (h : GemHandle) : request ≠ .closeHandle h := by
  cases blames <;> exact Request.noConfusion

namespace Manager

variable {m left : Manager} {events : List (Event interface)}

theorem modeRequests_passive : ∀ request ∈ m.modeRequests, request.Passive := by
  unfold modeRequests
  split <;> simp [Request.Passive, Request.trades, Request.retires]

theorem Submits.passive {color : Color} {g : Generation} {geometry : PlaneGeometry} {batch : Batch}
    {outcome : Except PresentError Batch}
    (submitted : Submits m color g geometry batch events left outcome) :
    ∀ request ∈ requestsOf events, request.Passive := by
  cases submitted <;> simp [Request.Passive, Request.trades, Request.retires]

end Manager

def Turn.image? (t : Turn) : Option Image :=
  match t.asked with
  | .present image .. => image
  | _ => none

theorem Manager.Presents.turnover {m : Manager} {image : Image} {src dst : Rect} {batch : Batch}
    {events : List (Event interface)} {p : Presentation}
    (presents : m.Presents image src dst batch events p)
    (along : o.Along (memory (some image)) events last) :
    Turnover memory (memory (some image)) m.ring.slots events p.manager.ring.slots := by
  cases outcome : p.outcome with
  | error fault =>
    have fails := presents.fails outcome
    cases fails.how with
    | check ring_eq _ calls =>
      rw [ring_eq]
      refine .still ?_
      rw [calls]
      exact modeRequests_passive
    | device _ request cause blame answered =>
      -- The device has failed at something other than a closing.
      obtain ⟨h, closing⟩ := along.of_error answered
      exact absurd closing (blame.ne_closeHandle h)
  | ok _ =>
    cases presents with
    | @shown start imports submits size format geometry handles framebuffer left _
        prepares importing submitted =>
      obtain ⟨query, evict, rfl, asks, evicted, -⟩ := prepares.calls
      have passive := submitted.passive
      obtain ⟨hdr, reported, rfl⟩ := submitted.left_eq
      rw [slots_installed m.ring.makeRoom_makeRoom, ← Ring.makeRoom_slots, List.append_assoc]
      refine .mk ?_ evicted ?_ fun {o last} coming => ?_
      · rw [asks.calls.1]
        exact modeRequests_passive
      · intro request asked
        rw [requestsOf_append, List.mem_append, requestsOf_answered, List.mem_cons] at asked
        rcases asked with imported | rfl | submits
        · obtain ⟨fd, rfl⟩ :=
            (HandleSet.extends_of_runs importing).only_imports rfl imported
          rfl
        · rfl
        · exact (passive request submits).2
      · obtain ⟨opened, opens, later⟩ := Openings.along_append.mp coming
        obtain rfl : last = opened := by
          refine later.eq_of_idle fun request asked => ?_
          rcases List.mem_cons.mp asked with rfl | submits
          · rfl
          · exact (passive request submits).1
        obtain ⟨grows, names⟩ := HandleSet.names_of_ofPlanes importing opens
        refine ⟨grows, fun g member => ?_⟩
        rw [List.mem_singleton.mp member]
        exact names
    | refused | importFailed | framebufferFailed | submitFailed => cases outcome

theorem Manager.Drains.turnover {m : Manager} {events : List (Event interface)}
    {reads : Fd → Buffer} (drains : m.Drains events) :
    Turnover memory reads m.ring.slots events [] := by
  obtain ⟨answer, releases, rfl, given⟩ := drains.calls
  rw [resources, List.map_append] at given
  obtain ⟨ring, session, rfl, ringCalls, sessionCalls⟩ := List.filterMap_eq_append_iff.mp given
  have passive : ∀ request ∈ requestsOf session, request.Passive := by
    rw [requestsOf, sessionCalls, sessionResources]
    cases m.hdr <;> simp [Resource.releaseCall, Request.Passive, Request.trades, Request.retires]
  have turnover : Turnover memory reads (m.ring.slots ++ [])
      ([disableEvent m.config answer] ++ ring ++ session) ([] ++ []) := by
    refine .mk ?_ ringCalls (fun request asked => (passive request asked).2) fun {o last} along => ?_
    · simp [passive_disableRequest]
    · obtain rfl := along.eq_of_idle fun request asked => (passive request asked).1
      exact ⟨fun _ _ named => named, List.forall_mem_nil _⟩
  simpa using turnover

theorem Turn.Takes.turnover {t : Turn} (takes : Turn.Takes t)
    (along : o.Along (memory t.image?) t.events last) :
    Turnover memory (memory t.image?) t.before.ring.slots t.events t.reply.manager.ring.slots := by
  cases takes with
  | presented presents => exact presents.turnover along
  | ended drains | released _ drains => exact drains.turnover
  | refreshed calls =>
    refine .still ?_
    rw [calls]
    simp [Request.Passive, Request.trades, Request.retires]
  | disabled calls =>
    refine .still ?_
    rw [calls]
    simp [passive_disableRequest]
  | idle => exact .still fun request asked => nomatch asked

/-- How a device that shares handles serves turns. `memory` tells the buffer behind every file
descriptor of an image, so that a number may come to stand for another buffer in another image. -/
def Served (memory : Option Image → Fd → Buffer) (o : Openings Buffer) :
    List Turn → Openings Buffer → Prop
  | [], last => last = o
  | t :: later, last =>
    ∃ next, o.Along (memory t.image?) t.events next ∧ Served memory next later last

theorem served_concat {turns : List Turn} {t : Turn} :
    Served memory o (turns ++ [t]) last ↔
      ∃ next, Served memory o turns next ∧ next.Along (memory t.image?) t.events last := by
  induction turns generalizing o with
  | nil => simp [Served]
  | cons first rest ih =>
    simp only [List.cons_append, Served, ih]
    constructor
    · rintro ⟨second, begins, next, middle, ends⟩
      exact ⟨next, ⟨second, begins, middle⟩, ends⟩
    · rintro ⟨next, ⟨second, begins, middle⟩, ends⟩
      exact ⟨second, begins, next, middle, ends⟩

/-- No closing of the turn fails, or takes a handle from a generation that is still in the ring. -/
def Turn.ClosesOnce (t : Turn) : Prop := Generation.ClosesOnce t.before.ring.slots t.events

/-- The ring that the turn has left shows no buffer twice. -/
def Turn.Apart (memory : Option Image → Fd → Buffer) (t : Turn) : Prop :=
  Generation.Apart memory t.reply.manager.ring.slots

instance (t : Turn) : Decidable (t.Apart memory) :=
  inferInstanceAs (Decidable (Generation.Apart ..))

/-- As long as no buffer is shown twice, all closes well. As long as all closes well, the ring is
listed right, and a ring that comes to show no buffer twice never did. -/
theorem History.closesOnce {config : Config} {start m : Manager} {turns : List Turn}
    (sound : start.Sound config) (empty : start.ring.slots = []) (history : History start turns m)
    (served : Served memory o turns last) :
    ((∀ t ∈ turns, t.Apart memory) →
      (∀ t ∈ turns, t.ClosesOnce) ∧ Generation.Apart memory m.ring.slots) ∧
    ((∀ t ∈ turns, t.ClosesOnce) →
      Listed memory last m.ring.slots ∧
        (Generation.Apart memory m.ring.slots → ∀ t ∈ turns, t.Apart memory)) := by
  induction history generalizing last with
  | nil =>
    rw [empty]
    exact ⟨fun _ => ⟨List.forall_mem_nil _, List.nodup_nil⟩,
      fun _ => ⟨List.forall_mem_nil _, fun _ => List.forall_mem_nil _⟩⟩
  | @concat turns t past run ih =>
    obtain ⟨next, before, along⟩ := served_concat.mp served
    obtain ⟨forth, back⟩ := ih before
    have turnover := (Call.takes run).turnover along
    have framed := (History.sound past sound).framed
    simp only [List.forall_mem_append, List.forall_mem_singleton]
    constructor
    · rintro ⟨earlier, apart⟩
      obtain ⟨closed, apartBefore⟩ := forth earlier
      obtain ⟨listed, -⟩ := back closed
      exact ⟨⟨closed, (turnover.closesOnce framed listed along).1 apartBefore⟩, apart⟩
    · rintro ⟨earlier, closes⟩
      obtain ⟨listed, apartBack⟩ := back earlier
      obtain ⟨listedAfter, apartBefore⟩ := (turnover.closesOnce framed listed along).2 closes
      exact ⟨listedAfter, fun apart => ⟨apartBack (apartBefore apart), apart⟩⟩

namespace Sample

open Simulation

/-- File descriptors are not used twice: each has a buffer of its own. -/
def behind (_ : Option Image) (fd : Fd) : UInt32 := fd.number.toUInt32

/-- Frames are shown by plane updates on a device that shares handles. -/
def sharing : Config := { config with strategy := .legacy }

def sharingCreated : Manager := .fresh sharing none .silent

def sharingCreation : List (Event interface) :=
  ((Manager.create sharing).run (PrimeDevice.answer (behind none)) ⟨[]⟩).1

theorem sharingCreation_runs : (Manager.create sharing).Runs sharingCreation (.ok sharingCreated) :=
  runs_run (I := interface) (PrimeDevice.answer (behind none)) (Manager.create sharing) ⟨[]⟩

/-- The calls, made of the manager on that device, where nothing is open. -/
def sharingCalls (asked : List Call) : List Turn × Manager :=
  simulate (fun m call => Call.reply m call) Presentation.manager
    (PrimeDevice.answer (behind none)) asked sharingCreated ⟨[]⟩

theorem sharingCalls_history (asked : List Call) :
    History sharingCreated (sharingCalls asked).1 (sharingCalls asked).2 :=
  simulate_history (I := interface) (PrimeDevice.answer (behind none)) asked _ _

theorem served_simulate (asked : List Call) (m : Manager) (d : PrimeDevice) :
    ∃ last : PrimeDevice, Served behind d.openings
      (simulate (fun m call => Call.reply m call) Presentation.manager
        (PrimeDevice.answer (behind none)) asked m d).1 last.openings := by
  induction asked generalizing m d with
  | nil => exact ⟨d, rfl⟩
  | cons first rest ih =>
    obtain ⟨last, later⟩ := ih _ _
    exact ⟨last, _, PrimeDevice.along_run (Call.reply m first) d, later⟩

theorem sharingCalls_served (asked : List Call) : ∃ last : PrimeDevice,
    Served behind (PrimeDevice.openings ⟨[]⟩) (sharingCalls asked).1 last.openings :=
  served_simulate asked sharingCreated ⟨[]⟩

def planar : Image where
  serial := 1
  descriptor :=
    { objects := [⟨⟨8⟩, 2073600⟩, ⟨⟨9⟩, 1036800⟩]
      layers := [⟨.nv12, [⟨0, 0, 1920⟩, ⟨1, 0, 1920⟩]⟩]
      objects_allowed := by decide
      layers_allowed := by decide
      layers_fit := by simp [Layer.Fits, CountAllowed, maxPlanes] }
  size := ⟨1920, 1080⟩
  color := {}

def planarFrame : Call := .present (some planar) area area .empty

end Sample

/-- From the creation of a manager on, whatever is shown: handles are closed once as long as the ring
shows no buffer twice. Once the manager is dropped, they have been closed once just if it never
did. -/
theorem handles_closed_once_iff {config : Config} {opening : List (Event interface)}
    {start m : Manager} {turns : List Turn} (creating : (Manager.create config).Runs opening (.ok start))
    (history : History start turns m) (served : Served memory o turns last) :
    ((∀ t ∈ turns, t.Apart memory) → ∀ t ∈ turns, t.ClosesOnce) ∧
    ∀ closing closed, m.drop.Runs closing () → last.Along (memory none) closing closed →
      ((∀ t ∈ turns, t.ClosesOnce) ∧ Generation.ClosesOnce m.ring.slots closing ↔
        ∀ t ∈ turns, t.Apart memory) := by
  have sound := Manager.Sound.created creating
  obtain ⟨size, panel, rfl⟩ := (Manager.create_runs creating).2.2 start rfl
  refine ⟨fun apart => ((history.closesOnce sound rfl served).1 apart).1, ?_⟩
  intro closing closed drop along
  -- A drop is one more turn, and nothing is in the ring after it.
  obtain ⟨left, releasing⟩ :=
    Manager.drop_runs (fun torn => ((history.sound sound).torn torn).1) drop
  let t : Turn := ⟨m, .uninit, closing, ⟨left, .empty, .ok ()⟩⟩
  have empty : left.ring.slots = [] := by
    rcases Manager.uninit_runs releasing with ⟨torn, -, rfl⟩ | ⟨-, -, rfl⟩
    · exact ((history.sound sound).torn torn).1
    · rfl
  have apart : Generation.Apart memory left.ring.slots := by
    rw [empty]
    exact List.nodup_nil
  have whole : History _ (turns ++ [t]) left := history.concat (runs_map.mpr ⟨left, releasing, rfl⟩)
  obtain ⟨forth, back⟩ :=
    whole.closesOnce sound rfl (served_concat.mpr ⟨last, served, along⟩)
  simp only [List.forall_mem_append, List.forall_mem_singleton] at forth back
  exact ⟨fun closes => ((back closes).2 apart).1, fun earlier => (forth ⟨earlier, apart⟩).1⟩

/-- An image is shown again after it has left the ring. -/
theorem handles_closed_once_iff_three_frames :
    ∃ turns m last closing closed,
      (Manager.create Sample.sharing).Runs Sample.sharingCreation (.ok Sample.sharingCreated) ∧
      History Sample.sharingCreated turns m ∧
      Served Sample.behind (Simulation.PrimeDevice.openings ⟨[]⟩) turns last ∧
      turns.map Turn.shown? = [some Sample.image, some Sample.planar, some Sample.image] ∧
      (∀ t ∈ turns, t.Apart Sample.behind) ∧ m.drop.Runs closing () ∧
      last.Along (Sample.behind none) closing closed ∧ (∀ t ∈ turns, t.ClosesOnce) ∧
      Generation.ClosesOnce m.ring.slots closing := by
  let made := Sample.sharingCalls [Sample.frame, Sample.planarFrame, Sample.frame]
  have history := Sample.sharingCalls_history [Sample.frame, Sample.planarFrame, Sample.frame]
  obtain ⟨last, served⟩ :=
    Sample.sharingCalls_served [Sample.frame, Sample.planarFrame, Sample.frame]
  have dropping := runs_run (I := interface) (Simulation.PrimeDevice.answer (Sample.behind none))
    made.2.drop last
  have along : last.openings.Along (Sample.behind none) _ _ :=
    Simulation.PrimeDevice.along_run made.2.drop last
  have apart : ∀ t ∈ made.1, t.Apart Sample.behind := by decide
  obtain ⟨-, once⟩ := handles_closed_once_iff Sample.sharingCreation_runs history served
  obtain ⟨closes, ends⟩ := (once _ _ dropping along).mpr apart
  exact ⟨_, _, _, _, _, Sample.sharingCreation_runs, history, served, rfl, apart, dropping, along,
    closes, ends⟩

/-- An image is shown twice, and the stream ends. The two generations list the same handles, and the
release of the first closes those of the second. -/
theorem handles_closed_twice :
    ∃ turns m last,
      (Manager.create Sample.sharing).Runs Sample.sharingCreation (.ok Sample.sharingCreated) ∧
      History Sample.sharingCreated turns m ∧
      Served Sample.behind (Simulation.PrimeDevice.openings ⟨[]⟩) turns last ∧
      turns.map Turn.shown? = [some Sample.image, some Sample.image, none] ∧
      ¬ ∀ t ∈ turns, t.ClosesOnce := by
  let made := Sample.sharingCalls [Sample.frame, Sample.frame, .uninit]
  have history := Sample.sharingCalls_history [Sample.frame, Sample.frame, .uninit]
  obtain ⟨last, served⟩ := Sample.sharingCalls_served [Sample.frame, Sample.frame, .uninit]
  have shared : ¬ ∀ t ∈ made.1, t.Apart Sample.behind := by decide
  refine ⟨_, _, _, Sample.sharingCreation_runs, history, served, rfl, fun closes => shared ?_⟩
  have sound := Manager.Sound.created Sample.sharingCreation_runs
  exact ((history.closesOnce sound rfl served).2 closes).2 List.nodup_nil

end Scanout.Overlay
