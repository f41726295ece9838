import Mathlib.Data.List.DropRight
import Scanout.Proofs.Overlay.Atomicity
import Scanout.Proofs.Overlay.History
import Scanout.Proofs.Overlay.Signalling

/-!
# One session for each stream

A stream that is shown by commits has one session: the first frame that is shown opens it, every
frame of the stream signals it, and the end of the stream closes it. `currentStream` cuts a history
at its last end of a stream; `Running` is what its turns and the manager have to do with each other,
whatever has failed in between.
-/

namespace Scanout.Overlay

open Display Proc

instance : DecidablePred Call.Closes
  | .present image .. => decidable_of_iff (image.isNone = true) Option.isNone_iff_eq_none
  | .uninit => inferInstanceAs (Decidable True)
  | .refreshDisplaySize | .disablePlane => inferInstanceAs (Decidable False)

/-- The turns since the manager was created, or since a stream was last ended. -/
def currentStream (turns : List Turn) : List Turn := turns.rtakeWhile fun t => ¬ t.asked.Closes

theorem currentStream_concat {turns : List Turn} {t : Turn} (goesOn : ¬ t.asked.Closes) :
    currentStream (turns ++ [t]) = currentStream turns ++ [t] :=
  List.rtakeWhile_concat_pos _ _ _ (decide_eq_true goesOn)

theorem currentStream_closed {turns : List Turn} {t : Turn} (closes : t.asked.Closes) :
    currentStream (turns ++ [t]) = [] :=
  List.rtakeWhile_concat_neg _ _ _ (by simpa using closes)

/-- What a session has had made for it, and what its end destroys. -/
def HdrSession.made (session : HdrSession) : BlobCall :=
  .made session.metadata.toBytes session.blob

/-- The turn has written the session's colours: one transfer function on the plane, and the blob on
the connector of a panel that takes it. -/
def Turn.Signals (targets : Targets) (panel : Panel) (session : HdrSession) (t : Turn) : Prop :=
  ∃ image src dst batch writes, t.asked = .present image src dst batch ∧
    t.reply.batch = batch.append writes ∧
    writes.valuesOf (.plane targets.videoPlane) Property.eotf
      = [(signalledEotf panel session.metadata).toUInt64] ∧
    writes.valuesOf (.connector targets.connector) Property.hdrSourceMetadata
      = if panel.supportsHdr then [session.blob.id.toUInt64] else []

/-- What a stream that is shown by commits and its session have to do with each other. -/
structure Running (config : Config) (panel : Panel) (turns : List Turn) (m : Manager) : Prop where
  session_iff : m.hdr.isSome ↔ m.ring.slots ≠ []
  /-- The session describes the first image of the stream that was shown. -/
  metadata_eq : m.hdr.map HdrSession.metadata
    = ((currentStream turns).findSome? Turn.shown?).map fun image => HdrMetadata.ofColor image.color
  /-- Nothing has been destroyed, and at most one blob was made: the session's. -/
  calls : ∃ refusals, blobCallsOf (journal (currentStream turns))
    = List.map .refused refusals ++ m.hdr.toList.map HdrSession.made
  signals : ∀ t ∈ currentStream turns, ∀ image, t.shown? = some image →
    ∃ session, m.hdr = some session ∧ t.Signals config.targets panel session

variable {config : Config} {panel : Panel} {turns : List Turn} {m left : Manager} {t : Turn}

namespace Running

theorem of_empty (stream : currentStream turns = []) (hdr : m.hdr = none)
    (slots : m.ring.slots = []) : Running config panel turns m where
  session_iff := by simp [hdr, slots]
  metadata_eq := by simp [hdr, stream]
  calls := ⟨[], by simp [hdr, stream]⟩
  signals := by simp [stream]

/-- A turn that shows nothing leaves the session as it is; at most it has been refused a blob. -/
theorem unshown (running : Running config panel turns m) (goesOn : ¬ t.asked.Closes)
    (nothing : t.shown? = none) (hdr_eq : left.hdr = m.hdr)
    (empty_iff : left.ring.slots = [] ↔ m.ring.slots = [])
    (calls : blobCallsOf t.events = [] ∨
      m.hdr = none ∧ ∃ data, blobCallsOf t.events = [.refused data]) :
    Running config panel (turns ++ [t]) left where
  session_iff := by rw [hdr_eq, running.session_iff, ne_eq, ne_eq, empty_iff]
  metadata_eq := by
    rw [hdr_eq, running.metadata_eq, currentStream_concat goesOn, List.findSome?_append]
    simp [nothing]
  calls := by
    obtain ⟨refusals, before⟩ := running.calls
    rw [currentStream_concat goesOn, hdr_eq, journal_append, blobCallsOf_append, before]
    rcases calls with none | ⟨fresh, data, refused⟩
    · exact ⟨refusals, by simp [none]⟩
    · exact ⟨refusals ++ [data], by simp [fresh, refused]⟩
  signals other member image shown := by
    rw [currentStream_concat goesOn] at member
    rw [hdr_eq]
    rcases List.mem_append.mp member with earlier | last
    · exact running.signals other earlier image shown
    · rw [List.mem_singleton.mp last, nothing] at shown
      cases shown

/-- A frame that is shown signals the session of the stream, or opens it. -/
theorem shown {image : Image} {session : HdrSession} {g : Generation}
    (running : Running config panel turns m) (goesOn : ¬ t.asked.Closes)
    (showing : t.shown? = some image) (targets_eq : m.config.targets = config.targets)
    (panel_eq : m.panel = panel) {src dst : Rect} {batch : Batch}
    (asked : t.asked = .present (some image) src dst batch)
    (staged : m.Stages image.color batch t.events t.reply session g) :
    Running config panel (turns ++ [t]) t.reply.manager := by
  obtain ⟨opening, opens, opened⟩ := staged.opens
  obtain ⟨refusals, before⟩ := running.calls
  have signals : t.Signals config.targets panel session := by
    obtain ⟨geometry, batch_eq⟩ := staged.batch_eq
    rw [← targets_eq, ← panel_eq]
    exact ⟨_, _, _, _, _, asked, batch_eq, frameWrites_eotf .., frameWrites_metadata ..⟩
  have nonempty : t.reply.manager.ring.slots ≠ [] := fun none => by
    cases (List.getLast?_eq_none_iff.mpr none).symm.trans staged.newest_eq
  refine ⟨by simp [staged.hdr_eq, nonempty], ?_, ?_, fun other member image shown => ?_⟩
  · rw [staged.hdr_eq, currentStream_concat goesOn, List.findSome?_append]
    have metadata_eq := running.metadata_eq
    cases opens with
    | kept same =>
      rw [same] at metadata_eq
      obtain ⟨first, found, described⟩ := Option.map_eq_some_iff.mp metadata_eq.symm
      simp [found, described]
    | opened fresh =>
      rw [fresh] at metadata_eq
      simp [Option.map_eq_none_iff.mp metadata_eq.symm, showing]
  · rw [currentStream_concat goesOn, staged.hdr_eq, journal_append, blobCallsOf_append, before]
    refine ⟨refusals, ?_⟩
    cases opens with
    | kept same => simp [same, opened]
    | opened fresh => simp [fresh, opened, HdrSession.made, blobCallsOf_answered, blobCall?]
  · rw [currentStream_concat goesOn] at member
    refine ⟨session, staged.hdr_eq, ?_⟩
    rcases List.mem_append.mp member with earlier | last
    · obtain ⟨running, hdr_eq, signalled⟩ := running.signals other earlier image shown
      cases opens with
      | kept same =>
        obtain rfl : running = session := Option.some.inj (hdr_eq.symm.trans same)
        exact signalled
      | opened fresh => cases hdr_eq.symm.trans fresh
    · rw [List.mem_singleton.mp last]
      exact signals

theorem resumed (running : Running config panel turns m) : Running config panel turns m.resumed :=
  ⟨running.session_iff, running.metadata_eq, running.calls, running.signals⟩

theorem presented {image : Image} {src dst : Rect} {batch : Batch}
    {events : List (Event interface)} {p : Presentation} (running : Running config panel turns m)
    (sound : m.Sound config) (atomic : config.strategy = .atomic) (panel_eq : m.panel = panel)
    (presents : m.resumed.Presents image src dst batch events p) :
    Running config panel (turns ++ [⟨m, .present (some image) src dst batch, events, p⟩])
      p.manager := by
  have goesOn : ¬ (Call.present (some image) src dst batch).Closes := Option.some_ne_none image
  have config_eq : m.resumed.config = config := sound.config_eq
  cases outcome : p.outcome with
  | ok _ =>
    obtain ⟨session, g, staged⟩ := presents.stages (config_eq ▸ atomic) outcome
    have showing := Turn.shown?_eq_some (t := ⟨m, .present (some image) src dst batch, events, p⟩)
      |>.mpr ⟨src, dst, batch, rfl, outcome⟩
    exact running.resumed.shown goesOn showing (config_eq ▸ rfl) panel_eq rfl staged
  | error fault =>
    have fails := presents.fails outcome
    have newest_eq := fails.newest_eq sound.resumed.two_le_depth
    have nothing : Turn.shown? ⟨m, .present (some image) src dst batch, events, p⟩ = none := by
      simp [Turn.shown?, outcome]
    refine running.unshown goesOn nothing fails.hdr_eq ?_ ?_
    · rw [← List.getLast?_eq_none_iff, ← List.getLast?_eq_none_iff]
      exact Eq.congr_left newest_eq
    · exact (presents.blobCalls_of_error outcome).imp_right fun ⟨fresh, refused⟩ =>
        ⟨fresh, _, refused⟩

end Running

theorem Turn.Takes.panel_eq (takes : Turn.Takes t) : t.reply.manager.panel = t.before.panel := by
  cases takes with
  | presented presents => exact presents.keeps.2.1
  | ended | refreshed | disabled | idle | released => rfl

theorem Running.turn (running : Running config panel turns t.before)
    (sound : t.before.Sound config) (atomic : config.strategy = .atomic)
    (panel_eq : t.before.panel = panel) (takes : Turn.Takes t) :
    Running config panel (turns ++ [t]) t.reply.manager := by
  cases takes with
  | presented presents => exact running.presented sound atomic panel_eq presents
  | ended | released => exact .of_empty (currentStream_closed (by trivial)) rfl rfl
  | refreshed calls | disabled calls =>
    refine running.unshown id rfl rfl Iff.rfl (.inl (blobCallsOf_of_neutral ?_))
    simp [calls]
  | idle torn =>
    obtain ⟨slots, hdr⟩ := sound.torn torn
    exact .of_empty (currentStream_closed trivial) hdr slots

/-- By plane updates a turn says nothing about blobs, and no session is opened. -/
theorem Turn.Takes.of_legacy (takes : Turn.Takes t) (legacy : t.before.config.strategy = .legacy)
    (fresh : t.before.hdr = none) :
    t.reply.manager.hdr = none ∧ blobCallsOf t.events = [] := by
  cases takes with
  | presented presents =>
    obtain ⟨silent, hdr_eq⟩ := presents.of_legacy legacy
    exact ⟨hdr_eq.trans fresh, silent⟩
  | ended drains | released _ drains =>
    refine ⟨rfl, drains.blobCalls.trans ?_⟩
    rw [show _ = none from fresh]
    rfl
  | refreshed calls | disabled calls => exact ⟨fresh, blobCallsOf_of_neutral (by simp [calls])⟩
  | idle => exact ⟨fresh, rfl⟩

theorem Call.Closes.blobCalls {call : Call} {events : List (Event interface)} {p : Presentation}
    (closes : call.Closes) (sound : m.Sound config) (run : (call.reply m).Runs events p) :
    p.manager.hdr = none ∧
      blobCallsOf events = m.hdr.toList.map fun session => .destroyed session.blob := by
  cases Call.takes run with
  | presented => cases closes
  | ended drains | released _ drains => exact ⟨rfl, drains.blobCalls⟩
  | refreshed | disabled => exact closes.elim
  | idle torn =>
    obtain ⟨-, hdr⟩ := sound.torn torn
    exact ⟨hdr, by rw [hdr]; rfl⟩

theorem Manager.drop_blobCalls {events : List (Event interface)} (sound : m.Sound config)
    (run : m.drop.Runs events ()) :
    blobCallsOf events = m.hdr.toList.map fun session => .destroyed session.blob := by
  obtain ⟨left, released⟩ := drop_runs (fun torn => (sound.torn torn).1) run
  have closes : Call.uninit.Closes := trivial
  exact (closes.blobCalls sound (runs_map.mpr ⟨left, released, rfl⟩)).2

theorem History.running {start : Manager} (sound : start.Sound config)
    (atomic : config.strategy = .atomic) (begins : Running config start.panel [] start)
    (history : History start turns m) :
    m.panel = start.panel ∧ Running config start.panel turns m := by
  induction history with
  | nil => exact ⟨rfl, begins⟩
  | concat past run ih =>
    obtain ⟨panel_eq, running⟩ := ih
    have takes := Call.takes run
    exact ⟨takes.panel_eq.trans panel_eq,
      running.turn (History.sound past sound) atomic panel_eq takes⟩

theorem History.of_legacy {start : Manager} (sound : start.Sound config)
    (legacy : config.strategy = .legacy) (fresh : start.hdr = none) (history : History start turns m) :
    m.hdr = none ∧ blobCallsOf (journal turns) = [] := by
  induction history with
  | nil => exact ⟨fresh, rfl⟩
  | concat past run ih =>
    obtain ⟨none, silent⟩ := ih
    have config_eq := (History.sound past sound).config_eq
    obtain ⟨hdr, calls⟩ := (Call.takes run).of_legacy (config_eq ▸ legacy) none
    exact ⟨hdr, by simp [silent, calls]⟩

/-- The sessions of a manager's life, as they are seen between two calls. -/
structure SessionProtocol (config : Config) (panel : Panel) (opening : List (Event interface))
    (turns : List Turn) (m : Manager) : Prop where
  /-- The manager was created without a blob. -/
  created : blobCallsOf opening = []
  /-- Where frames are shown by plane updates there are no sessions and no blobs. -/
  legacy : config.strategy = .legacy → m.hdr = none ∧ blobCallsOf (journal turns) = []
  running : config.strategy = .atomic → Running config panel turns m
  session_iff : config.strategy = .atomic →
    (m.hdr.isSome ↔ ∃ t ∈ currentStream turns, t.shown?.isSome)
  /-- The blob of the session is destroyed by the call that ends the stream. -/
  closed : ∀ (call : Call) (events : List (Event interface)) (p : Presentation), call.Closes →
    (call.reply m).Runs events p → p.manager.hdr = none ∧
      blobCallsOf events = m.hdr.toList.map fun session => .destroyed session.blob
  dropped : ∀ events, m.drop.Runs events () →
    blobCallsOf events = m.hdr.toList.map fun session => .destroyed session.blob

/-- At any time, and however the device has behaved. -/
theorem session_protocol {opening : List (Event interface)} {start : Manager}
    (creating : (Manager.create config).Runs opening (.ok start)) (history : History start turns m) :
    SessionProtocol config start.panel opening turns m := by
  have sound := Manager.Sound.created creating
  obtain ⟨-, neutral, fresh⟩ := Manager.create_runs creating
  obtain ⟨size, panel, rfl⟩ := fresh start rfl
  have running (atomic : config.strategy = .atomic) : Running config panel turns m :=
    (history.running sound atomic (.of_empty rfl rfl rfl)).2
  exact {
    created := blobCallsOf_of_neutral neutral
    legacy := fun legacy => history.of_legacy sound legacy rfl
    running := running
    session_iff := fun atomic => by
      rw [← Option.isSome_map (f := HdrSession.metadata), (running atomic).metadata_eq,
        Option.isSome_map, List.findSome?_isSome_iff]
    closed := fun call events p closes run => closes.blobCalls (history.sound sound) run
    dropped := fun events run => Manager.drop_blobCalls (history.sound sound) run }

namespace Sample

def hdrDevice : Simulation.DisplayDevice :=
  { device with properties := [⟨.connector 41, Property.hdrPanelMetadata, [2]⟩] }

def hdrCreated : Manager := .fresh Sample.config (some ⟨1920, 1080⟩) (.ofBlob [2])

theorem hdrCreated_runs : ∃ opening, (Manager.create Sample.config).Runs opening (.ok hdrCreated) :=
  ⟨_, runs_run (I := interface) Simulation.DisplayDevice.answer (Manager.create Sample.config)
    hdrDevice⟩

end Sample

/-- The first image of a stream is in PQ and the second is not. -/
theorem session_protocol_two_images :
    ∃ opening turns m, (Manager.create Sample.config).Runs opening (.ok Sample.hdrCreated) ∧
      History Sample.hdrCreated turns m ∧ m.panel.supportsHdr = true ∧
      turns.map Turn.shown? = [some Sample.inPq, some Sample.image] ∧
      turns.map (fun t => t.reply.batch.value? (.plane 63) Property.eotf) = [some 2, some 2] ∧
      SessionProtocol Sample.config Sample.hdrCreated.panel opening turns m := by
  obtain ⟨opening, creating⟩ := Sample.hdrCreated_runs
  have history := Sample.calls_history
    [.present (some Sample.inPq) Sample.area Sample.area .empty, Sample.frame] Sample.hdrCreated
    Sample.hdrDevice
  exact ⟨opening, _, _, creating, history, rfl, rfl, by decide, session_protocol creating history⟩

end Scanout.Overlay
