import Scanout.Proofs.Overlay.Atomicity
import Scanout.Proofs.Overlay.History
import Scanout.Proofs.Overlay.Signalling

/-!
# Many presentations on one batch

A caller may hand one batch to every presentation and commit it at the end. What such a batch says of
the plane's framebuffer and of the connector's metadata is what the last writes to them say, which
may have been made by an earlier presentation.

The end of a stream takes the metadata back in the batch, but not the framebuffer. So the batch may
be left with the name of a framebuffer that is gone, and `named_framebuffer_held_iff` says that this
is the only way in which it can be: until another frame is shown.
-/

namespace Scanout.Overlay

open Display Proc

structure Wanted where
  image : Option Image
  src : Rect
  dst : Rect

/-- A presentation on the batch that the one before it has left. -/
def presentOnto (held : Manager × Batch) (wanted : Wanted) : Program Presentation :=
  held.1.present wanted.image wanted.src wanted.dst held.2

def Presentation.onward (p : Presentation) : Manager × Batch := (p.manager, p.batch)

abbrev BatchTurn : Type := Scanout.Turn interface (Manager × Batch) Wanted Presentation

abbrev BatchHistory (start : Manager × Batch) (turns : List BatchTurn) (now : Manager × Batch) :
    Prop :=
  Scanout.History presentOnto Presentation.onward start turns now

def NamesFramebuffer (config : Config) (batch : Batch) (value : UInt64) : Prop :=
  batch.Names (.plane config.targets.videoPlane) Property.fbId value

def NamesBlob (config : Config) (batch : Batch) (value : UInt64) : Prop :=
  batch.Names (.connector config.targets.connector) Property.hdrSourceMetadata value

def HoldsNamed (config : Config) (now : Manager × Batch) : Prop :=
  ∀ value, NamesFramebuffer config now.2 value →
    ∃ g ∈ now.1.ring.slots, ∃ f, g.framebuffer = some f ∧ value = f.id.toUInt64

def SignalsNamed (config : Config) (now : Manager × Batch) : Prop :=
  ∀ value, NamesBlob config now.2 value →
    ∃ session, now.1.hdr = some session ∧ value = session.blob.id.toUInt64

/-- The turn ends a stream on a batch that names a framebuffer. -/
def Strands (config : Config) (t : BatchTurn) : Prop :=
  t.asked.image = none ∧ ∃ value, NamesFramebuffer config t.reply.batch value

def Shows (t : BatchTurn) : Prop := t.asked.image ≠ none ∧ t.reply.outcome = .ok ()

theorem frameWrites_value?_metadata (m : Manager) (color : Color) (g : Generation)
    (geometry : PlaneGeometry) (session : HdrSession) :
    (m.frameWrites color g geometry session).value? (.connector m.config.targets.connector)
        Property.hdrSourceMetadata
      = if m.panel.supportsHdr then some session.blob.id.toUInt64 else none := by
  rw [Batch.value?_eq_getLast?, frameWrites_metadata]
  split <;> rfl

theorem resetWrites_unnamed (targets : Targets) :
    ∀ w ∈ (resetWrites targets).writes, w.name ≠ Property.fbId := by
  simp [resetWrites, Property.fbId, Property.hdrSourceMetadata, Property.eotf, Property.colorSpace,
    Property.hdmiOutputFormat]

theorem resetWrites_value?_metadata (targets : Targets) :
    (resetWrites targets).value? (.connector targets.connector) Property.hdrSourceMetadata
      = some 0 := by
  simp [resetWrites, Batch.value?]

variable {config : Config} {m : Manager} {batch : Batch} {image : Option Image} {src dst : Rect}
  {events : List (Event interface)} {p : Presentation} {value : UInt64}

theorem namesFramebuffer_resetBatch :
    NamesFramebuffer config (m.resetBatch batch) value ↔ NamesFramebuffer config batch value := by
  unfold Manager.resetBatch
  split
  · rw [NamesFramebuffer, Batch.Names, Batch.value?_append,
      Batch.value?_eq_none (resetWrites_unnamed _), Option.none_or]
    rfl
  · rfl

/-- What a batch that is used throughout says: the framebuffer of the newest generation, as long as
there is one, and the blob of the session. -/
structure Follows (config : Config) (now : Manager × Batch) : Prop where
  sound : now.1.Sound config
  newest : ∀ value, NamesFramebuffer config now.2 value →
    ∀ g, now.1.ring.newest? = some g → value = g.framebufferNumber.toUInt64
  signals : SignalsNamed config now

theorem Follows.holdsNamed_iff {now : Manager × Batch} (follows : Follows config now) :
    HoldsNamed config now ↔
      ((∃ value, NamesFramebuffer config now.2 value) → now.1.ring.newest? ≠ none) := by
  constructor
  · rintro holds ⟨value, named⟩ none
    obtain ⟨g, member, -⟩ := holds value named
    rw [List.getLast?_eq_none_iff.mp none] at member
    cases member
  · intro kept value named
    obtain ⟨g, newest⟩ := Option.ne_none_iff_exists'.mp (kept ⟨value, named⟩)
    have member : g ∈ now.1.ring.slots := List.mem_of_getLast? newest
    obtain ⟨f, framebuffer⟩ := Option.isSome_iff_exists.mp (follows.sound.framed g member)
    refine ⟨g, member, f, framebuffer, ?_⟩
    rw [follows.newest value named g newest, Generation.framebufferNumber, framebuffer]
    rfl

/-- What one presentation makes of the batch and of the newest generation. -/
inductive Threads (m : Manager) (batch : Batch) : Option Image → Presentation → Prop where
  | failed {image : Image} {p : Presentation} {fault : Fault} (outcome : p.outcome = .error fault)
      (batch_eq : p.batch = batch) (newest_eq : p.manager.ring.newest? = m.ring.newest?)
      (hdr_eq : p.manager.hdr = m.hdr) : Threads m batch (some image) p
  | shown {image : Image} {events : List (Event interface)} {p : Presentation}
      {session : HdrSession} {g : Generation} (outcome : p.outcome = .ok ())
      (staged : m.resumed.Stages image.color batch events p session g) :
      Threads m batch (some image) p
  | ended : Threads m batch none ⟨m.ended, m.resetBatch batch, .ok ()⟩

theorem Follows.threads (follows : Follows config (m, batch)) (atomic : config.strategy = .atomic)
    (run : (m.present image src dst batch).Runs events p) : Threads m batch image p := by
  cases image with
  | none =>
    obtain ⟨-, rfl⟩ := Manager.presentNone_runs run
    exact .ended
  | some image =>
    have presents := Manager.presentSome_runs run
    have sound := follows.sound.resumed
    cases outcome : p.outcome with
    | error fault =>
      have fails := presents.fails outcome
      exact .failed outcome fails.batch_eq (fails.newest_eq sound.two_le_depth) fails.hdr_eq
    | ok _ =>
      obtain ⟨session, g, staged⟩ := presents.stages (sound.config_eq ▸ atomic) outcome
      exact .shown outcome staged

theorem Follows.failed {left : Manager} (follows : Follows config (m, batch))
    (sound : left.Sound config) (newest_eq : left.ring.newest? = m.ring.newest?)
    (hdr_eq : left.hdr = m.hdr) : Follows config (left, batch) where
  sound := sound
  newest value named g newest := follows.newest value named g (newest_eq ▸ newest)
  signals value named := by
    rw [hdr_eq]
    exact follows.signals value named

/-- A frame that is shown has its framebuffer named, and the session's blob if the panel takes it. -/
theorem Follows.shown {color : Color} {session : HdrSession} {g : Generation}
    (follows : Follows config (m, batch)) (sound : p.manager.Sound config)
    (staged : m.resumed.Stages color batch events p session g) : Follows config p.onward := by
  obtain ⟨geometry, batch_eq⟩ := staged.batch_eq
  obtain ⟨opening, opens, -⟩ := staged.opens
  have config_eq : m.resumed.config = config := follows.sound.config_eq
  refine ⟨sound, fun value named newest newest_eq => ?_, fun value named => ?_⟩
  · obtain rfl : g = newest := Option.some.inj (staged.newest_eq.symm.trans newest_eq)
    rw [NamesFramebuffer, Presentation.onward, batch_eq, ← config_eq, Batch.Names,
      Batch.value?_append, frameWrites_value?] at named
    exact (Option.some.inj named.1).symm
  · rw [NamesBlob, Presentation.onward, batch_eq, ← config_eq, Batch.Names, Batch.value?_append,
      frameWrites_value?_metadata] at named
    split at named
    · exact ⟨session, staged.hdr_eq, (Option.some.inj named.1).symm⟩
    · -- The panel takes no metadata, so an earlier frame has named the blob of this session.
      rw [Option.none_or, config_eq] at named
      obtain ⟨running, hdr_eq, rfl⟩ := follows.signals value named
      cases opens with
      | kept same =>
        obtain rfl : running = session := Option.some.inj (hdr_eq.symm.trans same)
        exact ⟨running, staged.hdr_eq, rfl⟩
      | opened fresh => cases hdr_eq.symm.trans fresh

theorem Follows.ended (follows : Follows config (m, batch)) (atomic : config.strategy = .atomic)
    (sound : m.ended.Sound config) : Follows config (m.ended, m.resetBatch batch) := by
  refine ⟨sound, fun _ _ g newest => ?_, fun value named => ?_⟩
  · cases newest
  · rw [NamesBlob, Manager.resetBatch, follows.sound.config_eq, atomic] at named
    dsimp only at named
    rw [Batch.Names, Batch.value?_append, resetWrites_value?_metadata] at named
    exact absurd (Option.some.inj named.1).symm named.2

theorem not_strands {t : BatchTurn} {image : Image} (asked : t.asked.image = some image) :
    ¬ Strands config t := by
  rintro ⟨ending, -⟩
  rw [asked] at ending
  cases ending

theorem not_shows_of_error {t : BatchTurn} {fault : Fault} (outcome : t.reply.outcome = .error fault) :
    ¬ Shows t := by
  rintro ⟨-, succeeded⟩
  rw [outcome] at succeeded
  cases succeeded

theorem not_shows_of_none {t : BatchTurn} (asked : t.asked.image = none) : ¬ Shows t := by
  rintro ⟨asks, -⟩
  exact asks asked

/-- One presentation: it fails and keeps what is named, shows a frame, or ends the stream. -/
theorem Follows.tracks {t : BatchTurn} (atomic : config.strategy = .atomic)
    (run : (presentOnto t.before t.asked).Runs t.events t.reply) (follows : Follows config t.before) :
    Follows config t.reply.onward ∧ Tracks (Strands config) Shows t (HoldsNamed config t.before)
      (HoldsNamed config t.reply.onward) := by
  obtain ⟨⟨m, batch⟩, ⟨image, src, dst⟩, events, p⟩ := t
  have calling : ((Call.present image src dst batch).reply m).Runs events p := run
  have sound : p.manager.Sound config := follows.sound.does (Call.does_of_reply calling)
  cases follows.threads atomic run with
  | failed outcome batch_eq newest_eq hdr_eq =>
    obtain ⟨left, same, _⟩ := p
    obtain rfl : same = batch := batch_eq
    have after := follows.failed sound newest_eq hdr_eq
    have held_iff : HoldsNamed config (left, same) ↔ HoldsNamed config (m, same) := by
      rw [after.holdsNamed_iff, newest_eq, follows.holdsNamed_iff]
    exact ⟨after, .kept (not_strands rfl) (not_shows_of_error outcome) held_iff⟩
  | shown outcome staged =>
    have after := follows.shown sound staged
    have holds : HoldsNamed config p.onward := by
      refine after.holdsNamed_iff.mpr fun _ none => ?_
      cases staged.newest_eq.symm.trans none
    exact ⟨after, .restored (not_strands rfl) ⟨Option.some_ne_none _, outcome⟩ holds⟩
  | ended =>
    have after := follows.ended atomic sound
    refine ⟨after, ?_⟩
    by_cases named : ∃ value, NamesFramebuffer config (m.resetBatch batch) value
    · -- The batch still names a framebuffer, and the ring is empty.
      exact .broken ⟨rfl, named⟩ fun holds => after.holdsNamed_iff.mp holds named rfl
    · have before : HoldsNamed config (m, batch) := fun value other =>
        absurd ⟨value, namesFramebuffer_resetBatch.mpr other⟩ named
      have later : HoldsNamed config (m.ended, m.resetBatch batch) := fun value other =>
        absurd ⟨value, other⟩ named
      exact .kept (fun strands => named strands.2) (not_shows_of_none rfl)
        (iff_of_true later before)

/-- Between calls: what a batch names of the metadata is the session's blob; and what it names of
the framebuffer is one that is held, if and only if every end of a stream on a batch that named one
has been followed by a frame that was shown. -/
theorem named_framebuffer_held_iff {start : Manager} (reachable : Reachable config start)
    (atomic : config.strategy = .atomic)
    (unnamed : ∀ value, ¬ NamesFramebuffer config batch value ∧ ¬ NamesBlob config batch value)
    {turns : List BatchTurn} {now : Manager × Batch}
    (history : BatchHistory (start, batch) turns now) :
    SignalsNamed config now ∧ (HoldsNamed config now ↔ Mended (Strands config) Shows turns) := by
  obtain ⟨acts, events, life⟩ := reachable
  have begins : Follows config (start, batch) :=
    ⟨life.sound start rfl, fun value named => absurd named (unnamed value).1,
      fun value named => absurd named (unnamed value).2⟩
  have held : HoldsNamed config (start, batch) := fun value named =>
    absurd named (unnamed value).1
  obtain ⟨follows, iff_mended⟩ := history.iff_mended ⟨begins, held⟩
    fun _ run follows => follows.tracks atomic run
  exact ⟨follows.signals, iff_mended⟩

namespace Sample

def onto (wanted : List Wanted) : List BatchTurn × (Manager × Batch) :=
  simulate presentOnto Presentation.onward Simulation.DisplayDevice.answer wanted
    (created, Batch.empty) device

theorem onto_history (wanted : List Wanted) :
    BatchHistory (created, .empty) (onto wanted).1 (onto wanted).2 :=
  simulate_history (I := interface) Simulation.DisplayDevice.answer wanted (created, Batch.empty)
    device

end Sample

/-- A frame is shown, the stream ends, and another frame is shown. -/
theorem named_framebuffer_held_iff_restarted :
    ∃ turns now, Reachable Sample.config Sample.created ∧
      (∀ value, ¬ NamesFramebuffer Sample.config .empty value ∧
        ¬ NamesBlob Sample.config .empty value) ∧
      BatchHistory (Sample.created, .empty) turns now ∧
      NamesFramebuffer Sample.config now.2 5 ∧ SignalsNamed Sample.config now ∧
      (HoldsNamed Sample.config now ↔ Mended (Strands Sample.config) Shows turns) := by
  have reachable : Reachable Sample.config Sample.created :=
    ⟨_, _, .next .start (.created Sample.creation_runs)⟩
  have unnamed : ∀ value, ¬ NamesFramebuffer Sample.config .empty value ∧
      ¬ NamesBlob Sample.config .empty value := fun value =>
    ⟨fun named => Option.some_ne_none _ named.1.symm, fun named => Option.some_ne_none _ named.1.symm⟩
  have history := Sample.onto_history [⟨some Sample.image, Sample.area, Sample.area⟩,
    ⟨none, Sample.area, Sample.area⟩, ⟨some Sample.image, Sample.area, Sample.area⟩]
  exact ⟨_, _, reachable, unnamed, history, ⟨by decide, by decide⟩,
    named_framebuffer_held_iff reachable rfl unnamed history⟩

/-- A frame is shown and the stream ends, on one batch. The batch names the frame's framebuffer,
which has been destroyed. -/
theorem ended_batch_names_destroyed :
    ∃ turns now, BatchHistory (Sample.created, .empty) turns now ∧
      turns.map (·.asked.image.isSome) = [true, false] ∧
      NamesFramebuffer Sample.config now.2 2 ∧
      .destroyFramebuffer ⟨2⟩ ∈ requestsOf (journal turns) ∧ ¬ HoldsNamed Sample.config now := by
  have history := Sample.onto_history [⟨some Sample.image, Sample.area, Sample.area⟩,
    ⟨none, Sample.area, Sample.area⟩]
  refine ⟨_, _, history, rfl, ⟨by decide, by decide⟩, by decide, fun holds => ?_⟩
  obtain ⟨g, member, -⟩ := holds 2 ⟨by decide, by decide⟩
  cases member

end Scanout.Overlay
