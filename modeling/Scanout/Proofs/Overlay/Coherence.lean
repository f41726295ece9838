import Scanout.Proofs.Overlay.Session

/-!
# The colour space and the transfer function of a frame

The transfer function that is signalled with a frame is its stream's, which is that of the first
image that was shown; the colour space is the frame's own. So the two go together exactly as long as
the stream stays on the side of high dynamic range on which it began.
-/

namespace Scanout.Overlay

open Display Proc

theorem ofTransfer_code_eq_bt2020 (transfer : Transfer) :
    (ColorSpace.ofTransfer transfer).code.toUInt64 = ColorSpace.bt2020.code.toUInt64
      ↔ transfer.isHdr = true := by
  cases transfer <;> decide

theorem isHdr_ofColor (color : Color) : (HdrMetadata.ofColor color).isHdr = color.transfer.isHdr := by
  have eotf_eq : (HdrMetadata.ofColor color).eotf = (Eotf.ofTransfer color.transfer).code := rfl
  rw [HdrMetadata.isHdr, eotf_eq]
  cases color.transfer <;> rfl

theorem signalledEotf_ne_sdr (panel : Panel) (metadata : HdrMetadata) :
    (signalledEotf panel metadata).toUInt64 ≠ Eotf.traditionalGammaSdr.code.toUInt64
      ↔ metadata.isHdr = true := by
  rw [ne_eq, UInt16.toUInt64_inj]
  unfold signalledEotf
  by_cases traditional : metadata.eotf = 0 <;> cases panel.supportsHdr <;>
    simp [HdrMetadata.isHdr, Eotf.code, traditional]

/-- The first image of the stream that a frame would belong to: it may be the frame's own. -/
def streamImage (turns : List Turn) (image : Image) : Image :=
  ((currentStream turns).findSome? Turn.shown?).getD image

/-- A frame that is shown signals what the first image of its stream is. -/
theorem Running.metadata_of_stages {config : Config} {panel : Panel} {turns : List Turn}
    {m : Manager} {image : Image} {batch : Batch} {events : List (Event interface)}
    {p : Presentation} {session : HdrSession} {g : Generation}
    (running : Running config panel turns m)
    (staged : m.resumed.Stages image.color batch events p session g) :
    session.metadata = HdrMetadata.ofColor (streamImage turns image).color := by
  obtain ⟨opening, opens, -⟩ := staged.opens
  have metadata_eq := running.metadata_eq
  cases opens with
  | kept same =>
    rw [show m.hdr = some session from same] at metadata_eq
    obtain ⟨first, found, described⟩ := Option.map_eq_some_iff.mp metadata_eq.symm
    rw [streamImage, found, ← described]
    rfl
  | opened fresh =>
    rw [show m.hdr = none from fresh] at metadata_eq
    rw [streamImage, Option.map_eq_none_iff.mp metadata_eq.symm]
    rfl

/-- The colours that the writes of one frame signal on a plane. -/
structure FrameSignals (writes : Batch) (plane : UInt32) (eotf colorSpace : UInt64) : Prop where
  eotf : writes.valuesOf (.plane plane) Property.eotf = [eotf]
  colorSpace : writes.valuesOf (.plane plane) Property.colorSpace = [colorSpace]

/-- The colours of a frame go together: the wide colour space with a transfer function that is not
the traditional one. -/
def Coherent (eotf colorSpace : UInt64) : Prop :=
  colorSpace = ColorSpace.bt2020.code.toUInt64 ↔ eotf ≠ Eotf.traditionalGammaSdr.code.toUInt64

instance (eotf colorSpace : UInt64) : Decidable (Coherent eotf colorSpace) :=
  inferInstanceAs (Decidable (_ ↔ _))

/-- A frame that is shown by a commit signals one transfer function and one colour space, and they
go together exactly if the frame is as the first of its stream. -/
theorem signalling_coherent_iff {config : Config} (atomic : config.strategy = .atomic)
    {opening : List (Event interface)} {start m : Manager} {turns : List Turn}
    (creating : (Manager.create config).Runs opening (.ok start)) (history : History start turns m)
    {image : Image} {src dst : Rect} {batch : Batch} {events : List (Event interface)}
    {p : Presentation} (run : (m.present (some image) src dst batch).Runs events p)
    (shown : p.outcome = .ok ()) :
    ∃ writes eotf colorSpace, p.batch = batch.append writes ∧
      FrameSignals writes config.targets.videoPlane eotf colorSpace ∧
      (Coherent eotf colorSpace
        ↔ image.color.transfer.isHdr = (streamImage turns image).color.transfer.isHdr) := by
  have sound := Manager.Sound.created creating
  obtain ⟨size, panel, rfl⟩ := (Manager.create_runs creating).2.2 start rfl
  obtain ⟨-, running⟩ := history.running sound atomic (.of_empty rfl rfl rfl)
  have config_eq : m.resumed.config = config := (history.sound sound).config_eq
  obtain ⟨session, g, staged⟩ :=
    (Manager.presentSome_runs run).stages (config_eq ▸ atomic) shown
  obtain ⟨geometry, batch_eq⟩ := staged.batch_eq
  have signals : FrameSignals (m.resumed.frameWrites image.color g geometry session)
      m.resumed.config.targets.videoPlane _ _ :=
    ⟨frameWrites_eotf .., frameWrites_colorSpace ..⟩
  rw [config_eq] at signals
  refine ⟨_, _, _, batch_eq, signals, ?_⟩
  rw [Coherent, ofTransfer_code_eq_bt2020, signalledEotf_ne_sdr, running.metadata_of_stages staged,
    isHdr_ofColor]
  exact Bool.eq_iff_iff.symm

namespace Sample

def begun (first : Image) : List Turn × Manager :=
  calls [.present (some first) area area .empty] created device

def followed (first : Image) : List (Event interface) × Presentation × Simulation.DisplayDevice :=
  ((begun first).2.present (some inPq) area area .empty).run Simulation.DisplayDevice.answer device

theorem begun_history (first : Image) : History created (begun first).1 (begun first).2 :=
  calls_history _ _ _

theorem followed_runs (first : Image) :
    ((begun first).2.present (some inPq) area area .empty).Runs (followed first).1
      (followed first).2.1 :=
  runs_run (I := interface) Simulation.DisplayDevice.answer _ _

end Sample

/-- The second image of a stream that began in PQ. -/
theorem signalling_coherent_iff_pq_stream :
    ∃ opening turns m events p, Sample.config.strategy = .atomic ∧
      (Manager.create Sample.config).Runs opening (.ok Sample.created) ∧
      History Sample.created turns m ∧
      (m.present (some Sample.inPq) Sample.area Sample.area .empty).Runs events p ∧
      p.outcome = .ok () ∧ streamImage turns Sample.inPq = Sample.inPq ∧
      ∃ writes eotf colorSpace, p.batch = Batch.empty.append writes ∧
        FrameSignals writes Sample.config.targets.videoPlane eotf colorSpace ∧
        (Coherent eotf colorSpace ↔ Sample.inPq.color.transfer.isHdr
          = (streamImage turns Sample.inPq).color.transfer.isHdr) := by
  have history := Sample.begun_history Sample.inPq
  have run := Sample.followed_runs Sample.inPq
  exact ⟨_, _, _, _, _, rfl, Sample.creation_runs, history, run, rfl, rfl,
    signalling_coherent_iff rfl Sample.creation_runs history run rfl⟩

/-- A stream that begins with an image in the traditional transfer function goes on with one in PQ.
The second frame is signalled in the wide colour space, and with the traditional function. -/
theorem signalling_incoherent :
    ∃ opening turns m events p writes,
      (Manager.create Sample.config).Runs opening (.ok Sample.created) ∧
      History Sample.created turns m ∧ turns.map Turn.shown? = [some Sample.image] ∧
      (m.present (some Sample.inPq) Sample.area Sample.area .empty).Runs events p ∧
      p.outcome = .ok () ∧ p.batch = Batch.empty.append writes ∧
      FrameSignals writes Sample.config.targets.videoPlane
        Eotf.traditionalGammaSdr.code.toUInt64 ColorSpace.bt2020.code.toUInt64 ∧
      ¬ Coherent Eotf.traditionalGammaSdr.code.toUInt64 ColorSpace.bt2020.code.toUInt64 := by
  exact ⟨_, _, _, _, _, _, Sample.creation_runs, Sample.begun_history Sample.image, rfl,
    Sample.followed_runs Sample.image, rfl, rfl, ⟨by decide, by decide⟩, by decide⟩

end Scanout.Overlay
