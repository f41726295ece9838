import Scanout.Proofs.Geometry.Destination
import Scanout.Proofs.Geometry.Exact
import Scanout.Proofs.Overlay.Picture

/-!
# What a committed frame writes

A frame that is committed adds its writes behind those that a batch has already. Nothing in the
batch is looked at on the way: `present_over` says that a presentation on any batch is one on the
empty batch, with the writes put behind. So what the frame writes, and what value that gives to each
property, depends on the frame and on the manager alone.
-/

namespace Scanout.Overlay

open Display Proc

/-- The same presentation on a batch that has been written to before. -/
def Presentation.over (p : Presentation) (batch : Batch) : Presentation :=
  { p with batch := batch.append p.batch }

namespace Manager

variable {m : Manager} {image : Image} {src dst : Rect} {batch : Batch}
  {events : List (Event interface)} {p : Presentation}

theorem submit_over (m : Manager) (color : Color) (g : Generation) (geometry : PlaneGeometry)
    (batch : Batch) : m.submit color g geometry batch
      = (fun r => (r.1, r.2.map batch.append)) <$> m.submit color g geometry .empty := by
  unfold submit
  split
  · rw [map_bind]
    refine bind_congr fun staged => ?_
    rcases staged with e | ⟨left, writes⟩ <;> rfl
  · -- An update of the plane hands the batch back as it is, and the empty batch adds nothing.
    rw [map_bind]
    refine bind_congr fun updated => ?_
    obtain ⟨left, outcome⟩ := updated
    cases outcome <;> simp [Except.map]

theorem showFramebuffer_over (m : Manager) (image : Image) (g : Generation)
    (geometry : PlaneGeometry) (batch : Batch) : m.showFramebuffer image g geometry batch
      = (·.over batch) <$> m.showFramebuffer image g geometry .empty := by
  unfold showFramebuffer
  rw [submit_over, map_bind, bind_map_left]
  refine bind_congr fun submitted => ?_
  obtain ⟨left, outcome⟩ := submitted
  cases outcome <;> simp [Except.map, Presentation.over]

theorem showHandles_over (m : Manager) (image : Image) (format : Fourcc) (handles : HandleSet)
    (geometry : PlaneGeometry) (batch : Batch) : m.showHandles image format handles geometry batch
      = (·.over batch) <$> m.showHandles image format handles geometry .empty := by
  unfold showHandles
  rw [map_bind]
  refine bind_congr fun answer => ?_
  cases answer with
  | error cause => simp [Presentation.over]
  | ok framebuffer => exact showFramebuffer_over ..

theorem showChecked_over (m : Manager) (image : Image) (format : Fourcc) (geometry : PlaneGeometry)
    (batch : Batch) : m.showChecked image format geometry batch
      = (·.over batch) <$> m.showChecked image format geometry .empty := by
  unfold showChecked
  rw [map_bind]
  refine bind_congr fun roomy => ?_
  rw [map_bind]
  refine bind_congr fun imported => ?_
  cases imported with
  | error e => simp [Presentation.over]
  | ok handles => exact showHandles_over ..

theorem presentImage_over (m : Manager) (image : Image) (src dst : Rect) (batch : Batch) :
    m.presentImage image src dst batch
      = (·.over batch) <$> m.presentImage image src dst .empty := by
  unfold presentImage
  rw [map_bind]
  refine bind_congr fun known => ?_
  split
  · simp [Presentation.over]
  · split
    · simp [Presentation.over]
    · exact showChecked_over ..

/-- A presentation is one on the empty batch, put behind what the batch has already. -/
theorem present_over (run : (m.present (some image) src dst batch).Runs events p) :
    ∃ q, (m.present (some image) src dst .empty).Runs events q ∧ p = q.over batch := by
  have onEmpty : (m.resumed.presentImage image src dst batch).Runs events p := run
  rw [presentImage_over] at onEmpty
  exact runs_map.mp onEmpty

theorem over_runs (run : (m.present (some image) src dst .empty).Runs events p) (batch : Batch) :
    (m.present (some image) src dst batch).Runs events (p.over batch) := by
  show (m.resumed.presentImage image src dst batch).Runs events (p.over batch)
  rw [presentImage_over]
  exact runs_map.mpr ⟨p, run, rfl⟩

end Manager

def frameProperties (targets : Targets) (takesMetadata : Bool) : List (ModeObject × String) :=
  let plane := ModeObject.plane targets.videoPlane
  let connector := ModeObject.connector targets.connector
  [(plane, Property.fbId), (plane, Property.crtcId), (plane, Property.srcX), (plane, Property.srcY),
    (plane, Property.srcW), (plane, Property.srcH), (plane, Property.crtcX),
    (plane, Property.crtcY), (plane, Property.crtcW), (plane, Property.crtcH),
    (plane, Property.zpos)]
  ++ (if takesMetadata then [(connector, Property.hdrSourceMetadata)] else [])
  ++ [(plane, Property.eotf), (plane, Property.colorSpace), (connector, Property.hdmiOutputFormat)]

/-- The plane shows `src` of a framebuffer at `dst`, by the values that count in a batch. -/
structure ShowsPlane (config : Config) (framebuffer : FramebufferId) (src dst : Rect) (b : Batch) :
    Prop where
  fbId : b.value? (.plane config.targets.videoPlane) Property.fbId = some framebuffer.id.toUInt64
  crtcId : b.value? (.plane config.targets.videoPlane) Property.crtcId
    = some config.targets.crtc.toUInt64
  srcX : ∃ v, b.value? (.plane config.targets.videoPlane) Property.srcX = some v ∧
    (v.toNat : Int) = 65536 * src.x0.toInt
  srcY : ∃ v, b.value? (.plane config.targets.videoPlane) Property.srcY = some v ∧
    (v.toNat : Int) = 65536 * src.y0.toInt
  srcW : ∃ v, b.value? (.plane config.targets.videoPlane) Property.srcW = some v ∧
    (v.toNat : Int) = 65536 * src.exactWidth
  srcH : ∃ v, b.value? (.plane config.targets.videoPlane) Property.srcH = some v ∧
    (v.toNat : Int) = 65536 * src.exactHeight
  /-- Corners are extended with their sign. -/
  crtcX : ∃ v x, b.value? (.plane config.targets.videoPlane) Property.crtcX = some v ∧
    config.alignment.alignOrigin dst.x0 = .ok x ∧ v.toInt64.toInt = x.toInt
  crtcY : ∃ v y, b.value? (.plane config.targets.videoPlane) Property.crtcY = some v ∧
    config.alignment.alignOrigin dst.y0 = .ok y ∧ v.toInt64.toInt = y.toInt
  crtcW : ∃ width extent, dst.width = .ok width ∧
    config.alignment.alignExtent width.toUInt32 = .ok extent ∧
    b.value? (.plane config.targets.videoPlane) Property.crtcW = some extent.toUInt64
  crtcH : ∃ height extent, dst.height = .ok height ∧
    config.alignment.alignExtent height.toUInt32 = .ok extent ∧
    b.value? (.plane config.targets.videoPlane) Property.crtcH = some extent.toUInt64
  zpos : b.value? (.plane config.targets.videoPlane) Property.zpos = some config.zpos

/-- A session is signalled to a panel, for a frame of some transfer: BT.2020 with PQ and HLG, and
YCbCr of high quality on the wire. -/
structure Signals (targets : Targets) (panel : Panel) (session : HdrSession) (transfer : Transfer)
    (b : Batch) : Prop where
  eotf : b.value? (.plane targets.videoPlane) Property.eotf
    = some (signalledEotf panel session.metadata).toUInt64
  metadata : panel.supportsHdr = true →
    b.value? (.connector targets.connector) Property.hdrSourceMetadata
      = some session.blob.id.toUInt64
  colorSpace : b.value? (.plane targets.videoPlane) Property.colorSpace
    = some (if transfer = .pq ∨ transfer = .hlg then 10 else 0)
  hdmiOutputFormat : b.value? (.connector targets.connector) Property.hdmiOutputFormat = some 4

section Writes

variable (m : Manager) (color : Color) (g : Generation) (geometry : PlaneGeometry)
  (session : HdrSession)

theorem frameWrites_properties :
    (m.frameWrites color g geometry session).properties
      = frameProperties m.config.targets m.panel.supportsHdr := by
  unfold Manager.frameWrites colorWrites
  cases m.panel.supportsHdr <;> rfl

theorem frameWrites_nodup :
    ((m.frameWrites color g geometry session).writes.map PropertyWrite.name).Nodup := by
  unfold Manager.frameWrites colorWrites
  cases m.panel.supportsHdr with
  | false =>
    show List.Nodup (planeProperties ++ [Property.eotf, Property.colorSpace,
      Property.hdmiOutputFormat])
    decide
  | true =>
    show List.Nodup (planeProperties ++ [Property.hdrSourceMetadata, Property.eotf,
      Property.colorSpace, Property.hdmiOutputFormat])
    decide

end Writes

section Values

variable {m : Manager} {color : Color} {g : Generation} {geometry : PlaneGeometry}
  {session : HdrSession}

theorem frameWrites_showsPlane (batch : Batch) {f : FramebufferId} {src dst : Rect}
    (framed : g.framebuffer = some f) (places : geometry.Places src dst m.config.alignment) :
    ShowsPlane m.config f src dst (batch.append (m.frameWrites color g geometry session)) := by
  have number : g.framebufferNumber = f.id := by rw [Generation.framebufferNumber, framed]; rfl
  have counts {name : String} {value : UInt64}
      (written : ⟨.plane m.config.targets.videoPlane, name, value⟩
        ∈ (planeWrites m.config f.id geometry).writes) :
      (batch.append (m.frameWrites color g geometry session)).value?
        (.plane m.config.targets.videoPlane) name = some value := by
    rw [← number] at written
    exact Batch.value?_append_of_mem batch (frameWrites_nodup ..) (List.mem_append_left _ written)
  obtain ⟨width, wide, extentW⟩ := places.crtcW
  obtain ⟨height, high, extentH⟩ := places.crtcH
  exact {
    fbId := counts (by simp [planeWrites])
    crtcId := counts (by simp [planeWrites])
    srcX := ⟨geometry.srcX.toUInt64, counts (by simp [planeWrites]), by simpa using places.srcX⟩
    srcY := ⟨geometry.srcY.toUInt64, counts (by simp [planeWrites]), by simpa using places.srcY⟩
    srcW := ⟨geometry.srcW.toUInt64, counts (by simp [planeWrites]), by simpa using places.srcW⟩
    srcH := ⟨geometry.srcH.toUInt64, counts (by simp [planeWrites]), by simpa using places.srcH⟩
    crtcX := ⟨geometry.crtcX.toInt64.toUInt64, _, counts (by simp [planeWrites]), places.crtcX,
      toInt_signExtended _⟩
    crtcY := ⟨geometry.crtcY.toInt64.toUInt64, _, counts (by simp [planeWrites]), places.crtcY,
      toInt_signExtended _⟩
    crtcW := ⟨width, _, wide, extentW, counts (by simp [planeWrites])⟩
    crtcH := ⟨height, _, high, extentH, counts (by simp [planeWrites])⟩
    zpos := counts (by simp [planeWrites]) }

theorem colorSpace_code (transfer : Transfer) :
    (ColorSpace.ofTransfer transfer).code.toUInt64
      = if transfer = .pq ∨ transfer = .hlg then 10 else 0 := by
  cases transfer <;> rfl

theorem frameWrites_signals (batch : Batch) :
    Signals m.config.targets m.panel session color.transfer
      (batch.append (m.frameWrites color g geometry session)) := by
  have counts {w : PropertyWrite}
      (written : w ∈ (colorWrites m.config.targets m.panel session color.transfer).writes) :
      (batch.append (m.frameWrites color g geometry session)).value? w.object w.name
        = some w.value :=
    Batch.value?_append_of_mem batch (frameWrites_nodup ..) (List.mem_append_right _ written)
  exact {
    eotf := by
      refine counts (w := ⟨_, Property.eotf, _⟩) ?_
      unfold colorWrites signalledEotf
      split <;> simp [fallbackEotf_code]
    metadata := fun takes =>
      counts (w := ⟨_, Property.hdrSourceMetadata, session.blob.id.toUInt64⟩)
        (by simp [colorWrites, takes])
    colorSpace := by
      rw [← colorSpace_code]
      exact counts (w := ⟨_, Property.colorSpace, _⟩) (by simp [colorWrites])
    hdmiOutputFormat :=
      counts (w := ⟨_, Property.hdmiOutputFormat, HdmiFormat.ycbcrHq.code.toUInt64⟩)
        (by simp [colorWrites]) }

end Values

/-- Where a destination lies on the display: it is rescaled if the surface it is given on and the
display both are of known size. -/
inductive Rescales (surface display : Option Size) (dst : Rect) : Rect → Prop where
  | rescaled {given known : Size} {placed : Rect} (surface_eq : surface = some given)
      (display_eq : display = some known) (scaled : Placement.Scaled known given dst placed) :
      Rescales surface display dst placed
  | kept (unknown : surface = none ∨ display = none) : Rescales surface display dst dst

namespace Manager

variable {config : Config} {m : Manager} {image : Image} {src dst : Rect} {batch : Batch}
  {events : List (Event interface)} {p : Presentation}

theorem rescales_destination (m : Manager) (dst : Rect) :
    Rescales m.config.osdSize m.displaySize dst (m.destination dst) := by
  unfold destination
  split
  · rename_i surface_eq display_eq
    exact .rescaled surface_eq display_eq (Placement.computeDestination_scaled ..)
  · rename_i unknown
    refine .kept ?_
    cases surface : m.config.osdSize with
    | none => exact .inl rfl
    | some given =>
      cases display : m.displaySize with
      | none => exact .inr rfl
      | some known => exact absurd display (unknown given known surface)

/-- The session that a frame signals: the stream's, or one that it has opened. -/
inductive SessionFrom (held : Option HdrSession) (color : Color) (events : List (Event interface))
    (session : HdrSession) : Prop where
  | kept (running : held = some session)
  | opened (fresh : held = none) (metadata_eq : session.metadata = HdrMetadata.ofColor color)
      (made : .answered (.createBlob session.metadata.toBytes) (.ok session.blob) ∈ events)

structure Composes (m : Manager) (image : Image) (src dst : Rect) (batch : Batch)
    (events : List (Event interface)) (p : Presentation) (g : Generation) (f : FramebufferId)
    (geometry : PlaneGeometry) (session : HdrSession) : Prop where
  newest_eq : p.manager.ring.newest? = some g
  image_eq : g.image = some image
  framebuffer_eq : g.framebuffer = some f
  placed : (m.withDisplaySize p.manager.displaySize).place src dst = .ok geometry
  hdr_eq : p.manager.hdr = some session
  from_hdr : SessionFrom m.hdr image.color events session
  batch_eq : p.batch = batch.append (m.frameWrites image.color g geometry session)

theorem Presents.composes (presents : m.Presents image src dst batch events p)
    (atomic : m.config.strategy = .atomic) (succeeded : p.outcome = .ok ()) :
    ∃ g f geometry session, m.Composes image src dst batch events p g f geometry session := by
  cases presents with
  | @shown _ _ _ size _ geometry handles f left _ prepares importing submitted =>
    have newest : (left.installed ⟨some f, handles, some image⟩).ring.newest?
        = some ⟨some f, handles, some image⟩ := List.getLast?_concat
    have size_eq : left.displaySize = size := submitted.displaySize_eq
    have placed := prepares.placed
    rw [← size_eq] at placed
    cases submitted with
    | @staged session _ running =>
      exact ⟨_, f, geometry, session, newest, rfl, rfl, placed, running, .kept running, rfl⟩
    | @opened blob _ fresh =>
      exact ⟨_, f, geometry, ⟨HdrMetadata.ofColor image.color, blob⟩, newest, rfl, rfl, placed, rfl,
        .opened fresh rfl (by simp), rfl⟩
    | updated legacy => cases atomic.symm.trans legacy
  | refused | importFailed | framebufferFailed | submitFailed => cases succeeded

theorem Presents.displaySize_eq (presents : m.Presents image src dst batch events p)
    (streaming : m.ring.isEmpty = false) : p.manager.displaySize = m.displaySize := by
  obtain ⟨query, rest, -, asks, -⟩ := presents.asks
  generalize p.manager.displaySize = size at asks
  cases asks with
  | kept => rfl
  | asked first => cases streaming.symm.trans first

/-- What a frame that is committed writes to a batch, and what that makes of the batch. -/
structure WritesFrame (config : Config) (m : Manager) (image : Image) (src dst : Rect)
    (batch : Batch) (events : List (Event interface)) (p : Presentation) (writes : Batch) :
    Prop where
  batch_eq : p.batch = batch.append writes
  order : writes.properties = frameProperties config.targets m.panel.supportsHdr
  overrides : ∀ w ∈ writes.writes, p.batch.value? w.object w.name = some w.value
  keeps : ∀ object name, (object, name) ∉ writes.properties →
    p.batch.value? object name = batch.value? object name
  /-- The same answers lead to the same writes on any other batch. -/
  oblivious : ∀ other, (m.present (some image) src dst other).Runs events
    ⟨p.manager, other.append writes, p.outcome⟩
  shows : ∃ g f dest, p.manager.ring.newest? = some g ∧ g.image = some image ∧
    g.framebuffer = some f ∧ Rescales config.osdSize p.manager.displaySize dst dest ∧
    ShowsPlane config f src dest p.batch
  signals : ∃ session, p.manager.hdr = some session ∧
    SessionFrom m.hdr image.color events session ∧
    Signals config.targets m.panel session image.color.transfer p.batch
  displaySize_eq : m.ring.isEmpty = false → p.manager.displaySize = m.displaySize

/-- At any time, a frame that is shown adds one list of writes to the batch, whatever the batch
held before. -/
theorem present_writes_frame (reachable : Reachable config m) (atomic : config.strategy = .atomic)
    (run : (m.present (some image) src dst batch).Runs events p) (succeeded : p.outcome = .ok ()) :
    ∃ writes, WritesFrame config m image src dst batch events p writes := by
  obtain ⟨acts, past, life⟩ := reachable
  have config_eq := (life.sound m rfl).config_eq
  obtain ⟨q, onEmpty, rfl⟩ := present_over run
  have presents := presentSome_runs onEmpty
  rw [← config_eq] at atomic
  obtain ⟨g, f, geometry, session, composes⟩ := presents.composes atomic succeeded
  have writes_eq : q.batch = m.frameWrites image.color g geometry session := composes.batch_eq
  have places := PlaneGeometry.places_of_ofRects composes.placed
  subst config_eq
  refine ⟨q.batch, rfl, ?_, ?_, ?_, ?_, ?_, ?_, ?_⟩
  · rw [writes_eq, frameWrites_properties]
  · intro w member
    refine Batch.value?_append_of_mem batch ?_ member
    rw [writes_eq]
    exact frameWrites_nodup ..
  · intro object name spared
    exact Batch.value?_append_of_not_mem batch spared
  · intro other
    exact over_runs onEmpty other
  · refine ⟨g, f, _, composes.newest_eq, composes.image_eq, composes.framebuffer_eq,
      rescales_destination (m.withDisplaySize q.manager.displaySize) dst, ?_⟩
    show ShowsPlane m.config f src _ (batch.append q.batch)
    rw [writes_eq]
    exact frameWrites_showsPlane batch composes.framebuffer_eq places
  · refine ⟨session, composes.hdr_eq, composes.from_hdr, ?_⟩
    show Signals m.config.targets m.panel session _ (batch.append q.batch)
    rw [writes_eq]
    exact frameWrites_signals batch
  · exact presents.displaySize_eq

end Manager

namespace Sample

open Simulation

/-- The first frame of a stream in PQ, on a display that is smaller than the surface. -/
def scaledShowing : List (Event interface) × Presentation × DisplayDevice :=
  presenting scaledCreated inPq area .empty smallDevice

theorem scaledShowing_reachable : Reachable scaled scaledShowing.2.1.manager := by
  have run := presenting_runs scaledCreated inPq area .empty smallDevice
  have life := Lifetime.start.next (.created scaledCreation_runs)
  have called : Acts scaled (some scaledCreated) (.call (.present (some inPq) area area .empty)) _
    (some (presenting scaledCreated inPq area .empty smallDevice).2.1.manager) :=
    .called (runs_map.mpr ⟨_, run, rfl⟩)
  unfold scaledShowing
  exact ⟨_, _, life.next called⟩

/-- A batch that names another framebuffer on the video plane, and one on a plane that is not the
manager's. -/
def named : Batch := ⟨[⟨.plane 63, Property.fbId, 99⟩, ⟨.plane 64, Property.fbId, 98⟩]⟩

/-- The second frame stands further to the left and higher than the display. -/
def scaledNext : List (Event interface) × Presentation × DisplayDevice :=
  presenting scaledShowing.2.1.manager inPq ⟨-24, -12, 1896, 1056⟩ named scaledShowing.2.2

theorem scaledNext_runs :
    (scaledShowing.2.1.manager.present (some inPq) area ⟨-24, -12, 1896, 1056⟩ named).Runs
      scaledNext.1 scaledNext.2.1 := by
  unfold scaledNext
  exact presenting_runs ..

theorem scaledNext_shown : scaledNext.2.1.outcome = .ok () := by
  decide +kernel

end Sample

namespace Manager

/-- The values of the properties after the second frame: it stands 16 pixels to the left of the
display, two thirds as large as on the surface, and PQ is gamma to a panel without metadata. -/
theorem present_writes_frame_second :
    ∃ writes, Reachable Sample.scaled Sample.scaledShowing.2.1.manager ∧
      Sample.scaled.strategy = .atomic ∧
      (Sample.scaledShowing.2.1.manager.present (some Sample.inPq) Sample.area
        ⟨-24, -12, 1896, 1056⟩ Sample.named).Runs Sample.scaledNext.1 Sample.scaledNext.2.1 ∧
      Sample.scaledNext.2.1.outcome = .ok () ∧
      ([Property.fbId, Property.crtcX, Property.crtcW, Property.eotf, Property.colorSpace].map
        (Sample.scaledNext.2.1.batch.value? (.plane 63)))
          = [some 5, some 18446744073709551600, some 1280, some 1, some 10] ∧
      Sample.scaledNext.2.1.batch.value? (.plane 64) Property.fbId = some 98 ∧
      WritesFrame Sample.scaled Sample.scaledShowing.2.1.manager Sample.inPq Sample.area
        ⟨-24, -12, 1896, 1056⟩ Sample.named Sample.scaledNext.1 Sample.scaledNext.2.1 writes := by
  obtain ⟨writes, frame⟩ :=
    present_writes_frame Sample.scaledShowing_reachable rfl Sample.scaledNext_runs
      Sample.scaledNext_shown
  exact ⟨writes, Sample.scaledShowing_reachable, rfl, Sample.scaledNext_runs,
    Sample.scaledNext_shown, by decide +kernel, by decide +kernel, frame⟩

end Manager

end Scanout.Overlay
