import Scanout.Proofs.Display.Batch
import Scanout.Proofs.Overlay.Presentation

/-!
# What the writes of a frame say

A frame is shown by writes to the plane's own properties, and its colours are signalled by others.
Each property is written once, so what a frame's writes give to it is read off either part.
-/

namespace Scanout.Overlay

def planeProperties : List String :=
  [Property.fbId, Property.crtcId, Property.srcX, Property.srcY, Property.srcW, Property.srcH,
    Property.crtcX, Property.crtcY, Property.crtcW, Property.crtcH, Property.zpos]

def colorProperties : List String :=
  [Property.eotf, Property.colorSpace, Property.hdrSourceMetadata, Property.hdmiOutputFormat]

theorem planeWrites_names (config : Config) (framebuffer : UInt32) (geometry : PlaneGeometry) :
    (planeWrites config framebuffer geometry).writes.map PropertyWrite.name = planeProperties :=
  rfl

theorem planeWrites_nodup (config : Config) (framebuffer : UInt32) (geometry : PlaneGeometry) :
    ((planeWrites config framebuffer geometry).writes.map PropertyWrite.name).Nodup := by
  rw [planeWrites_names]
  decide

section Colors

variable (targets : Targets) (panel : Panel) (session : HdrSession) (transfer : Transfer)

theorem colorWrites_names :
    ∀ w ∈ (colorWrites targets panel session transfer).writes, w.name ∈ colorProperties := by
  unfold colorWrites
  split <;> simp [colorProperties]

theorem colorWrites_nodup :
    ((colorWrites targets panel session transfer).writes.map PropertyWrite.name).Nodup := by
  unfold colorWrites
  split <;> simp [Property.eotf, Property.colorSpace, Property.hdrSourceMetadata,
    Property.hdmiOutputFormat]

end Colors

/-- The code of the transfer function that a session has the plane signal. A panel that takes no
metadata is told gamma, of high dynamic range unless the session is in the traditional one. -/
def signalledEotf (panel : Panel) (metadata : HdrMetadata) : UInt16 :=
  if panel.supportsHdr then metadata.eotf else if metadata.eotf = 0 then 0 else 1

theorem fallbackEotf_code (metadata : HdrMetadata) :
    (fallbackEotf metadata).code = if metadata.eotf = 0 then 0 else 1 := by
  unfold fallbackEotf
  by_cases traditional : metadata.eotf = 0 <;>
    simp [HdrMetadata.isHdr, Eotf.code, traditional]

section Parts

variable {m : Manager} {color : Color} {g : Generation} {geometry : PlaneGeometry}
  {session : HdrSession}

theorem frameWrites_of_plane (object : ModeObject) {name : String} (shows : name ∉ colorProperties) :
    (m.frameWrites color g geometry session).valuesOf object name
      = (planeWrites m.config g.framebufferNumber geometry).valuesOf object name := by
  have silent : (colorWrites m.config.targets m.panel session color.transfer).valuesOf object name
      = [] :=
    Batch.valuesOf_eq_nil fun w member same => shows (same ▸ colorWrites_names _ _ _ _ w member)
  rw [Manager.frameWrites, Batch.valuesOf_append, silent, List.append_nil]

theorem frameWrites_of_color (object : ModeObject) {name : String} (signals : name ∉ planeProperties) :
    (m.frameWrites color g geometry session).valuesOf object name
      = (colorWrites m.config.targets m.panel session color.transfer).valuesOf object name := by
  have silent : (planeWrites m.config g.framebufferNumber geometry).valuesOf object name = [] :=
    Batch.valuesOf_eq_nil fun w member same =>
      signals (same ▸ List.mem_map_of_mem (f := PropertyWrite.name) member)
  rw [Manager.frameWrites, Batch.valuesOf_append, silent, List.nil_append]

end Parts

variable (m : Manager) (color : Color) (g : Generation) (geometry : PlaneGeometry)
  (session : HdrSession)

theorem frameWrites_value? :
    (m.frameWrites color g geometry session).value? (.plane m.config.targets.videoPlane)
      Property.fbId = some g.framebufferNumber.toUInt64 := by
  have named : ⟨.plane m.config.targets.videoPlane, Property.fbId, g.framebufferNumber.toUInt64⟩
      ∈ (planeWrites m.config g.framebufferNumber geometry).writes := by simp [planeWrites]
  rw [Batch.value?_eq_getLast?, frameWrites_of_plane _ (by decide),
    Batch.valuesOf_of_mem (planeWrites_nodup _ _ _) named]
  rfl

theorem frameWrites_metadata :
    (m.frameWrites color g geometry session).valuesOf (.connector m.config.targets.connector)
        Property.hdrSourceMetadata
      = if m.panel.supportsHdr then [session.blob.id.toUInt64] else [] := by
  rw [frameWrites_of_color _ (by decide)]
  unfold colorWrites
  split <;> simp [Batch.valuesOf, Property.hdrSourceMetadata, Property.hdmiOutputFormat]

theorem frameWrites_eotf :
    (m.frameWrites color g geometry session).valuesOf (.plane m.config.targets.videoPlane)
        Property.eotf
      = [(signalledEotf m.panel session.metadata).toUInt64] := by
  have named : ⟨.plane m.config.targets.videoPlane, Property.eotf,
      (signalledEotf m.panel session.metadata).toUInt64⟩
        ∈ (colorWrites m.config.targets m.panel session color.transfer).writes := by
    unfold colorWrites signalledEotf
    split <;> simp [fallbackEotf_code]
  rw [frameWrites_of_color _ (by decide),
    Batch.valuesOf_of_mem (colorWrites_nodup _ _ _ _) named]

theorem frameWrites_colorSpace :
    (m.frameWrites color g geometry session).valuesOf (.plane m.config.targets.videoPlane)
        Property.colorSpace
      = [(ColorSpace.ofTransfer color.transfer).code.toUInt64] := by
  have named : ⟨.plane m.config.targets.videoPlane, Property.colorSpace,
      (ColorSpace.ofTransfer color.transfer).code.toUInt64⟩
        ∈ (colorWrites m.config.targets m.panel session color.transfer).writes := by
    unfold colorWrites
    split <;> simp
  rw [frameWrites_of_color _ (by decide),
    Batch.valuesOf_of_mem (colorWrites_nodup _ _ _ _) named]

end Scanout.Overlay
