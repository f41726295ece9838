import Scanout.Proofs.Display.Prime
import Scanout.Proofs.Import.Acquired

/-!
# An import of buffers that may be open already

On a device that shares handles, an import that succeeds ends up with the handles under which the
buffers of its objects are open. It closes nothing, so what was open before is open after.
-/

namespace Scanout

open Display Proc

/-- The objects that a framebuffer of the frame is made of, each once. -/
def FrameDescriptor.scanoutObjects (d : FrameDescriptor) : List Nat :=
  (d.scanoutPlanes.map Plane.object).dedup

def FrameDescriptor.buffersOf {Buffer : Type} (d : FrameDescriptor) (memory : Fd → Buffer)
    (objects : List Nat) : List Buffer :=
  objects.filterMap fun i => (d.object? i).map fun object => memory object.fd

namespace HandleSet

variable {Buffer : Type} {memory : Fd → Buffer} {o last : Openings Buffer}
  {d : FrameDescriptor} {planes : List Plane} {s next : HandleSet}
  {events : List (Event interface)} {outcome : Except PresentError HandleSet}

/-- A set has handles for exactly these objects, and they are those under which the objects' buffers
are open. -/
structure Covers (o : Openings Buffer) (memory : Fd → Buffer) (d : FrameDescriptor)
    (objects : List Nat) (s : HandleSet) : Prop where
  once : objects.Nodup
  get? : ∀ i, (s.get? i).isSome ↔ i ∈ objects
  names : o.Names (d.buffersOf memory objects) s.held

theorem covers_empty : Covers o memory d [] empty where
  once := List.nodup_nil
  get? i := by simp
  names := .nil

theorem Covers.insert {objects : List Nat} {i : Nat} {object : MemoryObject} {h : GemHandle}
    (covers : Covers o memory d objects s) (bound : i < maxPlanes) (missing : s.get? i = none)
    (found : d.object? i = some object) (named : o.handle? (memory object.fd) = some h) :
    Covers o memory d (i :: objects) (s.insert i bound h) where
  once := by
    refine List.nodup_cons.mpr ⟨fun among => ?_, covers.once⟩
    have held := (covers.get? i).mpr among
    rw [missing] at held
    cases held
  get? j := by
    rw [get?_insert, List.mem_cons, ← covers.get? j]
    split
    · rename_i same
      simp [same]
    · rename_i other
      simp [other]
  names := by
    have here : o.Names [memory object.fd] [h] := by
      simp [Openings.Names, named]
    have buffers : d.buffersOf memory (i :: objects)
        = [memory object.fd] ++ d.buffersOf memory objects := by
      simp [FrameDescriptor.buffersOf, found]
    rw [buffers]
    exact (here.append covers.names).of_perm (.refl _) (held_insert_perm bound missing h).symm

theorem Covers.lasts {objects : List Nat} (covers : Covers o memory d objects s)
    (stays : ∀ b h, o.handle? b = some h → last.handle? b = some h) :
    Covers last memory d objects s :=
  ⟨covers.once, covers.get?, covers.names.lasts fun b h _ named => stays b h named⟩

/-- An import opens what it lacks and leaves open what was. -/
theorem Extends.covers [DecidableEq Buffer] {objects : List Nat}
    (ways : Extends d planes s events outcome) (succeeds : outcome = .ok next)
    (along : o.Along memory events last) (covers : Covers o memory d objects s) :
    (∀ b h, o.handle? b = some h → last.handle? b = some h) ∧
      ∃ all, Covers last memory d all next ∧
        ∀ i, i ∈ all ↔ i ∈ objects ∨ ∃ p ∈ planes, p.object = i := by
  induction ways generalizing o objects with
  | done s =>
    cases succeeds
    cases along
    exact ⟨fun _ _ named => named, objects, covers, by simp⟩
  | @kept plane rest _ _ _ present _ ih =>
    obtain ⟨stays, all, covered, members⟩ := ih succeeds along covers
    refine ⟨stays, all, covered, fun i => ?_⟩
    have there : plane.object ∈ objects := (covers.get? _).mp present
    rw [members, List.exists_mem_cons_iff]
    constructor
    · rintro (before | later)
      · exact .inl before
      · exact .inr (.inr later)
    · rintro (before | rfl | later)
      · exact .inl before
      · exact .inl there
      · exact .inr later
  | @imported plane rest _ object h _ _ missing found bound _ ih =>
    obtain _ | ⟨serves, reported⟩ := along
    obtain _ | ⟨⟨⟩, later⟩ := reported
    obtain ⟨named, grows⟩ := serves.of_import
    obtain ⟨stays, all, covered, members⟩ :=
      ih succeeds later ((covers.lasts grows).insert bound missing found named)
    refine ⟨fun b k before => stays b k (grows b k before), all, covered, fun i => ?_⟩
    rw [members, List.mem_cons, List.exists_mem_cons_iff]
    constructor
    · rintro ((rfl | before) | later)
      · exact .inr (.inl rfl)
      · exact .inl before
      · exact .inr (.inr later)
    · rintro (before | rfl | later)
      · exact .inl (.inr before)
      · exact .inl (.inl rfl)
      · exact .inr later
  | unknown | failed => cases succeeds

theorem names_of_ofPlanes [DecidableEq Buffer]
    (importing : (ofPlanes d d.scanoutPlanes).Runs events (.ok next))
    (along : o.Along memory events last) :
    (∀ b h, o.handle? b = some h → last.handle? b = some h) ∧
      last.Names (d.buffersOf memory d.scanoutObjects) next.held := by
  obtain ⟨stays, all, covered, members⟩ :=
    (extends_of_runs importing).covers rfl along covers_empty
  refine ⟨stays, covered.names.of_perm (List.Perm.filterMap _ ?_) (.refl _)⟩
  refine (List.perm_ext_iff_of_nodup covered.once (List.nodup_dedup _)).mpr fun i => ?_
  simp [members]

theorem Extends.only_imports (ways : Extends d planes s events outcome)
    (succeeds : outcome = .ok next) {request : Request} (asked : request ∈ requestsOf events) :
    ∃ fd, request = .importPrimeFd fd := by
  induction ways with
  | done => cases asked
  | kept _ _ ih => exact ih succeeds asked
  | @imported _ _ _ object _ _ _ _ _ _ _ ih =>
    rw [requestsOf_answered, requestsOf_reported, List.mem_cons] at asked
    rcases asked with rfl | later
    · exact ⟨object.fd, rfl⟩
    · exact ih succeeds later
  | unknown | failed => cases succeeds

end HandleSet

end Scanout
