import Scanout.Proofs.Overlay.Conservation

/-!
# A failed frame is undone

Of a presentation that fails, nothing remains but the loss of the oldest generation of a full ring:
room is made before the device is asked for anything, and what it had to say comes after. The newest
generation survives because no ring is shallower than two.
-/

namespace Scanout.Overlay

open Display Proc

def references (ring : Ring Generation) (image : Image) : Nat :=
  ring.slots.countP fun g => g.image.map Image.serial == some image.serial

theorem Blames.kind?_eq {fault : Fault} {request : Request} {cause : DeviceError}
    (blame : Blames fault request cause) :
    fault.kind? = some .importing ∨ fault.kind? = some .commit := by
  cases blame with
  | importing | framebuffer => exact .inl rfl
  | blob | update => exact .inr rfl

namespace Manager

variable {m : Manager} {batch : Batch} {events : List (Event interface)} {fault : Fault}
  {p : Presentation}

/-- The generations a failed presentation has lost, and what it gave back for them. -/
theorem Fails.lost (fails : m.Fails batch events fault p) :
    ∃ lost, m.ring.slots = lost ++ p.manager.ring.slots ∧
      Settles (lost.flatMap Generation.resources : List Resource) (movementsOf events) 0 := by
  cases fails.how with
  | check ring_eq checked calls =>
    refine ⟨[], by rw [ring_eq]; rfl, ?_⟩
    rw [movementsOf_of_neutral (by rw [calls]; exact modeRequests_neutral)]
    exact .nil 0
  | device ring_eq request cause blame answered settles =>
    exact ⟨m.ring.makeRoom.1.toList, by rw [ring_eq, Ring.makeRoom_slots], settles⟩

theorem Fails.resources_eq (fails : m.Fails batch events fault p)
    {lost : List Generation} (slots : m.ring.slots = lost ++ p.manager.ring.slots) :
    (m.resources : Multiset Resource)
      = (lost.flatMap Generation.resources : List Resource) + p.manager.resources := by
  rw [Multiset.coe_add, resources, resources, sessionResources, sessionResources, fails.hdr_eq,
    slots, List.flatMap_append, List.append_assoc]

theorem Fails.newest_eq (fails : m.Fails batch events fault p) (deep : 2 ≤ m.ring.depth) :
    p.manager.ring.newest? = m.ring.newest? := by
  cases fails.how with
  | check ring_eq => rw [ring_eq]
  | device ring_eq => rw [ring_eq, Ring.makeRoom_newest? deep]

theorem Fails.ring (fails : m.Fails batch events fault p) :
    p.manager.ring = m.ring ∨
      (m.ring.size = m.ring.depth ∧ (∃ oldest, m.ring.slots = oldest :: p.manager.ring.slots) ∧
        ∃ request cause, Blames fault request cause ∧
          .answered request (.error cause) ∈ events) := by
  cases fails.how with
  | check ring_eq => exact .inl ring_eq
  | device ring_eq request cause blame answered =>
    by_cases full : m.ring.size = m.ring.depth
    · obtain ⟨oldest, rest, slots, -, stays⟩ := Ring.makeRoom_of_full full
      exact .inr ⟨full, ⟨oldest, by rw [ring_eq, slots, stays]⟩, request, cause, blame, answered⟩
    · rw [Ring.makeRoom_of_room full] at ring_eq
      exact .inl ring_eq

theorem Fails.refused (fails : m.Fails batch events fault p)
    (kind : fault.kind? = some .invalidFrame ∨ fault.kind? = some .unsupported) :
    p.manager.ring = m.ring ∧ requestsOf events = m.modeRequests := by
  cases fails.how with
  | check ring_eq checked calls => exact ⟨ring_eq, calls⟩
  | device ring_eq request cause blame =>
    rcases blame.kind?_eq with other | other <;> rw [other] at kind <;> simp at kind

end Manager

end Scanout.Overlay
