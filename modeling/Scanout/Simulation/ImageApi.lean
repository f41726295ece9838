import Scanout.Simulation.Failures
import Scanout.Texture.ImageApi

/-!
# A simulated external image interface

Textures and images are numbered from one counter. What is alive is kept.
-/

namespace Scanout.Simulation

open Texture

structure ImageApi where
  counter : Nat
  failures : FailurePlan PresentError
  textures : List UInt32
  images : List UInt64

namespace ImageApi

def callName : Request → String
  | .createTextures _ => "create_textures"
  | .deleteTextures _ => "delete_textures"
  | .createImage _ => "create_image"
  | .destroyImage _ => "destroy_image"
  | .bindImage .. => "bind_image"

def fail? (r : Request) (s : ImageApi) : Option PresentError × ImageApi :=
  let (failure, failures) := s.failures.next (callName r)
  (failure, { s with failures })

def answer : (r : Request) → ImageApi → r.Answer × ImageApi
  | .createTextures count, s =>
    match s.fail? (.createTextures count) with
    | (some e, s) => (.error e, s)
    | (none, s) =>
      let made := Vector.ofFn fun i : Fin count => TextureId.mk (1000 + s.counter + i).toUInt32
      (.ok made, { s with
        counter := s.counter + count
        textures := s.textures ++ made.toList.map TextureId.name })
  | .deleteTextures textures, s =>
    ((), { s with textures := s.textures.filter fun t => ⟨t⟩ ∉ textures })
  | .createImage description, s =>
    match s.fail? (.createImage description) with
    | (some e, s) => (.error e, s)
    | (none, s) =>
      let made := (s.counter + 1).toUInt64
      (.ok ⟨made⟩, { s with counter := s.counter + 1, images := s.images ++ [made] })
  | .destroyImage image, s =>
    match s.fail? (.destroyImage image) with
    | (some e, s) => (.error e, s)
    | (none, s) => (.ok (), { s with images := s.images.erase image.handle })
  | .bindImage texture image, s =>
    match s.fail? (.bindImage texture image) with
    | (some e, s) => (.error e, s)
    | (none, s) => (.ok (), s)

end ImageApi

end Scanout.Simulation
