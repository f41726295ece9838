import Scanout.Display.Device

/-!
# The kernel's mode-setting interface

Every request is answered before the next is made: with its reply, or with an error number. Ids are
plain numbers here, and zero stands for none wherever the kernel lets it.
-/

namespace Scanout.Kernel

open Display (FramebufferLayout PlaneUpdate)

structure Resources where
  connectors : List UInt32
  crtcs : List UInt32
  deriving DecidableEq, Repr

structure Connector where
  connected : Bool
  /-- The encoder it is attached to now. -/
  encoder : Option UInt32
  deriving DecidableEq, Repr

structure PropertyValue where
  property : UInt32
  value : UInt64
  deriving DecidableEq, Repr

structure AtomicSet where
  object : UInt32
  property : UInt32
  value : UInt64
  deriving DecidableEq, Repr

/-- What a client can ask to be treated as knowing. -/
inductive ClientCapability where
  | universalPlanes
  | atomic
  deriving DecidableEq, Repr

def ClientCapability.code : ClientCapability → UInt64
  | .universalPlanes => 2
  | .atomic => 3

/-- The driver capability that tells which directions of buffer sharing work. -/
def primeCapability : UInt64 := 5

inductive Request where
  /-- Opens a card node for reading and writing. The requests that follow go to it. -/
  | openNode (path : String)
  | setClientCapability (capability : ClientCapability)
  | capability (code : UInt64)
  | resources
  | connector (id : UInt32)
  | encoder (id : UInt32)
  | crtc (id : UInt32)
  | planes
  /-- The CRTCs a plane can be used on, by bits that count through the card's CRTCs. -/
  | plane (id : UInt32)
  | objectProperties (object : ModeObject)
  | property (id : UInt32)
  | propertyBlob (id : UInt32)
  | importPrimeFd (fd : Fd)
  | closeHandle (handle : UInt32)
  | addFramebuffer (layout : FramebufferLayout)
  | removeFramebuffer (framebuffer : UInt32)
  | createBlob (data : List UInt8)
  | destroyBlob (blob : UInt32)
  | setPlane (update : PlaneUpdate)
  | atomic (nonblock : Bool) (sets : List AtomicSet)
  deriving DecidableEq

abbrev Request.Reply : Request → Type
  | .openNode _ | .setClientCapability _ | .closeHandle _ | .removeFramebuffer _
  | .destroyBlob _ | .setPlane _ | .atomic .. => Unit
  | .capability _ => UInt64
  | .resources => Resources
  | .connector _ => Connector
  | .encoder _ => Option UInt32
  | .crtc _ => Option Size
  | .planes => List UInt32
  | .plane _ | .importPrimeFd _ | .addFramebuffer _ | .createBlob _ => UInt32
  | .objectProperties _ => List PropertyValue
  | .property _ => String
  | .propertyBlob _ => List UInt8

abbrev interface : Interface where
  Request := Request
  Answer r := Except Errno r.Reply

abbrev Program (α : Type) : Type := Proc interface α

def Program.ask (r : Request) : Program (Except Errno r.Reply) := Proc.ask (I := interface) r

end Scanout.Kernel
