import Scanout.Kernel.Interface
import Scanout.Simulation.Failures
import Scanout.Simulation.Files

/-!
# A simulated card

It answers the kernel's queries from tables, takes every change, and keeps a journal of both. New
ids come from one counter. What is only asked again is answered again, without an entry in the
journal and without counting for planned failures. Ids that are in no table are answered with an
error, but the card did not fail.
-/

namespace Scanout.Simulation

open Kernel

inductive Outcome where
  | answered
  | made (id : UInt32)
  | done
  | failed (errno : Errno)
  deriving DecidableEq

structure JournalEntry where
  request : Request
  outcome : Outcome
  deriving DecidableEq

structure Card where
  /-- Directions of buffer sharing that work. -/
  prime : UInt64
  lastId : UInt32
  failures : FailurePlan Errno
  connectors : List (UInt32 × Connector)
  encoders : List (UInt32 × Option UInt32)
  crtcs : List (UInt32 × Option Size)
  planes : List (UInt32 × UInt32)
  propertyNames : List (UInt32 × String)
  objects : List (ModeObject × List PropertyValue)
  blobs : List (UInt32 × List UInt8)
  /-- What was asked for, newest first. -/
  journal : List JournalEntry

namespace Card

def callName : Request → String
  | .openNode _ => "OPEN"
  | .setClientCapability _ => "SET_CLIENT_CAP"
  | .capability _ => "GET_CAP"
  | .resources => "GETRESOURCES"
  | .connector _ => "GETCONNECTOR"
  | .encoder _ => "GETENCODER"
  | .crtc _ => "GETCRTC"
  | .planes => "GETPLANERESOURCES"
  | .plane _ => "GETPLANE"
  | .objectProperties _ => "OBJ_GETPROPERTIES"
  | .property _ => "GETPROPERTY"
  | .propertyBlob _ => "GETPROPBLOB"
  | .importPrimeFd _ => "PRIME_FD_TO_HANDLE"
  | .closeHandle _ => "GEM_CLOSE"
  | .addFramebuffer _ => "ADDFB2"
  | .removeFramebuffer _ => "RMFB"
  | .createBlob _ => "CREATEPROPBLOB"
  | .destroyBlob _ => "DESTROYPROPBLOB"
  | .setPlane _ => "SETPLANE"
  | .atomic .. => "ATOMIC"

/-- What a request leaves in the journal when it does not fail. -/
def usualOutcome (id : UInt32) : Request → Outcome
  | .importPrimeFd _ | .addFramebuffer _ | .createBlob _ => .made id
  | .setClientCapability _ | .closeHandle _ | .removeFramebuffer _ | .destroyBlob _ | .setPlane _
  | .atomic .. => .done
  | _ => .answered

private def found {α : Type} (entry : Option α) : Except Errno α :=
  match entry with
  | some a => .ok a
  | none => .error Errno.noEntry

/-- The answer to a request that does not fail; `id` is the number for what it makes. -/
def reply (c : Card) (id : UInt32) : (r : Request) → Except Errno r.Reply
  | .openNode path => FileNode.openResult path
  | .capability _ => .ok c.prime
  | .resources => .ok (⟨c.connectors.map (·.1), c.crtcs.map (·.1)⟩ : Resources)
  | .connector id => found (c.connectors.lookup id)
  | .encoder id => found (c.encoders.lookup id)
  | .crtc id => found (c.crtcs.lookup id)
  | .planes => .ok (c.planes.map (·.1))
  | .plane id => found (c.planes.lookup id)
  | .objectProperties object => found (c.objects.lookup object)
  | .property id => found (c.propertyNames.lookup id)
  | .propertyBlob id => found (c.blobs.lookup id)
  | .importPrimeFd _ | .addFramebuffer _ | .createBlob _ => .ok id
  | .setClientCapability _ | .closeHandle _ | .removeFramebuffer _ | .destroyBlob _ | .setPlane _
  | .atomic .. => .ok ()

def answerFresh (r : Request) (c : Card) : Except Errno r.Reply × Card :=
  let (failure, failures) := c.failures.next (callName r)
  let c := { c with failures }
  match failure with
  | some errno => (.error errno, { c with journal := ⟨r, .failed errno⟩ :: c.journal })
  | none =>
    let id := c.lastId + 1
    let outcome := usualOutcome id r
    let lastId := if outcome = .made id then id else c.lastId
    (c.reply id r, { c with lastId, journal := ⟨r, outcome⟩ :: c.journal })

def repeats (c : Card) (r : Request) : Bool := c.journal.head? = some ⟨r, .answered⟩

def answer (r : Request) (c : Card) : Except Errno r.Reply × Card :=
  match r with
  | .openNode path => (FileNode.openResult path, c)
  | r => if c.repeats r then (c.reply c.lastId r, c) else answerFresh r c

end Card

end Scanout.Simulation
