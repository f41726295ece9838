import Scanout.Kernel.Properties

/-!
# Finding something to present on

The first connector that shows a picture gives the connector and the CRTC, and the first overlay
plane that reaches this CRTC gives the plane. Nothing behind the first match is looked at.
-/

namespace Scanout.Kernel

inductive DiscoveryFailure where
  | resources (cause : Errno)
  | connector (cause : Errno)
  | noConnector
  | planes (cause : Errno)
  | noPlane
  /-- A query on the way failed. -/
  | query (cause : Errno)
  | arithmetic (fault : ArithmeticFault)
  deriving DecidableEq, Repr

def DiscoveryFailure.messages : DiscoveryFailure → List String
  | resources cause => ["Failed to get DRM resources", cause.message]
  | connector cause => ["Failed to get connector", cause.message]
  | noConnector => ["No connected connector with an active CRTC"]
  | planes cause => ["Failed to get planes", cause.message]
  | noPlane => ["No overlay plane for the active CRTC"]
  | query cause => [cause.message]
  | arithmetic fault => [fault.message]

def overlayType : UInt64 := 0

/-- The first of these connectors that is connected and has an encoder that drives a CRTC, and this
CRTC. -/
def findConnector : List UInt32 → Program (Except DiscoveryFailure (UInt32 × UInt32))
  | [] => return .error .noConnector
  | id :: rest => do
    match ← Program.ask (.connector id) with
    | .error e => return .error (.connector e)
    | .ok (connector : Connector) =>
      match connector.connected, connector.encoder with
      | true, some encoder =>
        match ← Program.ask (.encoder encoder) with
        | .error e => return .error (.query e)
        | .ok (crtc : Option UInt32) =>
          match crtc with
          | some crtc => return .ok (id, crtc)
          | none => findConnector rest
      | _, _ => findConnector rest

/-- A mask has a bit for so many CRTCs. -/
def maskWidth : Nat := 32

/-- The mask has the bit of a place at which the CRTC stands. More places than bits are a fault. -/
def reaches (crtcs : List UInt32) (mask crtc : UInt32) : Except ArithmeticFault Bool :=
  if maskWidth < crtcs.length then .error .shift
  else .ok <| crtcs.zipIdx.any fun (id, place) => mask.toNat.testBit place && id = crtc

def findPlane (crtcs : List UInt32) (crtc : UInt32) :
    List UInt32 → Program (Except DiscoveryFailure UInt32)
  | [] => return .error .noPlane
  | id :: rest => do
    match ← Program.ask (.plane id) with
    | .error e => return .error (.query e)
    | .ok (mask : UInt32) =>
      match reaches crtcs mask crtc with
      | .error fault => return .error (.arithmetic fault)
      | .ok false => findPlane crtcs crtc rest
      | .ok true =>
        match ← lookupProperty (.plane id) "type" with
        | .error e => return .error (.query e)
        | .ok entry =>
          if entry.map PropertyValue.value = some overlayType then return .ok id
          else findPlane crtcs crtc rest

def discoverTargets : Program (Except DiscoveryFailure Targets) := do
  match ← Program.ask .resources with
  | .error e => return .error (.resources e)
  | .ok (card : Resources) =>
    match ← findConnector card.connectors with
    | .error e => return .error e
    | .ok (connector, crtc) =>
      match ← Program.ask .planes with
      | .error e => return .error (.planes e)
      | .ok (planes : List UInt32) =>
        match ← findPlane card.crtcs crtc planes with
        | .error e => return .error e
        | .ok videoPlane =>
          let targets : Targets := { crtc, connector, videoPlane }
          Proc.notice (.targetsDiscovered targets)
          return .ok targets

end Scanout.Kernel
