import Scanout.Gl.Images
import Scanout.Main
import Scanout.Simulation.Card
import Scanout.Simulation.DisplayDevice
import Scanout.Simulation.GraphicsLibrary
import Scanout.Simulation.ImageApi
import Scanout.Texture.Mapper
import Scanout.Proofs.Display.Ledger
import Scanout.Proofs.Import.Runs
import Scanout.Proofs.Display.Batch
import Scanout.Proofs.Display.Screen
import Scanout.Proofs.Geometry.Refusals
import Scanout.Proofs.Overlay.Atomicity
import Scanout.Proofs.Overlay.Closing
import Scanout.Proofs.Overlay.History
import Scanout.Proofs.Overlay.HandleCount
import Scanout.Proofs.Display.Blobs
import Scanout.Proofs.Overlay.Signalling
import Scanout.Proofs.Overlay.SharedBatch
import Scanout.Proofs.Overlay.Session
import Scanout.Proofs.Texture.Alive
import Scanout.Proofs.Texture.Runs
import Scanout.Proofs.Texture.Lifetimes
import Scanout.Proofs.Kernel.Catalogue
import Scanout.Proofs.Kernel.Entries
import Scanout.Proofs.Kernel.Commit
import Scanout.Proofs.Kernel.Meaning
import Scanout.Proofs.Kernel.Cache
import Scanout.Proofs.Import.Acquired
import Scanout.Proofs.Display.Outstanding
import Scanout.Proofs.Overlay.Movements
import Scanout.Proofs.Overlay.Peak
import Scanout.Proofs.Overlay.Window
import Scanout.Proofs.Proc.Answers
import Scanout.Proofs.Display.Steps
import Scanout.Proofs.Import.Steps
import Scanout.Proofs.Overlay.Writes
import Scanout.Proofs.Overlay.Acquisition
import Scanout.Proofs.Overlay.Picture
import Scanout.Proofs.Overlay.Coherence
import Scanout.Proofs.Overlay.Classification
import Scanout.Proofs.Overlay.Accounting
import Scanout.Proofs.Overlay.Restart
import Scanout.Proofs.Geometry.Grid
import Scanout.Proofs.Geometry.Exact
import Scanout.Proofs.Overlay.Placement
import Scanout.Proofs.Settings.Validation
import Scanout.Proofs.Display.Prime
import Scanout.Proofs.Import.Shared
import Scanout.Proofs.Overlay.Releases
import Scanout.Proofs.Overlay.Aliasing
import Scanout.Proofs.Frame.Descriptor
import Scanout.Proofs.Import.Order
import Scanout.Proofs.Overlay.Layout
import Scanout.Proofs.Overlay.StreamEnd
import Scanout.Proofs.Overlay.FrameWrites
import Scanout.Proofs.Texture.Binding
import Scanout.Proofs.Kernel.Discovery
import Scanout.Proofs.Gl.Errors
import Scanout.Proofs.Gl.Probe
import Scanout.Proofs.Overlay.DisplaySize
import Scanout.Proofs.Hdr.Codec
import Scanout.Proofs.Texture.Attributes
import Scanout.Proofs.Proc.Translate
import Scanout.Proofs.Gl.Resources
import Scanout.Proofs.Texture.Allocation
import Scanout.Proofs.Gl.Rollback
import Scanout.Proofs.Ring.Fifo
import Scanout.Proofs.Overlay.Teardown
import Scanout.Proofs.Geometry.Rounding
