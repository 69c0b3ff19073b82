import Projector.Device.Flaky
import Projector.Device.Recorder
import Projector.FileTree
import Projector.Image.File
import Projector.Main
import Projector.Demo.Producer
import Projector.Proofs.Admission
import Projector.Proofs.AllocateUpload
import Projector.Proofs.Anchoring
import Projector.Proofs.Announcement
import Projector.Proofs.Blank
import Projector.Proofs.ChromaAlignment
import Projector.Proofs.Clearing
import Projector.Proofs.Composition
import Projector.Proofs.Coordinates
import Projector.Proofs.Depiction
import Projector.Proofs.DrawParameters
import Projector.Proofs.Fetch
import Projector.Proofs.Mailbox
import Projector.Proofs.Numbers
import Projector.Proofs.Ownership
import Projector.Proofs.PassCalls
import Projector.Proofs.Placement
import Projector.Proofs.Reallocation
import Projector.Proofs.Recorder
import Projector.Proofs.Redraw
import Projector.Proofs.Retry
import Projector.Proofs.Safety
import Projector.Proofs.Scene
import Projector.Proofs.ScreenEvents
import Projector.Proofs.Snapshot
import Projector.Proofs.SteadyState
import Projector.Proofs.Subtitles
import Projector.Proofs.Synthesis
import Projector.Proofs.Texels
import Projector.Proofs.Vacant
import Projector.Proofs.Wakeup
import Projector.Renderer.Request
import Projector.Proofs.Agreement
import Projector.Proofs.Framing
import Projector.Proofs.CountedEffects
import Projector.Proofs.Recolouring
import Projector.Proofs.WholeRectangles
import Projector.Proofs.ConfigText
import Projector.Proofs.Wishes
import Projector.Proofs.ColorText
import Projector.Proofs.LayoutTable
