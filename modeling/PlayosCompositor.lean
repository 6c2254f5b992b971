import PlayosCompositor.Discovery.Chosen
import PlayosCompositor.Discovery.Devices
import PlayosCompositor.Discovery.Refresh
import PlayosCompositor.Ipc.Backoff
import PlayosCompositor.Ipc.Closing
import PlayosCompositor.Ipc.Echo
import PlayosCompositor.Ipc.Members
import PlayosCompositor.Ipc.Reconnect
import PlayosCompositor.Ipc.Resends
import PlayosCompositor.Ipc.RoundTrip
import PlayosCompositor.Ipc.Survival
import PlayosCompositor.Ipc.Transparent
import PlayosCompositor.Outputs.Graphics
import PlayosCompositor.Outputs.Modes
import PlayosCompositor.Outputs.Serving
import PlayosCompositor.Overlay.Beneath
import PlayosCompositor.Overlay.Noninterference
import PlayosCompositor.Overlay.Target
import PlayosCompositor.Runs.Composition
import PlayosCompositor.Runs.Departure
import PlayosCompositor.Runs.Designation
import PlayosCompositor.Runs.Erasure
import PlayosCompositor.Runs.Gating
import PlayosCompositor.Runs.Graph
import PlayosCompositor.Runs.Keyboards
import PlayosCompositor.Runs.Launch
import PlayosCompositor.Runs.Order
import PlayosCompositor.Runs.Recovery
import PlayosCompositor.Runs.Reports
import PlayosCompositor.Runs.Roles
import PlayosCompositor.Runs.Statistics
import PlayosCompositor.Runs.Tracking
import PlayosCompositor.Runs.Trust
import PlayosCompositor.Runs.Windows
import PlayosCompositor.Startup.Protocol
