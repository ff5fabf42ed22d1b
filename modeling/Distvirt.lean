import Distvirt.Client.Stream
import Distvirt.Guest.Constraint
import Distvirt.Guest.Drain
import Distvirt.Http2.FlowControl
import Distvirt.Namespace.Leases
import Distvirt.Namespace.Mirror
import Distvirt.Namespace.Requests
import Distvirt.Orchestrator.Accounting
import Distvirt.Orchestrator.Artifacts
import Distvirt.Orchestrator.Destroy
import Distvirt.Shell.Silence
import Distvirt.Shell.Teardown
import Distvirt.Sm.WorkloadInvariants
import Distvirt.SmRouter.Delivered
import Distvirt.SmRouter.EdgeIndex
import Distvirt.Tcp.Replay
import Distvirt.Worker.Blocking
import Distvirt.Worker.Circulation
import Distvirt.Worker.Endings
import Distvirt.Worker.Paths
import Distvirt.Worker.PeerIndex
import Distvirt.Worker.Replies
import Distvirt.Worker.ServiceIndex
import Distvirt.Worker.Truthful
import Distvirt.Worker.TunnelPorts
import Distvirt.Worker.TunnelIndex
import Distvirt.Worker.FlowHistory
import Distvirt.Worker.ServiceProcessor
import Distvirt.Worker.StreamPackets
import Distvirt.Postgres.Joined
import Distvirt.Sm.EndpointSignals
import Distvirt.Guest.Settled
import Distvirt.Guest.Control
import Distvirt.Worker.GuestWatch
import Distvirt.Sm.PodLife
import Distvirt.Namespace.AddressRuns
import Distvirt.Guest.Fill
import Distvirt.Guest.Ceiling
