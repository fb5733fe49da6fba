import AetherEdge.CloudLink.ChallengeHello
import AetherEdge.CloudLink.FileSpoolCreation
import AetherEdge.CloudLink.SpoolRemoval
import AetherEdge.Dataplane.Reopen
import AetherEdge.History.Buffer
import AetherEdge.Io.CommandDispatch
import AetherEdge.Io.CommandTransport
import AetherEdge.Io.Dl645Poll
import AetherEdge.Io.PointAddressing
import AetherEdge.Io.ProjectionTruth
import AetherEdge.Io.RevisionHistory
import AetherEdge.Io.RoutingPoll
import AetherEdge.Io.RuntimeConvergence
import AetherEdge.Io.TransportLoss
import AetherEdge.Outbox.Identifiers
import AetherEdge.Pack.Install
import AetherEdge.Rules.Cooldown
import AetherEdge.Rules.Operands
import AetherEdge.Rules.FlowDocument
import AetherEdge.Rules.Walk
import AetherEdge.Shm.PinnedRead
import AetherEdge.Io.Dl645Receive
import AetherEdge.Core.Dl645
import AetherEdge.Io.Iec101
