import Smp3Multipath.Client.DatagramPump
import Smp3Multipath.Client.DatagramRepair
import Smp3Multipath.Client.DatagramRoutes
import Smp3Multipath.Client.LegRepair
import Smp3Multipath.Client.Shutdown
import Smp3Multipath.Client.SocksDatagram
import Smp3Multipath.Client.StreamRelay
import Smp3Multipath.Core.AdmittedRecords
import Smp3Multipath.Core.AssignmentAccounting
import Smp3Multipath.Core.CarrierRegistry
import Smp3Multipath.Core.CloseFrame
import Smp3Multipath.Core.CloseFrontier
import Smp3Multipath.Core.CommitAckOrder
import Smp3Multipath.Core.DatagramDedup
import Smp3Multipath.Core.DatagramFraming
import Smp3Multipath.Core.DatagramShutdown
import Smp3Multipath.Core.FrontierRescue
import Smp3Multipath.Core.GracefulClose
import Smp3Multipath.Core.LedgerCredit
import Smp3Multipath.Core.LegRegistry
import Smp3Multipath.Core.PathControl
import Smp3Multipath.Core.PendingOwnership
import Smp3Multipath.Core.ReceiveWindow
import Smp3Multipath.Core.RefusedIntent
import Smp3Multipath.Core.StartupGate
import Smp3Multipath.Core.WakeSlots
import Smp3Multipath.Front.Relay
import Smp3Multipath.Mihomo.LegIndexes
import Smp3Multipath.Mihomo.PreferredStartup
import Smp3Multipath.Mihomo.UdpSession
import Smp3Multipath.Native.BootstrapCarriers
import Smp3Multipath.Native.CarrierMatch
import Smp3Multipath.Native.CarrierVerdict
import Smp3Multipath.Native.ProbationOwner
import Smp3Multipath.Server.CreatorFailure
import Smp3Multipath.Server.SessionAdmission
import Smp3Multipath.Server.TelemetryEvents
import Smp3Multipath.Server.TelemetryRecords
import Smp3Multipath.Server.TrafficAccounting
