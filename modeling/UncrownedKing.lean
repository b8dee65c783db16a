import UncrownedKing.Client.DatagramLaws
import UncrownedKing.Client.DegradedEndpointsLaws
import UncrownedKing.Client.FlowIdLaws
import UncrownedKing.Client.HandshakeLaws
import UncrownedKing.Client.KeepaliveLaws
import UncrownedKing.Client.ManagerLaws
import UncrownedKing.Client.Socks5Negotiation
import UncrownedKing.Client.TcpFlushLaws
import UncrownedKing.Client.TcpUploadLaws
import UncrownedKing.Client.UdpAssociationLaws
import UncrownedKing.Client.UdpRelayLaws
import UncrownedKing.Mask.PreludeLaws
import UncrownedKing.Mask.StreamLaws
import UncrownedKing.Mask.UdpSlotLaws
import UncrownedKing.Policy.AddressLaws
import UncrownedKing.Policy.DomainLaws
import UncrownedKing.Policy.LoadLaws
import UncrownedKing.Proto.Datagram
import UncrownedKing.Proto.FrameIoLaws
import UncrownedKing.Relay.CapacityLaws
import UncrownedKing.Relay.SilenceLaws
import UncrownedKing.Relay.UdpIdleLaws
import UncrownedKing.Server.AlertWrites
import UncrownedKing.Server.Deadline
import UncrownedKing.Server.DialMachineLaws
import UncrownedKing.Server.DialerLaws
import UncrownedKing.Server.QuicLaws
import UncrownedKing.Server.RateLimitRunLaws
import UncrownedKing.Server.ReplaceLaws
