import PcapdroidFormal.Firewall.Law
import PcapdroidFormal.Firewall.Requests
import PcapdroidFormal.Firewall.Whitelisting
import PcapdroidFormal.Vpn.Egress
import PcapdroidFormal.Pcap.Trailer
import PcapdroidFormal.Dump.SecretOrder
import PcapdroidFormal.Jni.DumperTeardown
import PcapdroidFormal.Http.Download
import PcapdroidFormal.Register.QuietView
import PcapdroidFormal.Mitm.Payload
import PcapdroidFormal.Lists.AppRules
import PcapdroidFormal.Pcapd.Command
import PcapdroidFormal.Dns.Answer
import PcapdroidFormal.Dns.Message
import PcapdroidFormal.Pcap.DnsClosing
import PcapdroidFormal.Pcap.TcpTrace
import PcapdroidFormal.Pcap.Idle
import PcapdroidFormal.Pcapd.Matching
import PcapdroidFormal.Vpn.Quic
import PcapdroidFormal.Lists.IpFiles
import PcapdroidFormal.Core.LruCaches
import PcapdroidFormal.Jni.PayloadCapture
import PcapdroidFormal.Http.ChunkedBody
import PcapdroidFormal.Utils.Base32
import PcapdroidFormal.Utils.Subnet
import PcapdroidFormal.Core.DumpDelay
import PcapdroidFormal.Core.QueueArrays
import PcapdroidFormal.Lists.StatusArray
