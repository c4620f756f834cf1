import PcapdroidFormal.Core.Packets
import PcapdroidFormal.Core.Queues
import PcapdroidFormal.Dump.Dumper
import PcapdroidFormal.Vpn.PacketLoop

/-!
# The packet loop of the root and PCAP-file captures

A model of `capture_libpcap.c` with the end of `pd_run`.  The connections of
the state are the hash table `pcap.connections`; packets come from pcapd and
`zdtun_parse_pkt` is arbitrary.  Dereferencing a connection that has been freed
and freeing it again are errors, which end the capture.
-/

namespace PcapdroidFormal.Pcap

open PcapdroidFormal.Core Foundation
open Vpn (Control applyControl pdRefreshTime dnsFlags dnsFlagsMask countFragment)

def icmpTimeoutSec : UInt64 := 5
def udpTimeoutSec : UInt64 := 30
def tcpClosedTimeoutSec : UInt64 := 60
def tcpTimeoutSec : UInt64 := 300

def thFin : UInt8 := 0x01
def thSyn : UInt8 := 0x02
def thRst : UInt8 := 0x04
def thAck : UInt8 := 0x10

/-! ## Memory -/

/-- What must not happen to a `pd_conn_t`. -/
inductive MemoryError where
  | useAfterFree (data : ConnId)
  | doubleFree (data : ConnId)
  deriving DecidableEq, Repr

/-- A connection is dereferenced. -/
def deref (pd : Pcapdroid) (id : ConnId) : Except MemoryError Unit :=
  if id ∈ freedConns pd then .error (.useAfterFree id) else .ok ()

/-- Every connection of an array or of the hash table is dereferenced. -/
def derefAll (pd : Pcapdroid) : List ConnAndTuple → Except MemoryError Unit
  | [] => .ok ()
  | slot :: slots => do
      deref pd slot.data
      derefAll pd slots

def pdPurgeConnection (pd : Pcapdroid) (id : ConnId) : Except MemoryError Pcapdroid :=
  if id ∈ freedConns pd then .error (.doubleFree id) else .ok (pd.emit (.free id))

def clearConns (freeAll : Bool) (pd : Pcapdroid) : List ConnAndTuple → Except MemoryError Pcapdroid
  | [] => .ok pd
  | slot :: slots => do
      deref pd slot.data
      let pd ←
        if (pd.conn slot.data).toPurge || freeAll then pdPurgeConnection pd slot.data
        else pure pd
      clearConns freeAll pd slots

/-- `conns_clear` on both queues. -/
def clearQueues (freeAll : Bool) (pd : Pcapdroid) : Except MemoryError Pcapdroid := do
  let pd ← clearConns freeAll pd pd.newConns
  let pd ← clearConns freeAll pd.dropNewConns pd.connsUpdates
  return pd.dropUpdates

/-! ## The capture -/

/-- The fields of `pd_conn_t` that only this capture uses; `last_ack` and
`pending_dns_queries` share a byte. -/
structure PcapData where
  lastUpdateMs : UInt64
  cliFlags : UInt8
  srvFlags : UInt8
  ackOrQueries : UInt8
  deriving DecidableEq, Repr

def PcapData.zeroed : PcapData := ⟨0, 0, 0, 0⟩

/-- The link types of pcapd. -/
inductive LinkType where
  | raw
  | ethernet
  | linuxSll
  | linuxSll2
  | other (linktype : UInt16)
  deriving DecidableEq, Repr

def getIpOffset : LinkType → Option Nat
  | .raw => some 0
  | .ethernet => some 14
  | .linuxSll => some 16
  | .linuxSll2 => some 20
  | .other _ => none

/-- `pcapd_hdr_t`; `len` is the length of the buffer. -/
structure PcapdHdr where
  ms : Nat
  uid : BitVec 32
  linktype : LinkType
  isTx : Bool
  deriving DecidableEq, Repr

/-- A packet as `zdtun_parse_pkt` parses it, with the flags of its TCP header. -/
structure ParsedPkt where
  pkt : ZdtunPkt
  thFlags : UInt8
  deriving DecidableEq, Repr

/-- The counters of `zdtun_statistics_t` that the capture updates. -/
structure ConnStats where
  numIcmpConn : UInt16
  numTcpConn : UInt16
  numUdpConn : UInt16
  numIcmpOpened : UInt32
  numTcpOpened : UInt32
  numUdpOpened : UInt32
  deriving DecidableEq, Repr

namespace ConnStats

def zeroed : ConnStats := ⟨0, 0, 0, 0, 0, 0⟩

variable (stats : ConnStats) (ipproto : UInt8)

/-- The counters after `HASH_ADD` in `handle_packet`. -/
def countOpened : ConnStats :=
  if ipproto == ipprotoTcp then
    { stats with numTcpConn := stats.numTcpConn + 1, numTcpOpened := stats.numTcpOpened + 1 }
  else if ipproto == ipprotoUdp then
    { stats with numUdpConn := stats.numUdpConn + 1, numUdpOpened := stats.numUdpOpened + 1 }
  else if ipproto == ipprotoIcmp then
    { stats with numIcmpConn := stats.numIcmpConn + 1, numIcmpOpened := stats.numIcmpOpened + 1 }
  else stats

/-- The counters after `remove_connection`. -/
def countRemoved : ConnStats :=
  if ipproto == ipprotoTcp then { stats with numTcpConn := stats.numTcpConn - 1 }
  else if ipproto == ipprotoUdp then { stats with numUdpConn := stats.numUdpConn - 1 }
  else if ipproto == ipprotoIcmp then { stats with numIcmpConn := stats.numIcmpConn - 1 }
  else stats

end ConnStats

/-- The state of the capture, with `pd->stats` and a log of the connections opened so far. -/
structure Libpcap where
  pd : Pcapdroid
  data : ConnId → PcapData
  pcapFileCapture : Bool
  hasSeenPcapdroidTrailer : Bool
  stats : ConnStats
  opened : List FiveTuple

namespace Libpcap

variable (capture : Libpcap)

def setPd (pd : Pcapdroid) : Libpcap := { capture with pd := pd }

def setData (id : ConnId) (data : PcapData) : Libpcap :=
  { capture with data := fun other => if other = id then data else capture.data other }

def setStatus (id : ConnId) (status : ConnStatus) : Libpcap :=
  capture.setPd (capture.pd.setConn id { capture.pd.conn id with status := status })

/-- A new connection is counted. -/
def countOpened (tuple : FiveTuple) : Libpcap :=
  { capture with
    stats := capture.stats.countOpened tuple.ipproto
    opened := capture.opened ++ [tuple] }

def removeConnection (slot : ConnAndTuple) : Libpcap :=
  { capture with
    pd := capture.pd.deactivate slot.data
    stats := capture.stats.countRemoved slot.tuple.ipproto }

@[simp] theorem setPd_pd (pd : Pcapdroid) : (capture.setPd pd).pd = pd := rfl

@[simp] theorem setData_pd (id : ConnId) (data : PcapData) :
    (capture.setData id data).pd = capture.pd := rfl

end Libpcap

def tupleSwapPeers (tuple : FiveTuple) : FiveTuple :=
  { tuple with
    srcIp := tuple.dstIp
    dstIp := tuple.srcIp
    srcPort := tuple.dstPort
    dstPort := tuple.srcPort }

/-! ## The state of a connection -/

namespace PcapData

variable (data : PcapData)

/-- `tcp_flags[dir] |= th_flags`. -/
def seeFlags (isTx : Bool) (flags : UInt8) : PcapData :=
  if isTx then { data with cliFlags := data.cliFlags ||| flags }
  else { data with srvFlags := data.srvFlags ||| flags }

def seenFlags : UInt8 := data.cliFlags &&& data.srvFlags

/-- The status of a TCP connection after a packet. -/
def tcpStatus (status : ConnStatus) (pkt : ParsedPkt) : ConnStatus × PcapData :=
  if pkt.thFlags &&& thRst != 0 then (.reset, data)
  else if data.seenFlags &&& thFin != 0 then
    if data.ackOrQueries = 0 then (status, { data with ackOrQueries := 1 })
    else if pkt.thFlags &&& thAck != 0 then (.closed, data)
    else (status, data)
  else if status = .new ∨ status = .connecting then
    if !pkt.pkt.l7.isEmpty || data.seenFlags &&& (thSyn ||| thAck) == thSyn ||| thAck then
      (.connected, data)
    else (.connecting, data)
  else (status, data)

/-- A DNS request is counted, a response answers a request.  The result says whether
all the responses have arrived. -/
def countDnsQuery (pkt : ZdtunPkt) : PcapData × Bool :=
  if dnsFlags pkt.l7 &&& dnsFlagsMask = 0 then
    ({ data with ackOrQueries := data.ackOrQueries + 1 }, false)
  else
    ({ data with ackOrQueries := data.ackOrQueries - 1 }, data.ackOrQueries - 1 == 0)

end PcapData

def isDnsPacket (tuple : FiveTuple) (pkt : ZdtunPkt) : Bool :=
  tuple.ipproto == ipprotoUdp && decide (sizeofDnsPacket ≤ pkt.l7.length) &&
    tuple.dstPort == ntohs 53

/-- `update_connection_status`; a DNS connection is removed from the hash table as soon
as all its responses have arrived. -/
def updateConnectionStatus (capture : Libpcap) (slot : ConnAndTuple) (pkt : ParsedPkt)
    (isTx : Bool) : Libpcap :=
  let status := (capture.pd.conn slot.data).status
  let data := capture.data slot.data
  if status.isClosed || pkt.pkt.isFragment then capture
  else if slot.tuple.ipproto == ipprotoTcp then
    let (status, data) := (data.seeFlags isTx pkt.thFlags).tcpStatus status pkt
    (capture.setData slot.data data).setStatus slot.data status
  else
    let capture := capture.setStatus slot.data .connected
    if isDnsPacket slot.tuple pkt.pkt then
      let (data, answered) := data.countDnsQuery pkt.pkt
      let capture := capture.setData slot.data data
      if answered then
        let data := (capture.pd.conn slot.data).close .closed
        (capture.setPd (capture.pd.setConn slot.data data)).removeConnection slot
      else capture
    else capture

/-- A packet of the connection, with its direction. -/
def seePacket (slot : ConnAndTuple) (capture : Libpcap) (packet : ParsedPkt × Bool) : Libpcap :=
  updateConnectionStatus capture slot packet.1 packet.2

/-! ## Packets -/

/-- `ntohl` of four bytes of a packet. -/
def ntohl (bytes : Bytes) : Nat := Bytes.ofLittleEndian bytes.reverse

/-- The uid in the PCAPdroid trailer at the end of a frame; `non_ip_overhead` is
compared as an unsigned number. -/
def trailerUid (buffer : Bytes) (pkt : ZdtunPkt) : Option (BitVec 32) :=
  let nonIpOverhead := BitVec.ofInt 64 ((buffer.length : Int) - pkt.buf.length)
  let trailer := buffer.drop (buffer.length - Dump.sizeofPcapdroidTrailer)
  if Dump.sizeofPcapdroidTrailer ≤ nonIpOverhead.toNat &&
      ntohl (trailer.take 4) == Dump.pcapdroidTrailerMagic then
    some (BitVec.ofNat 32 (ntohl ((trailer.drop 4).take 4)))
  else none

def uidUnknown32 : BitVec 32 := BitVec.ofInt 32 uidUnknown

/-- The part of `handle_packet` that looks for the trailer. -/
def readTrailer (capture : Libpcap) (hdr : PcapdHdr) (buffer : Bytes) (pkt : ZdtunPkt) :
    Libpcap × PcapdHdr :=
  if capture.pcapFileCapture && hdr.uid == uidUnknown32 then
    match trailerUid buffer pkt with
    | some uid => ({ capture with hasSeenPcapdroidTrailer := true }, { hdr with uid := uid })
    | none => (capture, hdr)
  else (capture, hdr)

/-- `HASH_FIND` on `pcap.connections`. -/
def findConn (pd : Pcapdroid) (tuple : FiveTuple) : Option ConnAndTuple :=
  pd.connections.find? fun slot => slot.tuple == tuple

section Callbacks

variable (platform : Platform)

/-- The part of `handle_packet` that opens a connection.  `pd_new_connection` may look at
every connection that is queued as a new one. -/
def openConnection (capture : Libpcap) (tuple : FiveTuple) (uid : BitVec 32) :
    Except MemoryError (Libpcap × ConnAndTuple) := do
  derefAll capture.pd capture.pd.newConns
  let (pd, id) := pdNewConnection platform capture.pd tuple uid.toInt
  let pd := pd.activate ⟨tuple, id⟩
  let proxied := pd.tlsDecryption.enabled && tuple.ipproto == ipprotoTcp
  let pd := pd.setConn id { pd.conn id with proxied := proxied }
  return (((capture.setPd pd).setData id .zeroed).countOpened tuple, ⟨tuple, id⟩)

/-- The end of `handle_packet`, for the connection of the packet. -/
def processPacket (capture : Libpcap) (ms : Nat) (pkt : ParsedPkt) (isTx : Bool)
    (slot : ConnAndTuple) : Except MemoryError Libpcap := do
  deref capture.pd slot.data
  let capture := capture.setData slot.data
    { capture.data slot.data with lastUpdateMs := capture.pd.nowMs }
  let (pd, pinfo) := pdProcessPacket platform capture.pd pkt.pkt isTx slot.tuple slot.data ms
  deref pd slot.data
  let capture := updateConnectionStatus (capture.setPd pd) slot pkt isTx
  deref capture.pd pinfo.data
  return capture.setPd (pdAccountStats platform capture.pd pinfo)

/-- A fragment that cannot be mapped to its ports. -/
def unmatchedFragment (pkt : ZdtunPkt) : Bool :=
  pkt.isFragment && pkt.tuple.srcPort == 0 && pkt.tuple.dstPort == 0

/-- The packet with the tuple of its connection. -/
def ParsedPkt.orient (pkt : ParsedPkt) (tuple : FiveTuple) : ParsedPkt :=
  { pkt with pkt := { pkt.pkt with tuple := tuple } }

/-- The part of `handle_packet` that looks for the connection of the packet.  The
direction of the packet may be wrong. -/
def dispatchPacket (capture : Libpcap) (hdr : PcapdHdr) (pkt : ParsedPkt) :
    Except MemoryError (Libpcap × Bool) := do
  let tuple := if hdr.isTx then pkt.pkt.tuple else tupleSwapPeers pkt.pkt.tuple
  match findConn capture.pd tuple, findConn capture.pd (tupleSwapPeers tuple) with
  | some slot, _ =>
    let capture ← processPacket platform capture hdr.ms (pkt.orient tuple) hdr.isTx slot
    return (capture, true)
  | none, some slot =>
    let capture ← processPacket platform capture hdr.ms (pkt.orient (tupleSwapPeers tuple))
      (!hdr.isTx) slot
    return (capture, true)
  | none, none =>
    if pkt.pkt.isFragment && !pkt.pkt.isFirstFragment then
      return (capture.setPd (countFragment capture.pd), false)
    else
      let (capture, slot) ← openConnection platform capture tuple hdr.uid
      let capture ← processPacket platform capture hdr.ms (pkt.orient tuple) hdr.isTx slot
      return (capture, true)

/-- `handle_packet`; the result says whether the packet is valid. -/
def handlePacket (parse : Bytes → Option ParsedPkt) (capture : Libpcap) (hdr : PcapdHdr)
    (buffer : Bytes) (ipoffset : Nat) : Except MemoryError (Libpcap × PcapdHdr × Bool) := do
  match parse (buffer.drop ipoffset) with
  | none => return (capture, hdr, false)
  | some pkt =>
    let (capture, hdr) := readTrailer capture hdr buffer pkt.pkt
    if unmatchedFragment pkt.pkt then
      return (capture.setPd (countFragment capture.pd), hdr, false)
    else
      let (capture, valid) ← dispatchPacket platform capture hdr pkt
      return (capture, hdr, valid)

/-! ## Expired connections -/

/-- The timeout of a connection in milliseconds. -/
def connTimeout (tuple : FiveTuple) (status : ConnStatus) : UInt64 :=
  if tuple.ipproto == ipprotoTcp then
    if status.isClosed then tcpClosedTimeoutSec * 1000 else tcpTimeoutSec * 1000
  else if tuple.ipproto == ipprotoUdp then udpTimeoutSec * 1000
  else if tuple.ipproto == ipprotoIcmp then icmpTimeoutSec + 1000
  else 0

/-- An expired connection is closed. -/
def expireConn (data : Conn) : Conn :=
  let data := { data with toPurge := true }
  if data.status.isClosed then data else (data.close .closed).markStats

theorem expireConn_toPurge (data : Conn) : (expireConn data).toPurge = true := by
  simp only [expireConn]
  split <;> rfl

theorem expireConn_pending (data : Conn) :
    (expireConn data).pendingNotification = data.pendingNotification := by
  simp only [expireConn]
  split <;> rfl

/-- `purge_expired_connections` takes the connection out of the table. -/
def isExpired (purgeAll : Bool) (capture : Libpcap) (slot : ConnAndTuple) : Bool :=
  purgeAll || decide ((capture.data slot.data).lastUpdateMs +
    connTimeout slot.tuple (capture.pd.conn slot.data).status ≤ capture.pd.nowMs)

/-- One iteration of `purge_expired_connections`. -/
def purgeConn (purgeAll : Bool) (capture : Libpcap) (slot : ConnAndTuple) :
    Except MemoryError Libpcap := do
  let id := slot.data
  deref capture.pd id
  if isExpired purgeAll capture slot then
    let pd := capture.pd.setConn id (expireConn (capture.pd.conn id))
    let pd ←
      if (pd.conn id).updateType = .none then pdPurgeConnection pd id
      else pure (pdNotifyConnectionUpdate platform pd slot.tuple id)
    return (capture.setPd pd).removeConnection slot
  else return capture

def purgeExpiredConnections (purgeAll : Bool) (capture : Libpcap) : Except MemoryError Libpcap :=
  capture.pd.connections.foldlM (purgeConn platform purgeAll) capture

/-! ## The packet loop -/

/-- `pd_housekeeping` runs `send_connections_dump`. -/
def dumpsConnections (pd : Pcapdroid) : Bool :=
  !(pd.dumpCaptureStatsNow || (pd.captureStats.newStats &&
      decide (captureStatsUpdateFrequencyMs ≤ pd.nowMs - pd.captureStats.lastUpdateMs))) &&
    decide (pd.nextConnectionsDump ≤ pd.nowMs) &&
    !(pd.newConns.isEmpty && pd.connsUpdates.isEmpty)

/-- `send_connections_dump`, which dereferences the queued connections. -/
def dumpConnections (pd : Pcapdroid) : Except MemoryError Pcapdroid := do
  derefAll pd (pd.newConns ++ pd.connsUpdates)
  return sendConnectionsDump pd

/-- `pd_housekeeping`.  The queued connections are dumped and cleared; new lists are
applied to every connection of the hash table. -/
def housekeeping (exported : Bool) (pd : Pcapdroid) : Except MemoryError Pcapdroid := do
  if dumpsConnections pd then
    -- the result is the one inside `periodicTask`, if no error occurs
    let dumped ← dumpConnections pd
    discard (clearQueues false dumped)
  let reported := periodicTask exported pd
  if reported.malwareDetection.newWl.isSome || reported.firewall.newBl.isSome ||
      reported.firewall.newWl.isSome then
    derefAll reported reported.connections
  return pdHousekeeping platform exported pd

/-- What happens in `run_libpcap`.  A packet comes with its parser and whether
`pcap_dump_packet` succeeds, should the packet be rejected; other threads make
requests at any time. -/
inductive PcapEvent where
  | packet (hdr : PcapdHdr) (buffer : Bytes) (parse : Bytes → Option ParsedPkt) (dumped : Bool)
  | refreshTime (now : UInt64)
  | housekeeping (exported : Bool)
  | purgeExpired
  | control (request : Control)

def capturePacket (capture : Libpcap) (hdr : PcapdHdr) (buffer : Bytes)
    (parse : Bytes → Option ParsedPkt) (dumped : Bool) : Except MemoryError Libpcap :=
  match getIpOffset hdr.linktype with
  | none => .ok capture
  | some ipoffset =>
    if buffer.length < ipoffset then .ok capture
    else do
      let (capture, _, valid) ← handlePacket platform parse capture hdr buffer ipoffset
      if valid || dumped then return capture
      else return capture.setPd capture.pd.stopPcapDump

def pcapStep (capture : Libpcap) : PcapEvent → Except MemoryError Libpcap
  | .packet hdr buffer parse dumped => capturePacket platform capture hdr buffer parse dumped
  | .refreshTime now => .ok (capture.setPd (pdRefreshTime capture.pd now))
  | .housekeeping exported => do
      let pd ← housekeeping platform exported capture.pd
      return capture.setPd pd
  | .purgeExpired => purgeExpiredConnections platform false capture
  | .control request => .ok (capture.setPd (applyControl capture.pd request))

/-- The capture after a sequence of events. -/
def runPcap (capture : Libpcap) (events : List PcapEvent) : Except MemoryError Libpcap :=
  events.foldlM (pcapStep platform) capture

end Callbacks

/-- The end of `pd_run`: the last dump, after which both queues are freed. -/
def lastDump (pd : Pcapdroid) : Except MemoryError Pcapdroid := do
  let pd ← dumpConnections pd
  clearQueues true pd

/-- The start of a capture with any configuration. -/
def startCapture (pd : Pcapdroid) (pcapFileCapture : Bool) : Libpcap where
  pd := { pd with
    newConnId := 0
    connections := []
    newConns := []
    connsUpdates := []
    vpnCapture := false
    effects := [] }
  data _ := .zeroed
  pcapFileCapture := pcapFileCapture
  hasSeenPcapdroidTrailer := false
  stats := .zeroed
  opened := []

end PcapdroidFormal.Pcap
