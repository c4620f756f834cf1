import PcapdroidFormal.Core.Connections

/-!
# Packets

A model of the part of `pcapdroid.c` that inspects a packet, keeps its payload
and accounts it.  `pd_process_packet` runs on every packet of a connection,
`pd_account_stats` only on those that are let through.
-/

namespace PcapdroidFormal.Core

/-! ## Connections -/

namespace Conn

/-- A packet of the connection has been seen. -/
def seen (data : Conn) (ms : Nat) : Conn :=
  { data with lastSeen := ms, firstSeen := if data.firstSeen = 0 then ms else data.firstSeen }

/-- The nDPI flow after a packet. -/
def setFlow (data : Conn) (flow : NdpiFlow) : Conn := { data with ndpiFlow := some flow }

def setAlpn (data : Conn) (alpn : L7Proto) : Conn := { data with alpn := alpn }

/-- A chunk of payload has been kept. -/
def keepPayload (data : Conn) (isTx : Bool) : Conn :=
  { data with
    payloadChunks := true
    hasPayloadRx := data.hasPayloadRx || !isTx
    hasPayloadTx := data.hasPayloadTx || isTx }

/-- Payload has been kept or lost: `update_type |= CONN_UPDATE_PAYLOAD`. -/
def markPayload (data : Conn) (truncated : Bool) : Conn :=
  { data with
    payloadTruncated := data.payloadTruncated || truncated
    updateType := { data.updateType with payload := true } }

/-- Add a packet to the counters of its direction. -/
def countPacket (data : Conn) (pkt : ZdtunPkt) (isTx : Bool) : Conn :=
  let data := { data with payloadLength := data.payloadLength + pkt.l7.length }
  if isTx then
    { data with sentPkts := data.sentPkts + 1, sentBytes := data.sentBytes + pkt.buf.length }
  else { data with rcvdPkts := data.rcvdPkts + 1, rcvdBytes := data.rcvdBytes + pkt.buf.length }

/-- `blocked_pkts++`. -/
def countBlocked (data : Conn) : Conn := { data with blockedPkts := data.blockedPkts + 1 }

end Conn

def CaptureStats.countPacket (stats : CaptureStats) (pkt : ZdtunPkt) (isTx : Bool) :
    CaptureStats :=
  let ipv6Bytes := if pkt.tuple.ipver == 6 then pkt.buf.length else 0
  if isTx then
    { stats with
      sentPkts := stats.sentPkts + 1
      sentBytes := stats.sentBytes + pkt.buf.length
      ipv6SentBytes := stats.ipv6SentBytes + ipv6Bytes
      newStats := true }
  else
    { stats with
      rcvdPkts := stats.rcvdPkts + 1
      rcvdBytes := stats.rcvdBytes + pkt.buf.length
      ipv6RcvdBytes := stats.ipv6RcvdBytes + ipv6Bytes
      newStats := true }

namespace Pcapdroid

variable (pd : Pcapdroid)

/-- A new `pkt_context_t`. -/
def takeContext : Pcapdroid := { pd with contexts := pd.contexts + 1 }

def setCaptureStats (stats : CaptureStats) : Pcapdroid := { pd with captureStats := stats }

def setIpToHost (ipToHost : IpLru) : Pcapdroid := { pd with ipToHost := ipToHost }

/-- The dump delay for netd requests. -/
def setNetdDelay (waiting : Nat) (next : UInt64) : Pcapdroid :=
  { pd with netdResolveWaiting := waiting, nextConnectionsDump := next }

def stopPcapDump : Pcapdroid := { pd with dumper := false }

end Pcapdroid

section Packets

variable (platform : Platform)

/-! ## Deep packet inspection -/

/-- What nDPI makes of a packet, as far as it is kept in the connection. -/
def detectProtocol (detected : NdpiFlow × L7Proto) (data : Conn) : Conn :=
  if data.l7proto != detected.2 then
    ((data.setFlow detected.1).setL7proto detected.2
      (platform.isEncryptedL7 detected.2)).markInfo
  else data.setFlow detected.1

/-- `process_dns_reply`: the addresses of the answers belong to the name of the query. -/
def processDnsReply (pd : Pcapdroid) (query : Host) (pkt : ZdtunPkt) : Pcapdroid :=
  if query.contains '.' && decide (sizeofDnsPacket ≤ pkt.l7.length) then
    pd.setIpToHost ((platform.dnsAnswers pkt).foldl (fun lru ip => lru.add ip query) pd.ipToHost)
  else pd

/-- nDPI needs no more packets of the connection. -/
def detectionComplete (flow : NdpiFlow) (data : Conn) : Bool :=
  decide (maxDpiPackets ≤ data.sentPkts + data.rcvdPkts + 1) ||
    (data.l7proto != .unknown && !platform.extraDissectionPossible flow)

/-- The first request of a netd connection delays the dump of the connections. -/
def delayNetdDump (pd : Pcapdroid) (data : Conn) : Pcapdroid :=
  if data.l7proto == .dns && data.uid == uidNetd && data.sentPkts + data.rcvdPkts == 0 &&
      (decide (0 < pd.netdResolveWaiting) ||
        decide (pd.nextConnectionsDump - netdResolveDelayMs < pd.nowMs)) then
    pd.setNetdDelay (pd.netdResolveWaiting + 1)
      (if pd.netdResolveWaiting = 0 then pd.nextConnectionsDump + netdResolveDelayMs
        else pd.nextConnectionsDump)
  else pd

/-- The protocol inside TLS that the port or the host suggests. -/
def assumedAlpn (tuple : FiveTuple) (data : Conn) : L7Proto :=
  if ntohs tuple.dstPort == 443 then .http
  else if data.info.any (['i', 'm', 'a', 'p', '.'].isPrefixOf ·) then .mailImap
  else if data.info.any (['s', 'm', 't', 'p', '.'].isPrefixOf ·) then .mailSmtp
  else .unknown

/-- The end of `perform_dpi`, for a connection whose detection may be complete. -/
def completeDetection (pd : Pcapdroid) (tuple : FiveTuple) (id : ConnId) : Pcapdroid :=
  let data := pd.conn id
  if data.ndpiFlow.isNone && data.l7proto == .tls && data.alpn == .unknown &&
      assumedAlpn tuple data != .unknown then
    pdNotifyConnectionUpdate platform
      (pd.setConn id (data.setAlpn (assumedAlpn tuple data)).markInfo) tuple id
  else pd

def performDpi (pd : Pcapdroid) (pctx : PktContext) (flow : NdpiFlow) : Pcapdroid :=
  let detected := platform.processPacket flow pctx.pkt
  let data := detectProtocol platform detected (pd.conn pctx.data)
  let pd :=
    if !pctx.isTx && data.l7proto == .dns then
      processDnsReply platform pd detected.1.hostServerName pctx.pkt
    else pd
  let data :=
    if detectionComplete platform detected.1 data then
      pdGiveupDpi platform pd pctx.pkt.tuple data
    else processNdpiData pd pctx.pkt.tuple detected.1 data
  completeDetection platform (delayNetdDump (pd.setConn pctx.data data) data) pctx.tuple pctx.data

/-! ## Payload -/

/-- The payload of the packet is not for this process to keep. -/
def payloadSkipped (pd : Pcapdroid) (pkt : ZdtunPkt) (data : Conn) : Bool :=
  pd.payloadMode == .none || pkt.l7.isEmpty || (pd.tlsDecryption.enabled && data.proxied)

/-- The connection has payload of this direction. -/
def Conn.hasPayload (data : Conn) (isTx : Bool) : Bool :=
  if isTx then data.hasPayloadTx else data.hasPayloadRx

/-- The kept part of the payload, and whether that is not all of it. -/
def payloadToDump (pd : Pcapdroid) (pkt : ZdtunPkt) : Nat × Bool :=
  if pd.payloadMode == .minimal && decide (minimalPayloadMaxDirectionSize < pkt.l7.length) then
    (minimalPayloadMaxDirectionSize, true)
  else (pkt.l7.length, false)

/-- `dump_payload_chunk`: the bytes that it is given, if it takes them. -/
def dumpPayloadChunk (pctx : PktContext) (dumpSize : Nat) : Option (List UInt8) :=
  if platform.dumpPayloadChunk pctx dumpSize then some (pctx.pkt.l7.take dumpSize) else none

/-- The connection after its payload was offered to `dump_payload_chunk`, the chunk that
was taken and whether payload was lost. -/
def dumpPayload (pd : Pcapdroid) (pctx : PktContext) (data : Conn) :
    Conn × Option (List UInt8) × Bool :=
  if pd.payloadMode != .minimal || !data.hasPayload pctx.isTx then
    let toDump := payloadToDump pd pctx.pkt
    match dumpPayloadChunk platform pctx toDump.1 with
    | some chunk => (data.keepPayload pctx.isTx, some chunk, data.payloadTruncated || toDump.2)
    | none => (data, none, true)
  else (data, none, true)

/-- `process_payload`, with the chunk that it delivers. -/
def processPayload (pd : Pcapdroid) (pctx : PktContext) :
    Pcapdroid × Option (List UInt8) :=
  let old := pd.conn pctx.data
  if payloadSkipped pd pctx.pkt old then (pd, none)
  else
    let (data, chunk, truncated) := dumpPayload platform pd pctx old
    if (chunk.isSome && data.payloadChunks) || truncated != old.payloadTruncated then
      (pdNotifyConnectionUpdate platform (pd.setConn pctx.data (data.markPayload truncated))
        pctx.tuple pctx.data, chunk)
    else (pd.setConn pctx.data data, chunk)

/-! ## Processing and accounting -/

/-- nDPI handles no fragments but the first. -/
def inspectable (pkt : ZdtunPkt) : Bool := !pkt.isFragment || pkt.isFirstFragment

def inspectPacket (pd : Pcapdroid) (pctx : PktContext) : Pcapdroid :=
  match (pd.conn pctx.data).ndpiFlow with
  | none => pd
  | some flow => if inspectable pctx.pkt then performDpi platform pd pctx flow else pd

def pdProcessPacket (pd : Pcapdroid) (pkt : ZdtunPkt) (isTx : Bool) (tuple : FiveTuple)
    (id : ConnId) (ms : Nat) : Pcapdroid × PktContext :=
  let pctx : PktContext := ⟨pd.contexts, pkt, ms, isTx, tuple, id⟩
  let pd := pd.takeContext.setConn id ((pd.conn id).seen ms)
  ((processPayload platform (inspectPacket platform pd pctx) pctx).1, pctx)

def pdDumpPacket (pd : Pcapdroid) (pctx : PktContext) : Pcapdroid :=
  if platform.pcapDumpPacket pctx then pd.emit (.dump pctx) else (pd.emit (.dump pctx)).stopPcapDump

/-- The packet is one of those of its connection that are dumped. -/
def toDump (pd : Pcapdroid) (data : Conn) : Bool :=
  pd.dumper && (decide (pd.maxPktsPerFlow ≤ 0) ||
    decide ((data.sentPkts + data.rcvdPkts : Int) ≤ pd.maxPktsPerFlow))

def pdAccountStats (pd : Pcapdroid) (pctx : PktContext) : Pcapdroid :=
  let pd := pd.emit (.account pctx)
  let pd := pd.setCaptureStats (pd.captureStats.countPacket pctx.pkt pctx.isTx)
  let pd := pdNotifyConnectionUpdate platform
    (pd.setConn pctx.data ((pd.conn pctx.data).countPacket pctx.pkt pctx.isTx).markStats)
    pctx.tuple pctx.data
  if toDump pd (pd.conn pctx.data) then pdDumpPacket platform pd pctx else pd

end Packets

end PcapdroidFormal.Core
