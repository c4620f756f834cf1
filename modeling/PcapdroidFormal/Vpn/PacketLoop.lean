import PcapdroidFormal.Core.Packets

/-!
# The packet loop of the VPN mode

A model of `capture_vpn.c`.  zdtun is an arbitrary environment: what it does
inside each of its functions is part of the input of the loop, except that it
calls `send_client` for open connections only, and that the status it reports
for a connection is that of an open one exactly while the connection is open.
Requests of other threads take effect between two callbacks of zdtun or between
two iterations.
-/

namespace PcapdroidFormal.Vpn

open PcapdroidFormal.Core Foundation

def periodicPurgeTimeoutMs : UInt64 := 5000
def dnsFlagsMask : Nat := 0x8000

/-! ## Requests of other threads -/

/-- The functions of `jni_impl.c` that other threads call during a capture. -/
inductive Control where
  | stopPacketLoop
  | askStatsDump
  | setDnsServer (server : BitVec 32)
  | setPrivateDnsBlocked (toBlock : Bool)
  | setFirewallEnabled (enabled : Bool)
  | reloadBlacklists
  | blacklistsLoaded (bl : Blacklist)
  | reloadBlocklist (list : Blacklist)
  | requestFirewallWhitelist (list : Option Blacklist)
  | enableWhitelistMode
  | reloadMalwareWhitelist (list : Blacklist)
  | reloadDecryptionList (list : Blacklist)

/-- `running = false`. -/
def stopRunning (pd : Pcapdroid) : Pcapdroid := { pd with running := false }

def applyControl (pd : Pcapdroid) : Control → Pcapdroid
  | .stopPacketLoop => stopRunning pd
  | .askStatsDump =>
    if pd.running then { pd with dumpCaptureStatsNow := true } else pd
  | .setDnsServer server => { pd with newDnsServer := server }
  | .setPrivateDnsBlocked toBlock => { pd with blockPrivateDns := toBlock }
  | .setFirewallEnabled enabled => nativeSetFirewallEnabled pd enabled
  | .reloadBlacklists => { pd with reloadBlacklistsNow := true }
  | .blacklistsLoaded bl =>
    pd.setMalwareDetection { pd.malwareDetection with newBl := some bl, reloadDone := true }
  | .reloadBlocklist list => (reloadBlocklist pd list).1
  | .requestFirewallWhitelist list => (requestFirewallWhitelist pd list).1
  | .enableWhitelistMode => enableWhitelistMode pd
  | .reloadMalwareWhitelist list => (reloadMalwareWhitelist pd list).1
  | .reloadDecryptionList list => (reloadDecryptionList pd list).1

/-- A request changes flags and lists only. -/
theorem applyControl_eq (pd : Pcapdroid) (control : Control) :
    ∃ running stats server blocked reload detection firewall decryption,
      applyControl pd control = { pd with
        running := running, dumpCaptureStatsNow := stats, newDnsServer := server,
        blockPrivateDns := blocked, reloadBlacklistsNow := reload, malwareDetection := detection,
        firewall := firewall, tlsDecryption := decryption } ∧
      (control ≠ .stopPacketLoop → running = pd.running) := by
  unfold applyControl reloadBlocklist requestFirewallWhitelist reloadMalwareWhitelist
    reloadDecryptionList
  split
  · exact ⟨_, _, _, _, _, _, _, _, rfl, fun other => absurd rfl other⟩
  all_goals repeat' split
  all_goals exact ⟨_, _, _, _, _, _, _, _, rfl, fun _ => rfl⟩

/-! ## Packets from zdtun -/

/-- The outcome of writing a packet to `tunfd`. -/
inductive WriteResult where
  | complete
  | partially
  | noBuffers
  | failed
  deriving DecidableEq, Repr

/-- A packet that zdtun hands to `send_client`, with the clocks read for it and the
outcome of its write. -/
structure Delivery where
  pkt : ZdtunPkt
  now : UInt64
  ms : Nat
  written : WriteResult

def pdRefreshTime (pd : Pcapdroid) (now : UInt64) : Pcapdroid := { pd with nowMs := now }

def setFwPctx (pd : Pcapdroid) (id : ConnId) (fwPctx : Option PktContext) : Pcapdroid :=
  pd.setConn id { pd.conn id with fwPctx := fwPctx }

section Callbacks

variable (platform : Platform)

/-- An egress packet that is not accounted yet is accounted now. -/
def accountForwarded (pd : Pcapdroid) (id : ConnId) : Pcapdroid :=
  match (pd.conn id).fwPctx with
  | none => pd
  | some pctx => setFwPctx (pdAccountStats platform pd pctx) id none

/-- A packet is dropped because its connection is blocked. -/
def blockPacket (pd : Pcapdroid) (pctx : PktContext) : Pcapdroid :=
  let pd := pd.emit (.blocked pctx)
  pdNotifyConnectionUpdate platform
    (pd.setConn pctx.data (pd.conn pctx.data).countBlocked.markStats) pctx.tuple pctx.data

/-- The verdict on a packet. -/
def notePacket (pd : Pcapdroid) (pctx : PktContext) : Pcapdroid :=
  pd.emit (.verdict pctx (pd.conn pctx.data).toBlock)

/-- The end of `remote2vpn`: the packet is written. -/
def writePacket (pd : Pcapdroid) (pctx : PktContext) : WriteResult → Pcapdroid × Int
  | .complete => (pdAccountStats platform (pd.emit (.write pctx)) pctx, 0)
  | .partially | .noBuffers => (pd.emit (.write pctx), -1)
  | .failed => (stopRunning (pd.emit (.write pctx)), -1)

/-- A delivered packet is processed. -/
def processDelivery (pd : Pcapdroid) (tuple : FiveTuple) (id : ConnId) (delivery : Delivery) :
    Pcapdroid × PktContext :=
  pdProcessPacket platform (pdRefreshTime pd delivery.now) delivery.pkt false tuple id delivery.ms

/-- What `remote2vpn` does with the delivered packet itself. -/
def handleDelivery (pd : Pcapdroid) (tuple : FiveTuple) (id : ConnId) (delivery : Delivery) :
    Pcapdroid × Int :=
  let (pd, pctx) := processDelivery platform pd tuple id delivery
  let pd := notePacket pd pctx
  if (pd.conn id).toBlock then (blockPacket platform pd pctx, -1)
  else writePacket platform pd pctx delivery.written

def remote2vpn (pd : Pcapdroid) (tuple : FiveTuple) (id : ConnId) (delivery : Delivery) :
    Pcapdroid × Int :=
  if pd.running then handleDelivery platform (accountForwarded platform pd id) tuple id delivery
  else (pd, 0)

def updateConnStatus (pd : Pcapdroid) (id : ConnId) (status : ConnStatus) : Pcapdroid :=
  let data := pd.conn id
  pd.setConn id { data with status := status, toPurge := data.toPurge || status.isClosed }

/-! ## The environment -/

/-- What zdtun does while it handles a connection.  `sendOther` is a packet of another
connection, `failed` the connection given up without a callback. -/
inductive ConnAction where
  | sendClient (delivery : Delivery)
  | sendOther (other : ConnAndTuple) (delivery : Delivery)
  | accountPacket (status : ConnStatus)
  | onConnectionClose (status : ConnStatus)
  | failed
  | control (control : Control)

/-- One action of zdtun. -/
def connAction (slot : ConnAndTuple) (pd : Pcapdroid) : ConnAction → Pcapdroid
  | .sendClient delivery =>
    if slot ∈ pd.connections then (remote2vpn platform pd slot.tuple slot.data delivery).1
    else pd
  | .sendOther other delivery =>
    if other ∈ pd.connections then (remote2vpn platform pd other.tuple other.data delivery).1
    else pd
  | .accountPacket status =>
    if status.isClosed = decide (slot ∉ pd.connections) then updateConnStatus pd slot.data status
    else pd
  | .onConnectionClose status =>
    if status.isClosed then
      (connectionClosed platform pd slot.tuple slot.data status).deactivate slot.data
    else pd
  | .failed => pd.deactivate slot.data
  | .control control => applyControl pd control

def connActions (slot : ConnAndTuple) (pd : Pcapdroid) (actions : List ConnAction) : Pcapdroid :=
  actions.foldl (connAction platform slot) pd

/-- What zdtun does to its open connections in `zdtun_handle_fd`, `zdtun_purge_expired`
and `zdtun_finalize`. -/
abbrev Handling := List (ConnAndTuple × List ConnAction)

def handleConn (pd : Pcapdroid) (handled : ConnAndTuple × List ConnAction) : Pcapdroid :=
  if handled.1 ∈ pd.connections then connActions platform handled.1 pd handled.2 else pd

def handleConns (pd : Pcapdroid) (handling : Handling) : Pcapdroid :=
  handling.foldl (handleConn platform) pd

def zdtunConnClose (pd : Pcapdroid) (slot : ConnAndTuple) (status : ConnStatus)
    (actions : List ConnAction) : Pcapdroid :=
  if slot ∈ pd.connections then
    let pd := connActions platform slot pd actions
    (connectionClosed platform pd slot.tuple slot.data status).deactivate slot.data
  else pd

/-- Some connection has a `fw_pctx`. -/
def anyFwPctx (pd : Pcapdroid) : Bool :=
  (List.range pd.newConnId).any fun id => (pd.conn id).fwPctx.isSome

def noteCall (pd : Pcapdroid) (call : ZdtunCall) : Pcapdroid :=
  pd.emit (.zdtunCall call (anyFwPctx pd))

/-! ## Packets from the TUN device -/

/-- The ports of the mapping rules, in network byte order. -/
structure PortMap where
  tcp : List UInt16
  udp : List UInt16

def pdCheckPortMap (mappings : PortMap) (tuple : FiveTuple) : Bool :=
  if tuple.ipproto == ipprotoTcp then mappings.tcp.contains tuple.dstPort
  else if tuple.ipproto == ipprotoUdp then mappings.udp.contains tuple.dstPort
  else false

/-- `should_proxify`; a connection that the decryption list does not match is marked. -/
def shouldProxify (pd : Pcapdroid) (tuple : FiveTuple) (data : Conn) : Conn × Bool :=
  if pd.socks5Enabled then
    if pd.tlsDecryption.list.isSome && !matchesDecryptionWhitelist pd tuple data then
      ({ data with decryptionIgnored := true }, false)
    else (data, tuple.ipproto == ipprotoTcp)
  else (data, false)

/-- What is decided before the first packet of a connection. -/
def prepareConnection (mappings : PortMap) (pd : Pcapdroid) (tuple : FiveTuple) (data : Conn) :
    Conn :=
  if pdCheckPortMap mappings tuple then { data with portMappingApplied := true }
  else
    let (data, proxify) := shouldProxify pd tuple data
    if proxify then { data with proxied := true } else data

/-- The packet is for the DNS server that the VPN advertises. -/
def isInternalDns (pd : Pcapdroid) (tuple : FiveTuple) : Bool :=
  pd.vpn.ipv4Enabled && tuple.ipver == 4 && tuple.dstIp.ip4 == pd.vpn.ipv4InternalDns

def isDnsServer (pd : Pcapdroid) (tuple : FiveTuple) : Bool :=
  isInternalDns pd tuple ||
    (pd.vpn.ipv6Enabled && tuple.ipver == 6 && tuple.dstIp == pd.vpn.ipv6DnsServer) ||
    pd.vpn.knownDnsServers.matchIp tuple.dstIp tuple.ipver

/-- The flags of a DNS header, as a little-endian machine reads them. -/
def dnsFlags (l7 : Bytes) : Nat := Bytes.ofLittleEndian ((l7.drop 2).take 2)

/-- A requested DNS server is used from now on. -/
def useNewDnsServer (pd : Pcapdroid) : Pcapdroid :=
  if pd.newDnsServer = 0 then pd
  else { pd with vpn := { pd.vpn with ipv4DnsServer := pd.newDnsServer }, newDnsServer := 0 }

def countDnsRequest (pd : Pcapdroid) : Pcapdroid :=
  { pd with numDnsRequests := pd.numDnsRequests + 1 }

def checkDnsReqAllowed (pd : Pcapdroid) (pctx : PktContext) : Pcapdroid × Bool :=
  let pd := useNewDnsServer pd
  if pctx.tuple.ipproto == ipprotoIcmp then (pd, true)
  else if !isDnsServer pd pctx.tuple then (pd, true)
  else if pctx.tuple.ipproto == ipprotoUdp && ntohs pctx.tuple.dstPort == 53 &&
      decide (sizeofDnsPacket ≤ pctx.pkt.l7.length) then
    if dnsFlags pctx.pkt.l7 &&& dnsFlagsMask != 0 then (pd, true) else (countDnsRequest pd, true)
  else (pd, !pd.blockPrivateDns)

/-- The connection is blocked internally, now or before. -/
def refuseConn (data : Conn) (refused : Bool) : Conn :=
  let internal := data.blacklistedInternal || refused
  { data with blacklistedInternal := internal }.setToBlock (data.toBlock || internal)

/-- The DNS check of a connection that has sent nothing yet. -/
def checkFirstPacket (pd : Pcapdroid) (pctx : PktContext) : Pcapdroid :=
  let data := pd.conn pctx.data
  if data.portMappingApplied then pd.setConn pctx.data (refuseConn data false)
  else
    let (pd, allowed) := checkDnsReqAllowed pd pctx
    pd.setConn pctx.data (refuseConn data !allowed)

/-- A packet read from `tunfd`: what is parsed of it, the clocks and the uid read for
it, and what zdtun does on its way.  `opening` is what `zdtun_lookup` does to other
connections before it opens one, `closing` what `zdtun_conn_close` and `forwarding`
what `zdtun_forward` do to the connection of the packet. -/
structure TunPacket where
  pkt : Option ZdtunPkt
  now : UInt64
  ms : Nat
  uid : Int
  opening : Handling
  opened : Bool
  spoofed : Bool
  closing : List ConnAction
  forwarding : List ConnAction
  forwarded : Bool
  unreachable : Bool

/-- A TCP packet that does not open a connection. -/
def isTcpEstablished (pkt : ZdtunPkt) : Bool :=
  pkt.tuple.ipproto == ipprotoTcp && (!pkt.thSyn || pkt.thAck)

/-- `zdtun_lookup`, with `handle_new_connection` for a new connection. -/
def zdtunLookup (pd : Pcapdroid) (pkt : ZdtunPkt) (packet : TunPacket) :
    Pcapdroid × Option ConnAndTuple :=
  match pd.connections.find? fun slot => slot.tuple == pkt.tuple with
  | some slot => (pd, some slot)
  | none =>
    if isTcpEstablished pkt then (pd, none)
    else
      let pd := handleConns platform pd packet.opening
      if packet.opened then
        let created := pdNewConnection platform pd pkt.tuple packet.uid
        (created.1.activate ⟨pkt.tuple, created.2⟩, some ⟨pkt.tuple, created.2⟩)
      else (pd, none)

def countDropped (pd : Pcapdroid) : Pcapdroid :=
  { pd with numDroppedConnections := pd.numDroppedConnections + 1 }

def countFragment (pd : Pcapdroid) : Pcapdroid :=
  { pd with numDiscardedFragments := pd.numDiscardedFragments + 1 }

/-- A blocked DNS request is answered and its connection closed. -/
def spoofAndClose (pd : Pcapdroid) (slot : ConnAndTuple) (pctx : PktContext)
    (packet : TunPacket) : Pcapdroid :=
  let pd := if packet.spoofed then pd.emit (.spoof pctx) else pd
  zdtunConnClose platform (noteCall pd .connClose) slot .closed packet.closing

/-- The packet is passed to `zdtun_forward`. -/
def forwardPacket (pd : Pcapdroid) (slot : ConnAndTuple) (pctx : PktContext)
    (packet : TunPacket) : Pcapdroid :=
  let pd := (setFwPctx pd slot.data (some pctx)).emit (.forward pctx)
  let pd := connActions platform slot pd packet.forwarding
  let pd := pd.emit (.forwarded pctx packet.forwarded)
  if packet.forwarded then accountForwarded platform pd slot.data
  else
    let pd := if packet.unreachable then pd else countDropped pd
    zdtunConnClose platform (noteCall pd .connClose) slot .error packet.closing

/-- The packet after `pd_process_packet` and the DNS check. -/
def judgePacket (mappings : PortMap) (pd : Pcapdroid) (slot : ConnAndTuple) (pkt : ZdtunPkt)
    (packet : TunPacket) : Pcapdroid × PktContext :=
  let data := pd.conn slot.data
  let pd := if data.sentPkts = 0 then
      pd.setConn slot.data (prepareConnection mappings pd slot.tuple data)
    else pd
  let (pd, pctx) := pdProcessPacket platform pd pkt true slot.tuple slot.data packet.ms
  let pd := if (pd.conn slot.data).sentPkts = 0 then checkFirstPacket pd pctx else pd
  (notePacket pd pctx, pctx)

/-- A packet of an open connection. -/
def egressPacket (mappings : PortMap) (pd : Pcapdroid) (slot : ConnAndTuple) (pkt : ZdtunPkt)
    (packet : TunPacket) : Pcapdroid :=
  let (pd, pctx) := judgePacket platform mappings pd slot pkt packet
  let data := pd.conn slot.data
  let spoof := decide (data.sentPkts = 0) && data.toBlock && data.l7proto == .dns &&
    slot.tuple.ipproto == ipprotoUdp
  let pd := if spoof then spoofAndClose platform pd slot pctx packet else pd
  if (pd.conn slot.data).toBlock then blockPacket platform pd pctx
  else forwardPacket platform pd slot pctx packet

/-- Packets that are ignored: private DNS to the internal server, and a disabled IP
version. -/
def ignoredPacket (pd : Pcapdroid) (tuple : FiveTuple) : Bool :=
  (isInternalDns pd tuple && ntohs tuple.dstPort == 853) ||
    (tuple.ipver == 6 && !pd.vpn.ipv6Enabled) || (tuple.ipver == 4 && !pd.vpn.ipv4Enabled)

/-- A parsed packet. -/
def routePacket (mappings : PortMap) (pd : Pcapdroid) (pkt : ZdtunPkt) (packet : TunPacket) :
    Pcapdroid :=
  if pkt.isFragment then countFragment pd
  else if ignoredPacket pd pkt.tuple then pd
  else
    match zdtunLookup platform pd pkt packet with
    | (pd, some slot) => egressPacket platform mappings pd slot pkt packet
    | (pd, none) => if isTcpEstablished pkt then pd else countDropped pd

/-- A packet from the VPN. -/
def tunPacket (mappings : PortMap) (pd : Pcapdroid) (packet : TunPacket) : Pcapdroid :=
  let pd := pdRefreshTime pd packet.now
  match packet.pkt with
  | none => pd
  | some pkt => routePacket platform mappings pd pkt packet

/-! ## The loop -/

/-- What `select` finds. -/
inductive Input where
  | tun (packet : TunPacket)
  | tunError (now : UInt64)
  | sockets (now : UInt64) (handling : Handling)

def handleInput (mappings : PortMap) (pd : Pcapdroid) : Input → Pcapdroid
  | .tun packet => tunPacket platform mappings pd packet
  | .tunError now => pdRefreshTime pd now
  | .sockets now handling =>
    handleConns platform (noteCall (pdRefreshTime pd now) .handleFd) handling

/-- `run_vpn` between two iterations. -/
structure VpnLoop where
  pd : Pcapdroid
  mappings : PortMap
  nextPurgeMs : UInt64

/-- One iteration: its input, what `pcap_check_export` returns and what
`zdtun_purge_expired` does if it is called. -/
structure Iteration where
  input : Input
  exported : Bool
  purge : Handling

/-- The end of an iteration, which purges the expired connections now and then. -/
def purgeExpired (loop : VpnLoop) (purge : Handling) : VpnLoop :=
  if loop.nextPurgeMs ≤ loop.pd.nowMs then
    let pd := handleConns platform (noteCall loop.pd .purgeExpired) purge
    { loop with pd := pd, nextPurgeMs := pd.nowMs + periodicPurgeTimeoutMs }
  else loop

def iterate (loop : VpnLoop) (iteration : Iteration) : VpnLoop :=
  if loop.pd.running then
    let pd := handleInput platform loop.mappings loop.pd iteration.input
    purgeExpired platform { loop with pd := pdHousekeeping platform iteration.exported pd }
      iteration.purge
  else loop

end Callbacks

inductive VpnEvent where
  | iteration (iteration : Iteration)
  | control (control : Control)
  | finalize (handling : Handling)

/-- One step of a capture; nDPI and the platform may behave differently in each. -/
def vpnStep (loop : VpnLoop) (event : Platform × VpnEvent) : VpnLoop :=
  match event.2 with
  | .iteration iteration => iterate event.1 loop iteration
  | .control control => { loop with pd := applyControl loop.pd control }
  | .finalize handling => { loop with pd := handleConns event.1 loop.pd handling }

end PcapdroidFormal.Vpn
