import PcapdroidFormal.Core.State

/-!
# Connections, verdicts and lists

A model of the part of `pcapdroid.c` that creates connections, decides which
of them are blocked, queues them for notification and installs new lists, and
of the functions of `jni_impl.c` that request these lists.
-/

namespace PcapdroidFormal.Core

/-! ## Verdicts -/

/-- The part of `check_blacklisted_domain` that looks for a malicious host. -/
def checkMalwareDomain (pd : Pcapdroid) (host : Host) (data : Conn) : Conn :=
  match pd.malwareDetection.bl with
  | none => data
  | some bl =>
    if !data.blacklistedDomain && !data.whitelistedApp && bl.matchDomain host &&
        !pd.malwareDetection.whitelist.any (·.matchDomain host) then
      { data with blacklistedDomain := true }.setToBlock true
    else data

/-- The part of `check_blacklisted_domain` that looks up the blocklist. -/
def checkBlockedDomain (pd : Pcapdroid) (host : Host) (data : Conn) : Conn :=
  match pd.firewall.bl with
  | none => data
  | some bl =>
    if pd.firewall.enabled && !data.toBlock then data.setToBlock (bl.matchDomain host)
    else data

def checkBlacklistedDomain (pd : Pcapdroid) (data : Conn) : Conn :=
  match data.info with
  | none => data
  | some host =>
    if host.isEmpty then data else checkBlockedDomain pd host (checkMalwareDomain pd host data)

/-- The DNS traffic of unspecified apps, which whitelist mode always allows. -/
def exemptFromWhitelist (tuple : FiveTuple) (uid : Int) : Bool :=
  tuple.ipproto == ipprotoUdp && ntohs tuple.dstPort == 53 &&
    (uid == uidNetd || uid == uidPhone || uid == uidUnknown)

def checkWhitelistModeBlock (pd : Pcapdroid) (tuple : FiveTuple) (data : Conn) : Conn :=
  match pd.firewall.wl with
  | none => data
  | some wl =>
    if pd.firewall.enabled && pd.firewall.wlEnabled && !data.toBlock &&
        !exemptFromWhitelist tuple data.uid then
      data.setToBlock (!wl.matchUid data.uid)
    else data

/-- The part of `pd_new_connection` that looks for a malicious destination. -/
def checkBlacklistedIp (pd : Pcapdroid) (tuple : FiveTuple) (data : Conn) : Conn :=
  match pd.malwareDetection.bl with
  | none => data
  | some bl =>
    if !data.whitelistedApp && bl.matchIp tuple.dstIp tuple.ipver &&
        !pd.malwareDetection.whitelist.any (·.matchIp tuple.dstIp tuple.ipver) then
      { data with blacklistedIp := true }.setToBlock true
    else data

/-- The part of `pd_new_connection` that looks up the blocklist. -/
def checkBlocklist (pd : Pcapdroid) (tuple : FiveTuple) (data : Conn) : Conn :=
  match pd.firewall.bl with
  | none => data
  | some bl =>
    if pd.firewall.enabled && !data.toBlock then
      data.setToBlock (bl.matchIp tuple.dstIp tuple.ipver || bl.matchUid data.uid)
    else data

def matchesDecryptionWhitelist (pd : Pcapdroid) (tuple : FiveTuple) (data : Conn) : Bool :=
  match pd.tlsDecryption.list with
  | none => false
  | some list =>
    list.matchIp tuple.dstIp tuple.ipver || list.matchUid data.uid ||
      data.info.any list.matchDomain

def vpnProcessNdpi (pd : Pcapdroid) (tuple : FiveTuple) (data : Conn) : Conn :=
  let data :=
    if data.l7proto == .quic && (pd.vpn.blockQuicMode == .always ||
        (pd.vpn.blockQuicMode == .toDecrypt && matchesDecryptionWhitelist pd tuple data)) then
      { data with blacklistedInternal := true }.setToBlock true
    else data
  if pd.blockPrivateDns && !data.toBlock && data.l7proto == .tls &&
      data.info.any pd.vpn.knownDnsServers.matchDomain then
    { data with blacklistedInternal := true }.setToBlock true
  else data

/-! ## Deep packet inspection -/

def isNumericHost : Host → Bool
  | [] => false
  | first :: rest =>
    first.isDigit || ((first :: rest).takeWhile (· != '.')).contains ':'

def strstr (text word : Host) : Bool := decide (word <:+: text)

def processAlpn (flow : NdpiFlow) (data : Conn) : Conn :=
  match flow.alpn with
  | none => data
  | some alpn =>
    if data.alpn != .unknown then data
    else if strstr alpn ['h', 't', 't', 'p', '/'] then
      { data with alpn := .http }.markInfo
    else if strstr alpn ['i', 'm', 'a', 'p'] then
      { data with alpn := .mailImap }.markInfo
    else if strstr alpn ['s', 't', 'm', 'p'] then
      { data with alpn := .mailSmtp }.markInfo
    else { data with alpn := .tls }

def processUrl (flow : NdpiFlow) (data : Conn) : Conn :=
  match data.url, flow.httpUrl with
  | none, some url => { data with url := some (url.take 256) }.markInfo
  | _, _ => data

/-- The protocol of the connection decides which of these parts is taken. -/
def processProtocol (flow : NdpiFlow) (data : Conn) : Conn :=
  match data.l7proto with
  | .tls => processAlpn flow data
  | .http => processUrl flow data
  | _ => data

def foundInfo (l7proto : L7Proto) (flow : NdpiFlow) : Option Host :=
  match l7proto with
  | .tls | .dns => if flow.hostServerName.isEmpty then none else some flow.hostServerName
  | .http =>
    if flow.hostServerName.isEmpty || isNumericHost flow.hostServerName then none
    else some flow.hostServerName
  | _ => none

/-- A host found by nDPI replaces a missing one or one from the LRU cache. -/
def updateInfo (pd : Pcapdroid) (found : Option Host) (data : Conn) : Conn :=
  match found with
  | none => data
  | some host =>
    if data.info.isNone || data.infoFromLru then
      (checkBlacklistedDomain pd
        { data with info := some (host.take 256), infoFromLru := false }).markInfo
    else data

def processNdpiData (pd : Pcapdroid) (tuple : FiveTuple) (flow : NdpiFlow) (data : Conn) : Conn :=
  let data := processProtocol flow data
  let data := updateInfo pd (foundInfo data.l7proto flow) data
  if pd.vpnCapture then vpnProcessNdpi pd tuple data else data

section Notifications

variable (platform : Platform)

/-- nDPI guesses an unknown protocol when it gives up. -/
def guessProtocol (flow : NdpiFlow) (data : Conn) : NdpiFlow × Conn :=
  if data.l7proto == .unknown then
    let guess := platform.detectionGiveup flow
    (guess.1, data.setL7proto guess.2 (platform.isEncryptedL7 guess.2))
  else (flow, data)

def pdGiveupDpi (pd : Pcapdroid) (tuple : FiveTuple) (data : Conn) : Conn :=
  match data.ndpiFlow with
  | none => data
  | some flow =>
    let guess := guessProtocol platform flow data
    (processNdpiData pd tuple guess.1 guess.2).freeFlow

/-! ## Notifications -/

inductive ConnQueue where
  | newConns
  | connsUpdates

def enqueue (pd : Pcapdroid) (queue : ConnQueue) (slot : ConnAndTuple) : Pcapdroid :=
  match queue with
  | .newConns => { pd with newConns := pd.newConns ++ [slot] }
  | .connsUpdates => { pd with connsUpdates := pd.connsUpdates ++ [slot] }

def notifConnection (queue : ConnQueue) (pd : Pcapdroid) (tuple : FiveTuple) (id : ConnId) :
    Pcapdroid :=
  let data := pd.conn id
  let data := if data.status.isClosed then pdGiveupDpi platform pd tuple data else data
  if data.pendingNotification then pd.setConn id data
  else (enqueue pd queue ⟨tuple, id⟩).setConn id data.markPending

def pdNotifyConnectionUpdate (pd : Pcapdroid) (tuple : FiveTuple) (id : ConnId) : Pcapdroid :=
  notifConnection platform .connsUpdates pd tuple id

/-- A connection after `getConnUpdate` has reported its changes. -/
def reportedConn (data : Conn) : Conn :=
  { data with
    pendingNotification := false
    payloadChunks := data.payloadChunks && !data.updateType.payload
    updateType := .none }

/-- `send_connections_dump`, with every JNI call succeeding. -/
def sendConnectionsDump (pd : Pcapdroid) : Pcapdroid :=
  (pd.newConns ++ pd.connsUpdates).foldl
    (fun pd slot => pd.setConn slot.data (reportedConn (pd.conn slot.data))) pd

/-- The connections freed by `conns_clear`. -/
def purgeQueue (freeAll : Bool) (pd : Pcapdroid) (queue : List ConnAndTuple) : Pcapdroid :=
  queue.foldl
    (fun pd slot =>
      if (pd.conn slot.data).toPurge || freeAll then pd.emit (.free slot.data) else pd) pd

/-- `conns_clear` on both queues. -/
def connsClear (freeAll : Bool) (pd : Pcapdroid) : Pcapdroid :=
  let pd := { purgeQueue freeAll pd pd.newConns with newConns := [] }
  { purgeQueue freeAll pd pd.connsUpdates with connsUpdates := [] }

/-! ## New connections -/

/-- One netd request less to wait for; the last one removes the dump delay. -/
def netdResolveDone (pd : Pcapdroid) : Pcapdroid :=
  if pd.netdResolveWaiting = 0 then pd
  else if pd.netdResolveWaiting = 1 then
    { pd with
      netdResolveWaiting := 0
      nextConnectionsDump := pd.nextConnectionsDump - netdResolveDelayMs }
  else { pd with netdResolveWaiting := pd.netdResolveWaiting - 1 }

/-- The firewall would have blocked a netd request of this uid. -/
def netdBlockMissed (pd : Pcapdroid) (uid : Int) : Bool :=
  pd.firewall.enabled && pd.firewall.bl.any fun bl =>
    bl.matchUid uid || (pd.firewall.wlEnabled && pd.firewall.wl.any fun wl => !wl.matchUid uid)

/-- One iteration of the loop of `pd_new_connection` that gives a pending netd DNS
request the uid of the connection that follows it. -/
def resolveNetdUid (uid : Int) (info : Host) (pd : Pcapdroid) (slot : ConnAndTuple) : Pcapdroid :=
  let conn := pd.conn slot.data
  if conn.uid = uidNetd ∧ conn.info = some info then
    netdResolveDone (pd.setConn slot.data
      { conn with
        uid := uid
        netdBlockMissed := conn.netdBlockMissed || (!conn.toBlock && netdBlockMissed pd uid) })
  else pd

/-- The host part of `pd_new_connection`: the host comes from the LRU cache. -/
def resolveHost (pd : Pcapdroid) (tuple : FiveTuple) (uid : Int) (id : ConnId) : Pcapdroid :=
  let (info, ipToHost) := pd.ipToHost.findEntry tuple.dstIp
  let pd := { pd with ipToHost := ipToHost }
  match info with
  | none => pd
  | some host =>
    let pd := pd.setConn id { pd.conn id with info := some host, infoFromLru := true }
    let pd := if uid = uidUnknown then pd else pd.newConns.foldl (resolveNetdUid uid host) pd
    pd.setConn id (checkBlacklistedDomain pd (pd.conn id))

/-- The counters of checked connections; a connection the malware detection already
blocked is not looked up in the blocklist. -/
def countChecks (pd : Pcapdroid) (blocked : Bool) : Pcapdroid :=
  { pd with
    blNumCheckedConnections :=
      pd.blNumCheckedConnections + if pd.malwareDetection.bl.isSome then 1 else 0
    fwNumCheckedConnections :=
      pd.fwNumCheckedConnections +
        if pd.firewall.enabled && pd.firewall.bl.isSome && !blocked then 1 else 0 }

/-- The start of `pd_new_connection`: the connection is allocated, queued as a new
one and given its uid. -/
def registerConnection (pd : Pcapdroid) (tuple : FiveTuple) (uid : Int) : Pcapdroid :=
  let id := pd.newConnId
  let pd := notifConnection platform .newConns (pd.setConn id Conn.allocated) tuple id
  let whitelistedApp := pd.malwareDetection.whitelist.any (·.matchUid uid)
  pd.takeConnId.setConn id ((pd.conn id).identify uid id whitelistedApp)

/-- The end of `pd_new_connection`: the address and the uid are looked up. -/
def decideConnection (pd : Pcapdroid) (tuple : FiveTuple) (id : ConnId) : Pcapdroid :=
  let data := checkBlacklistedIp pd tuple (pd.conn id)
  let pd := countChecks pd data.toBlock
  let data := checkBlocklist pd tuple data
  pd.setConn id (checkWhitelistModeBlock pd tuple data)

def pdNewConnection (pd : Pcapdroid) (tuple : FiveTuple) (uid : Int) : Pcapdroid × ConnId :=
  let id := pd.newConnId
  let pd := registerConnection platform pd tuple uid
  let pd := resolveHost pd tuple uid id
  (decideConnection pd tuple id, id)

def connectionClosed (pd : Pcapdroid) (tuple : FiveTuple) (id : ConnId) (status : ConnStatus) :
    Pcapdroid :=
  let pd := pdNotifyConnectionUpdate platform (pd.setConn id (pd.conn id).markStats) tuple id
  pd.setConn id ((pdGiveupDpi platform pd tuple (pd.conn id)).close status)

/-! ## Active connections -/

def iterActiveConnections (pd : Pcapdroid)
    (callback : Pcapdroid → FiveTuple → ConnId → Pcapdroid) : Pcapdroid :=
  pd.connections.foldl (fun pd slot => callback pd slot.tuple slot.data) pd

/-- The verdict `check_blocked_conn_cb` computes before whitelist mode. -/
def recheckBlocklist (pd : Pcapdroid) (tuple : FiveTuple) (data : Conn) : Conn :=
  let data := data.setToBlock
    (data.blacklistedInternal || data.blacklistedIp || data.blacklistedDomain)
  match pd.firewall.bl with
  | none => data
  | some bl =>
    if !data.toBlock && pd.firewall.enabled then
      data.setToBlock (bl.matchUid data.uid || bl.matchIp tuple.dstIp tuple.ipver ||
        data.info.any fun host => !host.isEmpty && bl.matchDomain host)
    else data

def checkBlockedConnCb (pd : Pcapdroid) (tuple : FiveTuple) (id : ConnId) : Pcapdroid :=
  let oldBlock := (pd.conn id).toBlock
  let data := checkWhitelistModeBlock pd tuple (recheckBlocklist pd tuple (pd.conn id))
  let pd := pd.emit (.recheck id oldBlock data.toBlock)
  if oldBlock != data.toBlock then
    pdNotifyConnectionUpdate platform (pd.setConn id data.markStats) tuple id
  else pd.setConn id data

/-- The flags `check_blacklisted_conn_cb` clears. -/
def whitelistConn (whitelist : Blacklist) (tuple : FiveTuple) (data : Conn) : Conn :=
  let data := { data with whitelistedApp := whitelist.matchUid data.uid }
  { data with
    blacklistedIp := data.blacklistedIp &&
      !(data.whitelistedApp || whitelist.matchIp tuple.dstIp tuple.ipver)
    blacklistedDomain := data.blacklistedDomain &&
      !(data.whitelistedApp || data.info.any whitelist.matchDomain) }

/-- `check_blacklisted_conn_cb`; there is a whitelist whenever it is called. -/
def checkBlacklistedConnCb (pd : Pcapdroid) (tuple : FiveTuple) (id : ConnId) : Pcapdroid :=
  match pd.malwareDetection.whitelist with
  | none => pd
  | some whitelist =>
    let old := pd.conn id
    let data := whitelistConn whitelist tuple old
    let changed := data.blacklistedIp != old.blacklistedIp ||
      data.blacklistedDomain != old.blacklistedDomain
    let pd := pd.setConn id data
    if changed then
      let pd := if pd.firewall.bl.isSome then checkBlockedConnCb platform pd tuple id else pd
      pdNotifyConnectionUpdate platform (pd.setConn id (pd.conn id).markStats) tuple id
    else pd

/-! ## Housekeeping -/

def useNewBlacklists (pd : Pcapdroid) : Pcapdroid :=
  match pd.malwareDetection.newBl with
  | none => pd
  | some bl => pd.setMalwareDetection { pd.malwareDetection with bl := some bl, newBl := none }

/-- The periodic tasks at the start of `pd_housekeeping`, of which at most one runs;
`exported` is what `pcap_check_export` returns. -/
def periodicTask (exported : Bool) (pd : Pcapdroid) : Pcapdroid :=
  if pd.dumpCaptureStatsNow || (pd.captureStats.newStats &&
      decide (captureStatsUpdateFrequencyMs ≤ pd.nowMs - pd.captureStats.lastUpdateMs)) then
    { pd with
      dumpCaptureStatsNow := false
      captureStats := { pd.captureStats with newStats := false, lastUpdateMs := pd.nowMs } }
  else if pd.nextConnectionsDump ≤ pd.nowMs then
    let pd := if pd.newConns.isEmpty && pd.connsUpdates.isEmpty then pd
      else connsClear false (sendConnectionsDump pd)
    { pd with
      lastConnectionsDump := pd.nowMs
      nextConnectionsDump := pd.nowMs + connectionDumpUpdateFrequencyMs
      netdResolveWaiting := 0 }
  else if pd.dumper && exported then pd
  else if pd.malwareDetection.enabled then
    if pd.malwareDetection.reloadInProgress then
      if pd.malwareDetection.reloadDone then
        useNewBlacklists
          (pd.setMalwareDetection { pd.malwareDetection with reloadInProgress := false })
      else pd
    else if pd.reloadBlacklistsNow then
      { pd with
        reloadBlacklistsNow := false
        malwareDetection := { pd.malwareDetection with
          reloadDone := false, newBl := none, reloadInProgress := true } }
    else pd
  else pd

def installMalwareWhitelist (pd : Pcapdroid) : Pcapdroid :=
  match pd.malwareDetection.newWl with
  | none => pd
  | some wl =>
    iterActiveConnections (pd.setMalwareDetection (pd.malwareDetection.installWhitelist wl))
      (checkBlacklistedConnCb platform)

/-- Install a requested blocklist or, if there is none, a requested whitelist. -/
def installFirewallLists (pd : Pcapdroid) : Pcapdroid :=
  match pd.firewall.newBl with
  | some bl =>
    iterActiveConnections (pd.setFirewall (pd.firewall.installBlocklist bl))
      (checkBlockedConnCb platform)
  | none =>
    match pd.firewall.newWl with
    | some wl =>
      iterActiveConnections (pd.setFirewall (pd.firewall.installWhitelist wl))
        (checkBlockedConnCb platform)
    | none => pd

def installDecryptionList (pd : Pcapdroid) : Pcapdroid :=
  match pd.tlsDecryption.newList with
  | none => pd
  | some list =>
    pd.setTlsDecryption { pd.tlsDecryption with list := some list, newList := none }

def pdHousekeeping (exported : Bool) (pd : Pcapdroid) : Pcapdroid :=
  installDecryptionList
    (installFirewallLists platform (installMalwareWhitelist platform (periodicTask exported pd)))

end Notifications

/-! ## Requests -/

/-- `reloadBlocklist`; the result says whether the request was taken. -/
def reloadBlocklist (pd : Pcapdroid) (list : Blacklist) : Pcapdroid × Bool :=
  if !pd.vpnCapture || pd.firewall.newBl.isSome then (pd, false)
  else (pd.setFirewall { pd.firewall with newBl := some list }, true)

/-- `reloadFirewallWhitelist` up to its store of `new_wl`. -/
def requestFirewallWhitelist (pd : Pcapdroid) (list : Option Blacklist) : Pcapdroid × Bool :=
  if !pd.vpnCapture || pd.firewall.newWl.isSome then (pd, false)
  else
    match list with
    | none => (pd.setFirewall { pd.firewall with wlEnabled := false }, true)
    | some wl => (pd.setFirewall { pd.firewall with newWl := some wl }, true)

/-- The last store of `reloadFirewallWhitelist`, for a list.  There is no lock, so the capture
thread may run before it. -/
def enableWhitelistMode (pd : Pcapdroid) : Pcapdroid :=
  pd.setFirewall { pd.firewall with wlEnabled := true }

/-- `reloadFirewallWhitelist`, if nothing comes between its stores. -/
def reloadFirewallWhitelist (pd : Pcapdroid) (list : Option Blacklist) : Pcapdroid × Bool :=
  let requested := requestFirewallWhitelist pd list
  (if requested.2 && list.isSome then enableWhitelistMode requested.1 else requested.1, requested.2)

def reloadMalwareWhitelist (pd : Pcapdroid) (list : Blacklist) : Pcapdroid × Bool :=
  if !pd.malwareDetection.enabled || pd.malwareDetection.newWl.isSome then (pd, false)
  else (pd.setMalwareDetection { pd.malwareDetection with newWl := some list }, true)

def reloadDecryptionList (pd : Pcapdroid) (list : Blacklist) : Pcapdroid × Bool :=
  if !pd.tlsDecryption.enabled || pd.tlsDecryption.newList.isSome then (pd, false)
  else (pd.setTlsDecryption { pd.tlsDecryption with newList := some list }, true)

def nativeSetFirewallEnabled (pd : Pcapdroid) (enabled : Bool) : Pcapdroid :=
  pd.setFirewall { pd.firewall with enabled := enabled }

end PcapdroidFormal.Core
