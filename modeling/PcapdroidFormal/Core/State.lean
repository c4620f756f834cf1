import Mathlib.Data.List.Infix
import PcapdroidFormal.Foundation.ByteMemory

/-!
# The state of the capture engine

The parts of `pd_conn_t` and `pcapdroid_t` that the capture code reads or
writes.  A `pd_conn_t` is identified by its `incr_id`, which is unique in a
capture, and lives in a heap indexed by these identifiers.  The matching
functions of `blacklist.c`, nDPI and the platform are arbitrary, so a
statement about the model holds for every behaviour of theirs.  Allocations
succeed.  `effects` records what an observer sees of the capture thread.
-/

namespace PcapdroidFormal.Core

open Foundation

/-- A host name, without the terminating zero. -/
abbrev Host := List Char

/-- A `zdtun_ip_t`; an IPv4 address occupies the first four bytes. -/
abbrev ZdtunIp := BitVec 128

def ZdtunIp.ip4 (ip : ZdtunIp) : BitVec 32 := ip.truncate 32

abbrev ConnId := Nat

def uidUnknown : Int := -1
def uidPhone : Int := 1001
def uidNetd : Int := 1051

def ipprotoIcmp : UInt8 := 1
def ipprotoTcp : UInt8 := 6
def ipprotoUdp : UInt8 := 17

def captureStatsUpdateFrequencyMs : UInt64 := 300
def connectionDumpUpdateFrequencyMs : UInt64 := 1000
def netdResolveDelayMs : UInt64 := 1000
def maxDpiPackets : Nat := 12
def minimalPayloadMaxDirectionSize : Nat := 512
def sizeofDnsPacket : Nat := 12

/-- Ports are kept in network byte order. -/
def ntohs (port : UInt16) : UInt16 := port >>> 8 ||| port <<< 8

structure FiveTuple where
  srcIp : ZdtunIp
  dstIp : ZdtunIp
  srcPort : UInt16
  dstPort : UInt16
  ipver : UInt8
  ipproto : UInt8
  deriving DecidableEq, Repr

structure Blacklist where
  matchIp : ZdtunIp → UInt8 → Bool
  matchUid : Int → Bool
  matchDomain : Host → Bool

inductive ConnStatus where
  | new
  | connecting
  | connected
  | closed
  | error
  | socketError
  | clientError
  | reset
  | unreachable
  | socks5Error
  deriving DecidableEq, Repr

def ConnStatus.isClosed : ConnStatus → Bool
  | .new | .connecting | .connected => false
  | _ => true

/-- The nDPI protocols the capture code distinguishes. -/
inductive L7Proto where
  | unknown
  | tls
  | dns
  | http
  | quic
  | mailImap
  | mailSmtp
  | other (protocol : Nat)
  deriving DecidableEq, Repr

/-- `ndpi_flow_struct`: the fields read here, and the state of the detection. -/
structure NdpiFlow where
  hostServerName : Host
  alpn : Option Host
  httpUrl : Option Host
  detection : Nat
  deriving DecidableEq, Repr

/-- The flow returned by `ndpi_calloc`. -/
def NdpiFlow.zeroed : NdpiFlow := ⟨[], none, none, 0⟩

/-- `zdtun_pkt_t`; `len` and `l7_len` are the lengths of `buf` and `l7`. -/
structure ZdtunPkt where
  tuple : FiveTuple
  isFragment : Bool
  isFirstFragment : Bool
  thSyn : Bool
  thAck : Bool
  buf : Bytes
  l7 : Bytes
  deriving DecidableEq, Repr

/-- `pkt_context_t`; `address` tells the stack-allocated contexts apart. -/
structure PktContext where
  address : Nat
  pkt : ZdtunPkt
  ms : Nat
  isTx : Bool
  tuple : FiveTuple
  data : ConnId
  deriving DecidableEq, Repr

structure UpdateType where
  stats : Bool
  info : Bool
  payload : Bool
  deriving DecidableEq, Repr

def UpdateType.none : UpdateType := ⟨false, false, false⟩

/-- `pd_conn_t`. -/
structure Conn where
  incrId : ConnId
  ndpiFlow : Option NdpiFlow
  l7proto : L7Proto
  alpn : L7Proto
  fwPctx : Option PktContext
  payloadChunks : Bool
  firstSeen : Nat
  lastSeen : Nat
  payloadLength : Nat
  sentBytes : Nat
  rcvdBytes : Nat
  sentPkts : Nat
  rcvdPkts : Nat
  blockedPkts : Nat
  status : ConnStatus
  info : Option Host
  uid : Int
  pendingNotification : Bool
  toPurge : Bool
  infoFromLru : Bool
  blacklistedInternal : Bool
  blacklistedIp : Bool
  blacklistedDomain : Bool
  whitelistedApp : Bool
  toBlock : Bool
  netdBlockMissed : Bool
  proxied : Bool
  decryptionIgnored : Bool
  portMappingApplied : Bool
  encryptedL7 : Bool
  payloadTruncated : Bool
  hasPayloadRx : Bool
  hasPayloadTx : Bool
  url : Option Host
  updateType : UpdateType
  deriving DecidableEq, Repr

/-- The connection returned by `pd_calloc`. -/
def Conn.zeroed : Conn where
  incrId := 0
  ndpiFlow := none
  l7proto := .unknown
  alpn := .unknown
  fwPctx := none
  payloadChunks := false
  firstSeen := 0
  lastSeen := 0
  payloadLength := 0
  sentBytes := 0
  rcvdBytes := 0
  sentPkts := 0
  rcvdPkts := 0
  blockedPkts := 0
  status := .new
  info := none
  uid := 0
  pendingNotification := false
  toPurge := false
  infoFromLru := false
  blacklistedInternal := false
  blacklistedIp := false
  blacklistedDomain := false
  whitelistedApp := false
  toBlock := false
  netdBlockMissed := false
  proxied := false
  decryptionIgnored := false
  portMappingApplied := false
  encryptedL7 := false
  payloadTruncated := false
  hasPayloadRx := false
  hasPayloadTx := false
  url := none
  updateType := .none

namespace Conn

/-- A new connection with its nDPI flow. -/
def allocated : Conn := { zeroed with ndpiFlow := some .zeroed }

/-- The uid and the identifier of a new connection. -/
def identify (data : Conn) (uid : Int) (id : ConnId) (whitelistedApp : Bool) : Conn :=
  { data with uid := uid, incrId := id, whitelistedApp := whitelistedApp }

/-- The connection is in a queue. -/
def markPending (data : Conn) : Conn := { data with pendingNotification := true }

/-- Set the verdict. -/
def setToBlock (data : Conn) (toBlock : Bool) : Conn := { data with toBlock := toBlock }

/-- Mark the statistics as changed: `update_type |= CONN_UPDATE_STATS`. -/
def markStats (data : Conn) : Conn :=
  { data with updateType := { data.updateType with stats := true } }

/-- Mark the information as changed: `update_type |= CONN_UPDATE_INFO`. -/
def markInfo (data : Conn) : Conn :=
  { data with updateType := { data.updateType with info := true } }

def setL7proto (data : Conn) (l7proto : L7Proto) (encrypted : Bool) : Conn :=
  { data with l7proto := l7proto, encryptedL7 := encrypted }

def freeFlow (data : Conn) : Conn := { data with ndpiFlow := none }

/-- The connection is closed and can be freed. -/
def close (data : Conn) (status : ConnStatus) : Conn :=
  { data with status := status, toPurge := true }

@[simp] theorem setToBlock_toBlock (data : Conn) (toBlock : Bool) :
    (data.setToBlock toBlock).toBlock = toBlock := rfl

@[simp] theorem setToBlock_self (data : Conn) : data.setToBlock data.toBlock = data := rfl

theorem setToBlock_eq_self {data : Conn} {toBlock : Bool} (same : toBlock = data.toBlock) :
    data.setToBlock toBlock = data := by
  rw [same, setToBlock_self]

end Conn

/-- `ip_lru_t`: the entries in insertion order, the oldest first. -/
structure IpLru where
  maxSize : Nat
  entries : List (ZdtunIp × Host)

namespace IpLru

/-- `ip_lru_find_entry`: a found entry becomes the most recent one. -/
def findEntry (lru : IpLru) (ip : ZdtunIp) : Option Host × IpLru :=
  match lru.entries.find? fun entry => entry.1 == ip with
  | none => (none, lru)
  | some entry =>
    (some entry.2,
      { lru with entries := (lru.entries.eraseP fun entry => entry.1 == ip) ++ [entry] })

def add (lru : IpLru) (ip : ZdtunIp) (host : Host) : IpLru :=
  match lru.findEntry ip with
  | (some _, found) => { found with entries := found.entries.dropLast ++ [(ip, host)] }
  | (none, _) =>
    let entries := lru.entries ++ [(ip, host)]
    { lru with entries := if lru.maxSize < entries.length then entries.drop 1 else entries }

end IpLru

structure MalwareDetection where
  enabled : Bool
  bl : Option Blacklist
  whitelist : Option Blacklist
  reloadInProgress : Bool
  reloadDone : Bool
  newBl : Option Blacklist
  newWl : Option Blacklist

structure Firewall where
  enabled : Bool
  bl : Option Blacklist
  newBl : Option Blacklist
  wlEnabled : Bool
  wl : Option Blacklist
  newWl : Option Blacklist

def Firewall.installBlocklist (firewall : Firewall) (bl : Blacklist) : Firewall :=
  { firewall with bl := some bl, newBl := none }

def Firewall.installWhitelist (firewall : Firewall) (wl : Blacklist) : Firewall :=
  { firewall with wl := some wl, newWl := none }

def MalwareDetection.installWhitelist (detection : MalwareDetection) (wl : Blacklist) :
    MalwareDetection :=
  { detection with whitelist := some wl, newWl := none }

structure TlsDecryption where
  enabled : Bool
  list : Option Blacklist
  newList : Option Blacklist

structure CaptureStats where
  sentBytes : Nat
  rcvdBytes : Nat
  ipv6SentBytes : Nat
  ipv6RcvdBytes : Nat
  sentPkts : Nat
  rcvdPkts : Nat
  newStats : Bool
  lastUpdateMs : UInt64

inductive PayloadMode where
  | none
  | minimal
  | full
  deriving DecidableEq, Repr

inductive BlockQuicMode where
  | never
  | always
  | toDecrypt
  deriving DecidableEq, Repr

structure VpnConfig where
  blockQuicMode : BlockQuicMode
  knownDnsServers : Blacklist
  ipv4Enabled : Bool
  ipv4DnsServer : BitVec 32
  ipv4InternalDns : BitVec 32
  ipv6Enabled : Bool
  ipv6DnsServer : ZdtunIp

/-- The calls of `run_vpn` into zdtun during which other connections may be handled. -/
inductive ZdtunCall where
  | connClose
  | handleFd
  | purgeExpired
  deriving DecidableEq, Repr

/-- What an observer sees of the capture thread.  A re-check shows the verdict it finds
and the one it leaves, a call into zdtun whether some connection has a `fw_pctx`. -/
inductive Effect where
  | verdict (pctx : PktContext) (blocked : Bool)
  | spoof (pctx : PktContext)
  | forward (pctx : PktContext)
  | forwarded (pctx : PktContext) (success : Bool)
  | write (pctx : PktContext)
  | blocked (pctx : PktContext)
  | account (pctx : PktContext)
  | dump (pctx : PktContext)
  | recheck (data : ConnId) (found left : Bool)
  | zdtunCall (call : ZdtunCall) (inFlight : Bool)
  | free (data : ConnId)
  deriving DecidableEq, Repr

/-- A slot of a `conn_array_t`. -/
structure ConnAndTuple where
  tuple : FiveTuple
  data : ConnId
  deriving DecidableEq, Repr

/-- `pcapdroid_t` with the global variables of the capture.  `connections` are the
open connections in the order in which zdtun iterates over them. -/
structure Pcapdroid where
  newConnId : ConnId
  nowMs : UInt64
  ipToHost : IpLru
  heap : ConnId → Conn
  connections : List ConnAndTuple
  newConns : List ConnAndTuple
  connsUpdates : List ConnAndTuple
  vpnCapture : Bool
  payloadMode : PayloadMode
  numDroppedConnections : Nat
  numDiscardedFragments : Nat
  numDnsRequests : Nat
  captureStats : CaptureStats
  vpn : VpnConfig
  dumper : Bool
  maxPktsPerFlow : Int
  socks5Enabled : Bool
  malwareDetection : MalwareDetection
  firewall : Firewall
  tlsDecryption : TlsDecryption
  running : Bool
  newDnsServer : BitVec 32
  blockPrivateDns : Bool
  dumpCaptureStatsNow : Bool
  reloadBlacklistsNow : Bool
  blNumCheckedConnections : Nat
  fwNumCheckedConnections : Nat
  netdResolveWaiting : Nat
  nextConnectionsDump : UInt64
  lastConnectionsDump : UInt64
  contexts : Nat
  effects : List Effect

/-- nDPI and the platform callbacks. -/
structure Platform where
  processPacket : NdpiFlow → ZdtunPkt → NdpiFlow × L7Proto
  detectionGiveup : NdpiFlow → NdpiFlow × L7Proto
  extraDissectionPossible : NdpiFlow → Bool
  isEncryptedL7 : L7Proto → Bool
  dnsAnswers : ZdtunPkt → List ZdtunIp
  dumpPayloadChunk : PktContext → Nat → Bool
  pcapDumpPacket : PktContext → Bool

namespace Pcapdroid

variable (pd : Pcapdroid)

/-- The connection behind a `pd_conn_t` pointer. -/
def conn (id : ConnId) : Conn := pd.heap id

/-- Write a connection back. -/
def setConn (id : ConnId) (data : Conn) : Pcapdroid :=
  { pd with heap := fun other => if other = id then data else pd.heap other }

def emit (effect : Effect) : Pcapdroid := { pd with effects := pd.effects ++ [effect] }

def setFirewall (firewall : Firewall) : Pcapdroid := { pd with firewall := firewall }

def setMalwareDetection (detection : MalwareDetection) : Pcapdroid :=
  { pd with malwareDetection := detection }

def setTlsDecryption (decryption : TlsDecryption) : Pcapdroid :=
  { pd with tlsDecryption := decryption }

/-- zdtun iterates over a new connection last. -/
def activate (slot : ConnAndTuple) : Pcapdroid :=
  { pd with connections := pd.connections ++ [slot] }

/-- zdtun iterates over the connection no more. -/
def deactivate (id : ConnId) : Pcapdroid :=
  { pd with connections := pd.connections.filter fun slot => slot.data != id }

/-- `pd->new_conn_id++`. -/
def takeConnId : Pcapdroid := { pd with newConnId := pd.newConnId + 1 }

@[simp] theorem setConn_conn_self (id : ConnId) (data : Conn) :
    (pd.setConn id data).conn id = data := if_pos rfl

theorem setConn_conn_other {id other : ConnId} (data : Conn) (different : other ≠ id) :
    (pd.setConn id data).conn other = pd.conn other := if_neg different

@[elab_as_elim]
theorem setConn_cases {pd : Pcapdroid} {id : ConnId} {data : Conn} {motive : ConnId → Conn → Prop}
    (own : motive id data) (rest : ∀ other, other ≠ id → motive other (pd.conn other))
    (other : ConnId) : motive other ((pd.setConn id data).conn other) := by
  by_cases same : other = id
  · subst same
    rw [setConn_conn_self]
    exact own
  · rw [setConn_conn_other _ _ same]
    exact rest other same

section

variable (id : ConnId)

@[simp] theorem setConn_setConn (first second : Conn) :
    (pd.setConn id first).setConn id second = pd.setConn id second := by
  unfold setConn
  congr 1
  funext other
  by_cases same : other = id <;> simp [same]

@[simp] theorem setConn_conn : pd.setConn id (pd.conn id) = pd := by
  have same : (fun other => if other = id then pd.heap id else pd.heap other) = pd.heap := by
    funext other
    by_cases equal : other = id <;> simp [equal]
  simp only [setConn, conn, same]

variable (data : Conn)

@[simp] theorem setConn_firewall : (pd.setConn id data).firewall = pd.firewall := rfl

end

@[simp] theorem emit_conn (effect : Effect) (id : ConnId) :
    (pd.emit effect).conn id = pd.conn id := rfl

end Pcapdroid

/-- A list with no rules. -/
def Blacklist.empty : Blacklist := ⟨fun _ _ => false, fun _ => false, fun _ => false⟩

/-- nDPI detects nothing and the platform callbacks succeed. -/
def Platform.inert : Platform where
  processPacket flow _ := (flow, .unknown)
  detectionGiveup flow := (flow, .unknown)
  extraDissectionPossible _ := false
  isEncryptedL7 _ := false
  dnsAnswers _ := []
  dumpPayloadChunk _ _ := true
  pcapDumpPacket _ := true

/-- The start of a VPN capture in which every optional feature is off. -/
def Pcapdroid.initial : Pcapdroid where
  newConnId := 0
  nowMs := 0
  ipToHost := ⟨256, []⟩
  heap _ := Conn.zeroed
  connections := []
  newConns := []
  connsUpdates := []
  vpnCapture := true
  payloadMode := .none
  numDroppedConnections := 0
  numDiscardedFragments := 0
  numDnsRequests := 0
  captureStats := ⟨0, 0, 0, 0, 0, 0, false, 0⟩
  vpn := ⟨.never, .empty, true, 0, 0, true, 0⟩
  dumper := false
  maxPktsPerFlow := 0
  socks5Enabled := false
  malwareDetection := ⟨false, none, none, false, false, none, none⟩
  firewall := ⟨false, none, none, false, none, none⟩
  tlsDecryption := ⟨false, none, none⟩
  running := true
  newDnsServer := 0
  blockPrivateDns := false
  dumpCaptureStatsNow := false
  reloadBlacklistsNow := false
  blNumCheckedConnections := 0
  fwNumCheckedConnections := 0
  netdResolveWaiting := 0
  nextConnectionsDump := 0
  lastConnectionsDump := 0
  contexts := 0
  effects := []

end PcapdroidFormal.Core
