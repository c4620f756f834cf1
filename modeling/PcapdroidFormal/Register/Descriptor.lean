import PcapdroidFormal.Foundation.ByteMemory

/-!
# Connections of the user interface

`ConnectionDescriptor` is the Java side of a connection, and `ConnectionUpdate`
what the native side sends about it later.  Fields that no modelled function
reads or writes are left out.  Assertions are not part of the model, as they are
not enabled on Android.
-/

namespace PcapdroidFormal.Register

open Foundation

inductive ChunkType where
  | raw
  | http
  | websocket
  deriving DecidableEq, Repr

structure PayloadChunk where
  payload : Bytes
  isSent : Bool
  timestamp : Int64
  type : ChunkType
  deriving DecidableEq, Repr

/-- `Geomodel.ASN`. -/
structure Asn where
  number : Int64
  asname : String
  deriving DecidableEq, Repr

/-! ## Updates -/

structure ConnectionUpdate where
  incrId : Int32
  updateType : Int32
  lastSeen : Int64
  payloadLength : Int64
  sentBytes : Int64
  rcvdBytes : Int64
  sentPkts : Int32
  rcvdPkts : Int32
  blockedPkts : Int32
  tcpFlags : Int32
  status : Int32
  infoFlags : Int32
  info : Option String
  url : Option String
  l7proto : String
  payloadChunks : Option (List PayloadChunk)
  payloadTruncated : Bool
  deriving DecidableEq, Repr

def updateStats : Int32 := 0x1
def updateInfo : Int32 := 0x2
def updatePayload : Int32 := 0x4
def updateInfoFlagEncryptedL7 : Int32 := 0x1

namespace ConnectionUpdate

/-- The constructor; no part of the update is set. -/
def new (incrId : Int32) : ConnectionUpdate :=
  ⟨incrId, 0, 0, 0, 0, 0, 0, 0, 0, 0, 0, 0, none, none, "", none, false⟩

def has (update : ConnectionUpdate) (part : Int32) : Bool := update.updateType &&& part != 0

/-- `(status & flag) != 0`. -/
def flagged (update : ConnectionUpdate) (flag : Int32) : Bool := update.status &&& flag != 0

end ConnectionUpdate

/-! ## Connections -/

structure ConnectionDescriptor where
  incrId : Int32
  uid : Int32
  ifidx : Int32
  dstIp : String
  srcPort : Int32
  dstPort : Int32
  mitmDecrypt : Bool
  lastSeen : Int64
  payloadLength : Int64
  sentBytes : Int64
  rcvdBytes : Int64
  sentPkts : Int32
  rcvdPkts : Int32
  blockedPkts : Int32
  info : Option String
  url : Option String
  l7proto : String
  payloadChunks : List PayloadChunk
  status : Int32
  tcpFlags : Int32
  blacklistedIp : Bool
  blacklistedHost : Bool
  isBlocked : Bool
  portMappingApplied : Bool
  decryptionIgnored : Bool
  netdBlockMissed : Bool
  payloadTruncated : Bool
  encryptedL7 : Bool
  encryptedPayload : Bool
  decryptionError : Option String
  country : String
  asn : Asn
  alerted : Bool
  blockAccounted : Bool
  deriving DecidableEq, Repr

def connStatusClosed : Int32 := 3
def connStatusClientError : Int32 := 6
def connStatusReset : Int32 := 7
def connStatusUnreachable : Int32 := 8

/-- `ConnectionDescriptor.Status`. -/
inductive Status where
  | invalid
  | active
  | closed
  | unreachable
  | error
  deriving DecidableEq, Repr

inductive DecryptionStatus where
  | invalid
  | encrypted
  | cleartext
  | decrypted
  | notDecryptable
  | waitingData
  | error
  deriving DecidableEq, Repr

inductive FilteringStatus where
  | invalid
  | allowed
  | blocked
  deriving DecidableEq, Repr

namespace ConnectionDescriptor

/-- The constructor. -/
def new (incrId : Int32) (dstIp : String) (srcPort dstPort uid ifidx : Int32)
    (mitmDecrypt : Bool) (when : Int64) : ConnectionDescriptor where
  incrId := incrId
  uid := uid
  ifidx := ifidx
  dstIp := dstIp
  srcPort := srcPort
  dstPort := dstPort
  mitmDecrypt := mitmDecrypt
  lastSeen := when
  payloadLength := 0
  sentBytes := 0
  rcvdBytes := 0
  sentPkts := 0
  rcvdPkts := 0
  blockedPkts := 0
  info := none
  url := none
  l7proto := ""
  payloadChunks := []
  status := 0
  tcpFlags := 0
  blacklistedIp := false
  blacklistedHost := false
  isBlocked := false
  portMappingApplied := false
  decryptionIgnored := false
  netdBlockMissed := false
  payloadTruncated := false
  encryptedL7 := false
  encryptedPayload := false
  decryptionError := none
  country := ""
  asn := ⟨0, ""⟩
  alerted := false
  blockAccounted := false

variable (conn : ConnectionDescriptor)

def isBlacklisted : Bool := conn.blacklistedIp || conn.blacklistedHost

def isNotDecryptable : Bool :=
  !conn.decryptionIgnored && (conn.encryptedPayload || !conn.mitmDecrypt)

def isDecrypted : Bool :=
  !conn.decryptionIgnored && !conn.isNotDecryptable && decide (0 < conn.payloadChunks.length)

def isCleartext : Bool := !conn.encryptedPayload && !conn.encryptedL7

def getStatus : Status :=
  if connStatusClosed ≤ conn.status then
    if conn.status = connStatusClosed ∨ conn.status = connStatusReset then .closed
    else if conn.status = connStatusUnreachable then .unreachable
    else .error
  else .active

def getDecryptionStatus : DecryptionStatus :=
  if conn.isCleartext then .cleartext
  else if conn.decryptionError.isSome then .error
  else if conn.isNotDecryptable then .notDecryptable
  else if conn.decryptionIgnored then .encrypted
  else if conn.isDecrypted then .decrypted
  else .waitingData

/-- The part of `processUpdate` for the statistics. -/
def processStats (update : ConnectionUpdate) : ConnectionDescriptor :=
  let status := update.status &&& 0x00FF
  { conn with
    sentBytes := update.sentBytes
    rcvdBytes := update.rcvdBytes
    sentPkts := update.sentPkts
    rcvdPkts := update.rcvdPkts
    blockedPkts := update.blockedPkts
    status :=
      -- see `MitmReceiver.handlePayload`
      if status = connStatusClosed ∧ conn.decryptionError.isSome then connStatusClientError
      else status
    portMappingApplied := update.flagged 0x2000
    decryptionIgnored := update.flagged 0x1000
    netdBlockMissed := update.flagged 0x0800
    isBlocked := update.flagged 0x0400
    blacklistedHost := update.flagged 0x0200
    blacklistedIp := update.flagged 0x0100
    lastSeen := update.lastSeen
    tcpFlags := update.tcpFlags
    payloadLength := if conn.mitmDecrypt then conn.payloadLength else update.payloadLength }

/-- The part of `processUpdate` for the information. -/
def processInfo (update : ConnectionUpdate) : ConnectionDescriptor :=
  { conn with
    info := update.info
    url := update.url
    l7proto := update.l7proto
    encryptedL7 := update.infoFlags &&& updateInfoFlagEncryptedL7 != 0 }

def processPayload (isLowMemory : Bool) (update : ConnectionUpdate) : ConnectionDescriptor :=
  if isLowMemory then conn
  else
    { conn with
      payloadChunks := conn.payloadChunks ++ update.payloadChunks.getD []
      payloadTruncated := update.payloadTruncated }

def processUpdate (isLowMemory : Bool) (update : ConnectionUpdate) : ConnectionDescriptor :=
  let conn := if update.has updateStats then conn.processStats update else conn
  let conn := if update.has updateInfo then conn.processInfo update else conn
  if update.has updatePayload then conn.processPayload isLowMemory update else conn

/-- An update keeps the connection; only its contents change. -/
@[simp] theorem processUpdate_incrId (isLowMemory : Bool) (update : ConnectionUpdate) :
    (conn.processUpdate isLowMemory update).incrId = conn.incrId := by
  have payload (conn : ConnectionDescriptor) :
      (conn.processPayload isLowMemory update).incrId = conn.incrId := by
    unfold processPayload
    split <;> rfl
  unfold processUpdate
  cases update.has updateStats <;> cases update.has updateInfo <;>
    cases update.has updatePayload <;> first | rfl | exact payload _

end ConnectionDescriptor

/-! ## The platform -/

structure AppDescriptor where
  name : String
  packageName : String
  uid : Int32
  deriving DecidableEq, Repr

/-- What is asked from outside of the modelled classes: the resolver of the apps, the
geolocation of the address of a connection, the names of the interfaces and the lower case of a
text. -/
structure Platform where
  getAppByUid : Int32 → Option AppDescriptor
  getCountryCode : String → String
  getAsn : String → Asn
  getInterfaceName : Int32 → String
  toLowerCase : String → String

def hasEncryptedPayload (app : AppDescriptor) (conn : ConnectionDescriptor) : Bool :=
  app.packageName == "org.telegram.messenger" ||
  (conn.info == some "g.whatsapp.net" && conn.l7proto != "DNS") ||
  (app.uid == 1000 && decide (5228 ≤ conn.dstPort) && decide (conn.dstPort ≤ 5230)) ||
  (app.uid == 1000 && (conn.dstPort == 2195 || conn.dstPort == 2196 || conn.dstPort == 5223))

end PcapdroidFormal.Register
