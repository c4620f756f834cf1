import Mathlib.Logic.Function.Basic
import PcapdroidFormal.Foundation.JavaInt
import PcapdroidFormal.Register.Descriptor

/-!
# The connections register

`ConnectionsRegister` keeps the last connections of a capture in a ring, together
with the statistics of the apps and some counters.  A slot holds a reference, so
it is written with the contents that the connection has at the end of the call.
`none` is an exception: an index outside of the ring, or a null reference.
-/

namespace PcapdroidFormal.Register

open Foundation

structure AppStats where
  uid : Int32
  sentBytes : Int64
  rcvdBytes : Int64
  numConnections : Int32
  numBlockedConnections : Int32
  deriving DecidableEq, Repr

/-- `mAppsStats` and `mConnsByIface` are sparse arrays; `alerts` are the connections that
`notifyBlacklistedConnection` was called with. -/
structure ConnectionsRegister where
  itemsRing : List (Option ConnectionDescriptor)
  tail : Int32
  size : Int32
  curItems : Int32
  untrackedItems : Int32
  numMalicious : Int32
  numBlocked : Int32
  lastFirewallBlock : Int64
  appsStats : Int32 → Option AppStats
  connsByIface : Int32 → Option Int32
  alerts : List Int32

inductive ListenerCall where
  | connectionsRemoved (start : Int32) (conns : List (Option ConnectionDescriptor))
  | connectionsAdded (start : Int32) (conns : List ConnectionDescriptor)
  | connectionsUpdated (positions : List Int32)

namespace ConnectionsRegister

/-- The constructor; a negative size throws. -/
def new (size : Int32) : ConnectionsRegister where
  itemsRing := List.replicate size.toNatClampNeg none
  tail := 0
  size := size
  curItems := 0
  untrackedItems := 0
  numMalicious := 0
  numBlocked := 0
  lastFirewallBlock := 0
  appsStats _ := none
  connsByIface _ := none
  alerts := []

variable (reg : ConnectionsRegister)

/-- The position in the ring of the oldest connection. -/
def firstPos : Int32 := if reg.curItems < reg.size then 0 else reg.tail

/-- The position in the ring of the newest connection. -/
def lastPos : Int32 := (reg.tail - 1 + reg.size) % reg.size

/-! ## Statistics and counters -/

def getAppsStatsOrCreate (uid : Int32) : AppStats := (reg.appsStats uid).getD ⟨uid, 0, 0, 0, 0⟩

def putAppStats (stats : AppStats) : ConnectionsRegister :=
  { reg with appsStats := Function.update reg.appsStats stats.uid (some stats) }

/-- The first part of `processConnectionStatus`. -/
def processBlacklisted (conn : ConnectionDescriptor) :
    ConnectionsRegister × ConnectionDescriptor :=
  if !conn.alerted && conn.isBlacklisted then
    ({ reg with numMalicious := reg.numMalicious + 1, alerts := reg.alerts ++ [conn.incrId] },
      { conn with alerted := true })
  else if conn.alerted && !conn.isBlacklisted then
    ({ reg with numMalicious := reg.numMalicious - 1 }, { conn with alerted := false })
  else (reg, conn)

/-- The second part of `processConnectionStatus`. -/
def processBlocked (conn : ConnectionDescriptor) (stats : AppStats) :
    ConnectionsRegister × ConnectionDescriptor × AppStats :=
  if !conn.blockAccounted && conn.isBlocked then
    ({ reg with numBlocked := reg.numBlocked + 1 }, { conn with blockAccounted := true },
      { stats with numBlockedConnections := stats.numBlockedConnections + 1 })
  else if conn.blockAccounted && !conn.isBlocked then
    ({ reg with numBlocked := reg.numBlocked - 1 }, { conn with blockAccounted := false },
      { stats with numBlockedConnections := stats.numBlockedConnections - 1 })
  else (reg, conn, stats)

def processConnectionStatus (conn : ConnectionDescriptor) (stats : AppStats) :
    ConnectionsRegister × ConnectionDescriptor × AppStats :=
  let (reg, conn) := reg.processBlacklisted conn
  let (reg, conn, stats) := reg.processBlocked conn stats
  if conn.isBlocked then
    ({ reg with lastFirewallBlock := max conn.lastSeen reg.lastFirewallBlock }, conn, stats)
  else (reg, conn, stats)

/-- The counters when a connection leaves the ring. -/
def forgetConnection (conn : ConnectionDescriptor) : ConnectionsRegister :=
  let reg :=
    if 0 < conn.ifidx then
      let numConn := (reg.connsByIface conn.ifidx).getD 0 - 1
      { reg with
        connsByIface := Function.update reg.connsByIface conn.ifidx
          (if numConn ≤ 0 then none else some numConn) }
    else reg
  if conn.isBlacklisted then { reg with numMalicious := reg.numMalicious - 1 } else reg

/-- The counters when a connection enters the ring. -/
def countInterface (conn : ConnectionDescriptor) : ConnectionsRegister :=
  if 0 < conn.ifidx then
    { reg with
      connsByIface := Function.update reg.connsByIface conn.ifidx
        (some ((reg.connsByIface conn.ifidx).getD 0 + 1)) }
  else reg

/-! ## New connections -/

/-- The loop that collects the connections to be overwritten. -/
def removeOldest (reg : ConnectionsRegister) (pos : Int32) :
    Nat → Option (ConnectionsRegister × List (Option ConnectionDescriptor))
  | 0 => some (reg, [])
  | outItems + 1 => do
      let conn ← loadAt reg.itemsRing pos
      let forgotten := match conn with
        | none => reg
        | some conn => reg.forgetConnection conn
      let (after, removedItems) ← removeOldest forgotten ((pos + 1) % reg.size) outItems
      some (after, conn :: removedItems)

def removeItems (outItems : Int32) :
    Option (ConnectionsRegister × List (Option ConnectionDescriptor)) :=
  if 0 < outItems then reg.removeOldest reg.firstPos outItems.toNatClampNeg else some (reg, [])

/-- What `newConnections` sets in a connection before its status is processed. -/
def locate (platform : Platform) (conn : ConnectionDescriptor) : ConnectionDescriptor :=
  { conn with
    country := platform.getCountryCode conn.dstIp
    asn := platform.getAsn conn.dstIp
    encryptedPayload := match platform.getAppByUid conn.uid with
      | none => conn.encryptedPayload
      | some app => hasEncryptedPayload app conn }

/-- The body of the loop over the new connections. -/
def addConnection (platform : Platform) (conn : ConnectionDescriptor) :
    Option (ConnectionsRegister × ConnectionDescriptor) := do
  let stats := reg.getAppsStatsOrCreate conn.uid
  let (reg, conn, stats) :=
    (reg.countInterface conn).processConnectionStatus (locate platform conn) stats
  let itemsRing ← storeAt reg.itemsRing reg.tail (some conn)
  let reg := { reg with
    itemsRing := itemsRing
    tail := (reg.tail + 1) % reg.size
    curItems := min (reg.curItems + 1) reg.size }
  some (reg.putAppStats { stats with
    numConnections := stats.numConnections + 1
    rcvdBytes := stats.rcvdBytes + conn.rcvdBytes
    sentBytes := stats.sentBytes + conn.sentBytes }, conn)

def addConnections (platform : Platform) (reg : ConnectionsRegister) :
    List ConnectionDescriptor → Option (ConnectionsRegister × List ConnectionDescriptor)
  | [] => some (reg, [])
  | conn :: conns => do
      let (reg, added) ← reg.addConnection platform conn
      let (reg, others) ← addConnections platform reg conns
      some (reg, added :: others)

/-- The part of `newConnections` for a batch that is not larger than the ring. -/
def storeConnections (platform : Platform) (conns : JavaArray ConnectionDescriptor) :
    Option (ConnectionsRegister × List ListenerCall) := do
  let outItems := conns.length - min (reg.size - reg.curItems) conns.length
  let insertPos := reg.curItems
  let (reg, removedItems) ← reg.removeItems outItems
  let (reg, added) ← reg.addConnections platform conns.items
  some ({ reg with untrackedItems := reg.untrackedItems + outItems },
    (if 0 < outItems then [.connectionsRemoved 0 removedItems] else []) ++
    (if 0 < conns.length then [.connectionsAdded (insertPos - outItems) added] else []))

/-- `newConnections` and the calls of each listener; only the most recent connections of an
oversized batch are stored. -/
def newConnections (platform : Platform) (conns : JavaArray ConnectionDescriptor) :
    Option (ConnectionsRegister × List ListenerCall) :=
  if reg.size < conns.length then
    { reg with untrackedItems := reg.untrackedItems + (conns.length - reg.size) }.storeConnections
      platform (conns.copyFrom (conns.length - reg.size).toNatClampNeg)
  else reg.storeConnections platform conns

/-! ## Updates -/

def updateAppStats (conn : ConnectionDescriptor) (update : ConnectionUpdate) : AppStats :=
  let stats := reg.getAppsStatsOrCreate conn.uid
  { stats with
    sentBytes := stats.sentBytes + (update.sentBytes - conn.sentBytes)
    rcvdBytes := stats.rcvdBytes + (update.rcvdBytes - conn.rcvdBytes) }

/-- The body of the loop over the updates, for a connection in the ring. -/
def applyUpdate (isLowMemory : Bool) (pos : Int32) (conn : ConnectionDescriptor)
    (update : ConnectionUpdate) : Option ConnectionsRegister := do
  let stats := reg.updateAppStats conn update
  let (reg, conn, stats) :=
    reg.processConnectionStatus (conn.processUpdate isLowMemory update) stats
  let itemsRing ← storeAt reg.itemsRing pos (some conn)
  some ({ reg with itemsRing := itemsRing }.putAppStats stats)

/-- The loop over the updates; those for untracked items are ignored. -/
def applyUpdates (isLowMemory : Bool) (firstId lastId firstPos : Int32)
    (reg : ConnectionsRegister) :
    List ConnectionUpdate → Option (ConnectionsRegister × List Int32)
  | [] => some (reg, [])
  | update :: updates =>
    if firstId ≤ update.incrId ∧ update.incrId ≤ lastId then do
      let pos := (update.incrId - firstId + firstPos) % reg.size
      let conn ← (loadAt reg.itemsRing pos).join
      let after ← reg.applyUpdate isLowMemory pos conn update
      let (final, changedPos) ←
        applyUpdates isLowMemory firstId lastId firstPos after updates
      some (final, (pos + reg.size - firstPos) % reg.size :: changedPos)
    else applyUpdates isLowMemory firstId lastId firstPos reg updates

def connectionsUpdates (isLowMemory : Bool) (updates : JavaArray ConnectionUpdate) :
    Option (ConnectionsRegister × List ListenerCall) :=
  if reg.curItems = 0 then some (reg, [])
  else do
    let first ← (loadAt reg.itemsRing reg.firstPos).join
    let last ← (loadAt reg.itemsRing reg.lastPos).join
    let (after, changedPos) ←
      applyUpdates isLowMemory first.incrId last.incrId reg.firstPos reg updates.items
    some (after, if changedPos = [] then [] else [.connectionsUpdated changedPos])

/-! ## Getters -/

def getConnCount : Int32 := reg.curItems

def getUntrackedConnCount : Int32 := reg.untrackedItems

/-- The `i`-th oldest connection, or null. -/
def getConn (i : Int32) : Option (Option ConnectionDescriptor) :=
  if i < 0 ∨ reg.curItems ≤ i then some none
  else loadAt reg.itemsRing ((reg.firstPos + i) % reg.size)

def getConnPositionById (incrId : Int32) : Option Int32 :=
  if reg.curItems ≤ 0 then some (-1)
  else do
    let first ← (loadAt reg.itemsRing reg.firstPos).join
    let last ← (loadAt reg.itemsRing reg.lastPos).join
    if incrId < first.incrId ∨ last.incrId < incrId then some (-1)
    else some (incrId - first.incrId)

def getConnById (incrId : Int32) : Option (Option ConnectionDescriptor) := do
  let pos ← reg.getConnPositionById incrId
  if pos < 0 then some none else reg.getConn pos

end ConnectionsRegister

/-- The calls of the capture thread. -/
inductive RegisterCall where
  | newConnections (conns : JavaArray ConnectionDescriptor)
  | connectionsUpdates (isLowMemory : Bool) (updates : JavaArray ConnectionUpdate)

def RegisterCall.perform (platform : Platform) (reg : ConnectionsRegister) :
    RegisterCall → Option (ConnectionsRegister × List ListenerCall)
  | .newConnections conns => reg.newConnections platform conns
  | .connectionsUpdates isLowMemory updates => reg.connectionsUpdates isLowMemory updates

end PcapdroidFormal.Register
