import Mathlib.Data.List.Infix
import PcapdroidFormal.Register.Connections

/-!
# The adapter of the connections list

`ConnectionsAdapter` listens to the register.  With a filter it keeps a view of
its own: the connections that match, and the position of each of them in the view,
shifted by the number of items that left the view at its front.  A reference to a
connection is given by its identifier, which never changes.
-/

namespace PcapdroidFormal.Register

open Foundation

/-! ## Filters -/

/-- The visualization mask. -/
structure Mask where
  isEmpty : Bool
  matchesConn : ConnectionDescriptor → Bool

structure FilterDescriptor where
  status : Status
  showMasked : Bool
  onlyBlacklisted : Bool
  onlyCleartext : Bool
  filteringStatus : FilteringStatus
  decStatus : DecryptionStatus
  iface : Option String
  uid : Int32

namespace FilterDescriptor

/-- The constructor. -/
def new : FilterDescriptor := ⟨.invalid, true, false, false, .invalid, .invalid, none, -2⟩

def isSet (mask : Mask) (filter : FilterDescriptor) : Bool :=
  filter.status != .invalid || filter.decStatus != .invalid ||
  filter.filteringStatus != .invalid || filter.iface.isSome || filter.onlyBlacklisted ||
  filter.onlyCleartext || filter.uid != -2 || (!filter.showMasked && !mask.isEmpty)

def matchesConn (platform : Platform) (mask : Mask) (filter : FilterDescriptor)
    (conn : ConnectionDescriptor) : Bool :=
  (filter.showMasked || !mask.matchesConn conn) &&
  (!filter.onlyBlacklisted || conn.isBlacklisted) &&
  (!filter.onlyCleartext || conn.isCleartext) &&
  (filter.status == .invalid || conn.getStatus == filter.status) &&
  (filter.decStatus == .invalid || conn.getDecryptionStatus == filter.decStatus) &&
  (filter.filteringStatus == .invalid || (filter.filteringStatus == .blocked) == conn.isBlocked) &&
  (match filter.iface with
    | none => true
    | some iface => platform.getInterfaceName conn.ifidx == iface) &&
  (filter.uid == -2 || filter.uid == conn.uid)

end FilterDescriptor

def textContains (text part : String) : Bool := decide (part.toList <:+: text.toList)

/-- `AppDescriptor.matches` with the exact package name. -/
def AppDescriptor.matchesText (platform : Platform) (app : AppDescriptor) (filter : String) :
    Bool :=
  textContains (platform.toLowerCase app.name) filter ||
  platform.toLowerCase app.packageName == filter

def ConnectionDescriptor.matchesText (platform : Platform) (conn : ConnectionDescriptor)
    (search : String) : Bool :=
  let filter := platform.toLowerCase search
  (match conn.info with
    | none => false
    | some info => textContains info filter) ||
  textContains conn.dstIp filter ||
  platform.toLowerCase conn.l7proto == filter ||
  toString conn.uid.toInt == filter ||
  textContains (toString conn.dstPort.toInt) filter ||
  toString conn.srcPort.toInt == filter ||
  (match platform.getAppByUid conn.uid with
    | none => false
    | some app => app.matchesText platform filter)

/-- What decides on the view: `mFilter` and `mSearch`. -/
structure Selection where
  filter : FilterDescriptor
  search : Option String

def Selection.hasFilter (mask : Mask) (selection : Selection) : Bool :=
  selection.search.isSome || selection.filter.isSet mask

def Selection.matchesConn (platform : Platform) (mask : Mask) (selection : Selection)
    (conn : ConnectionDescriptor) : Bool :=
  selection.filter.matchesConn platform mask conn &&
  (match selection.search with
    | none => true
    | some search => conn.matchesText platform search)

/-! ## The adapter -/

/-- The notifications for the observers of the list. -/
inductive Notification where
  | itemRangeInserted (start count : Int32)
  | itemRangeRemoved (start count : Int32)
  | itemRemoved (pos : Int32)
  | itemChanged (pos : Int32)
  | dataSetChanged
  deriving DecidableEq, Repr

/-- `notified` are the notifications so far, each with the view at that time. -/
structure ConnectionsAdapter where
  unfilteredItemsCount : Int32
  numRemovedItems : Int32
  idToFilteredPos : Int32 → Option Int32
  filteredConn : Option (List Int32)
  notified : List (Notification × List Int32)

namespace ConnectionsAdapter

def new : ConnectionsAdapter := ⟨0, 0, fun _ => none, none, []⟩

variable (matchesConn : ConnectionDescriptor → Bool) (adapter : ConnectionsAdapter)

/-- The items of `mFilteredConn`. -/
def view : List Int32 := adapter.filteredConn.getD []

def notify (notification : Notification) : ConnectionsAdapter :=
  { adapter with notified := adapter.notified ++ [(notification, adapter.view)] }

def getItem (pos : Int32) : Option Int32 :=
  if pos < 0 then none else adapter.view[pos.toNatClampNeg]?

def getFilteredItemPos (incrId : Int32) : Int32 :=
  let pos := (adapter.idToFilteredPos incrId).getD (-1)
  if pos = -1 then -1 else pos - adapter.numRemovedItems

def removeFilteredItemAt (pos : Int32) : ConnectionsAdapter :=
  match adapter.getItem pos with
  | none => adapter
  | some item =>
    { adapter with
      filteredConn := some (adapter.view.eraseIdx pos.toNatClampNeg)
      idToFilteredPos := Function.update adapter.idToFilteredPos item none }.notify
        (.itemRemoved pos)

/-- The loop of `fixFilteredPositions` over the items from a position on. -/
def fixPositions (numRemovedItems : Int32) (pos : Int32) (positions : Int32 → Option Int32) :
    List Int32 → Int32 → Option Int32
  | [] => positions
  | item :: items =>
    fixPositions numRemovedItems (pos + 1)
      (Function.update positions item (some (pos + numRemovedItems))) items

def fixFilteredPositions (startPos : Int32) : ConnectionsAdapter :=
  { adapter with
    idToFilteredPos := fixPositions adapter.numRemovedItems startPos adapter.idToFilteredPos
      (adapter.view.drop startPos.toNatClampNeg) }

/-- Put a connection at the end of the view. -/
def appendFiltered (pos : Int32) (conn : ConnectionDescriptor) : ConnectionsAdapter :=
  { adapter with
    idToFilteredPos := Function.update adapter.idToFilteredPos conn.incrId (some pos)
    filteredConn := some (adapter.view ++ [conn.incrId]) }

/-- The loop of `connectionsAdded`, which also counts the new items. -/
def addMatching (adapter : ConnectionsAdapter) (pos numNew : Int32) :
    List ConnectionDescriptor → ConnectionsAdapter × Int32
  | [] => (adapter, numNew)
  | conn :: conns =>
    if matchesConn conn then
      addMatching (adapter.appendFiltered pos conn) (pos + 1) (numNew + 1) conns
    else addMatching adapter pos numNew conns

def connectionsAdded (start : Int32) (conns : List ConnectionDescriptor) : ConnectionsAdapter :=
  let adapter := { adapter with
    unfilteredItemsCount := adapter.unfilteredItemsCount + Int32.ofNat conns.length }
  if adapter.filteredConn.isNone then
    adapter.notify (.itemRangeInserted start (Int32.ofNat conns.length))
  else
    let (adapter, numNew) := adapter.addMatching matchesConn
      (adapter.numRemovedItems + Int32.ofNat adapter.view.length) 0 conns
    if 0 < numNew then
      adapter.notify (.itemRangeInserted (Int32.ofNat adapter.view.length - numNew) numNew)
    else adapter

/-- The body of the loop of `connectionsRemoved`. -/
def removeConnection (conn : Option ConnectionDescriptor) : ConnectionsAdapter :=
  match conn with
  | none => adapter
  | some conn =>
    if adapter.getFilteredItemPos conn.incrId = -1 then adapter
    else
      { adapter.removeFilteredItemAt 0 with
        numRemovedItems := (adapter.removeFilteredItemAt 0).numRemovedItems + 1 }

def connectionsRemoved (start : Int32) (conns : List (Option ConnectionDescriptor)) :
    ConnectionsAdapter :=
  let adapter := { adapter with
    unfilteredItemsCount := adapter.unfilteredItemsCount - Int32.ofNat conns.length }
  if adapter.filteredConn.isNone then
    adapter.notify (.itemRangeRemoved start (Int32.ofNat conns.length))
  else conns.foldl removeConnection adapter

structure UpdateLoop where
  adapter : ConnectionsAdapter
  firstRemovedPos : Int32
  numJustRemoved : Int32

def UpdateLoop.visit (loop : UpdateLoop) (conn : ConnectionDescriptor) : UpdateLoop :=
  let pos := loop.adapter.getFilteredItemPos conn.incrId
  if pos = -1 then loop
  else
    let pos := pos - loop.numJustRemoved
    if matchesConn conn then { loop with adapter := loop.adapter.notify (.itemChanged pos) }
    else
      { adapter := loop.adapter.removeFilteredItemAt pos
        firstRemovedPos := if loop.firstRemovedPos = -1 then pos else loop.firstRemovedPos
        numJustRemoved := loop.numJustRemoved + 1 }

def updatePositions (reg : ConnectionsRegister) (loop : UpdateLoop) :
    List Int32 → Option UpdateLoop
  | [] => some loop
  | regPos :: positions => do
      let conn ← reg.getConn regPos
      match conn with
      | none => updatePositions reg loop positions
      | some conn => updatePositions reg (loop.visit matchesConn conn) positions

/-- `connectionsUpdated`; with a filter the positions are sorted first. -/
def connectionsUpdated (reg : ConnectionsRegister) (positions : List Int32) :
    Option ConnectionsAdapter :=
  if adapter.filteredConn.isNone then
    some (positions.foldl (fun adapter pos => adapter.notify (.itemChanged pos)) adapter)
  else do
    let loop ← updatePositions matchesConn reg ⟨adapter, -1, 0⟩
      (positions.mergeSort fun first second => decide (first ≤ second))
    some (if loop.firstRemovedPos = -1 then loop.adapter
      else loop.adapter.fixFilteredPositions loop.firstRemovedPos)

/-- The loop of `refreshFilteredConnections` over the positions of the register. -/
def collectMatching (reg : ConnectionsRegister) (adapter : ConnectionsAdapter) (pos : Int32) :
    List Nat → Option ConnectionsAdapter
  | [] => some adapter
  | i :: others => do
      let conn ← reg.getConn (Int32.ofNat i)
      match conn with
      | none => collectMatching reg adapter pos others
      | some conn =>
        if matchesConn conn then
          collectMatching reg (adapter.appendFiltered pos conn) (pos + 1) others
        else collectMatching reg adapter pos others

def refreshFilteredConnections (hasFilter : Bool) (reg : ConnectionsRegister) :
    Option ConnectionsAdapter := do
  let adapter := { adapter with idToFilteredPos := fun _ => none, numRemovedItems := 0 }
  let adapter ←
    if hasFilter then
      collectMatching matchesConn reg { adapter with filteredConn := some [] } 0
        (List.range adapter.unfilteredItemsCount.toNatClampNeg)
    else some { adapter with filteredConn := none }
  some (adapter.notify .dataSetChanged)

def connectionsChanges (hasFilter : Bool) (reg : ConnectionsRegister) (numConnections : Int32) :
    Option ConnectionsAdapter :=
  { adapter with unfilteredItemsCount := numConnections }.refreshFilteredConnections matchesConn
    hasFilter reg

def handle (reg : ConnectionsRegister) (adapter : ConnectionsAdapter) :
    ListenerCall → Option ConnectionsAdapter
  | .connectionsRemoved start conns => some (adapter.connectionsRemoved start conns)
  | .connectionsAdded start conns => some (adapter.connectionsAdded matchesConn start conns)
  | .connectionsUpdated positions => adapter.connectionsUpdated matchesConn reg positions

end ConnectionsAdapter

/-! ## Synchronous delivery -/

structure Listening where
  reg : ConnectionsRegister
  adapter : ConnectionsAdapter

/-- `addListener` on a new register. -/
def startListening (matchesConn : ConnectionDescriptor → Bool) (hasFilter : Bool) (size : Int32) :
    Option Listening := do
  let reg := ConnectionsRegister.new size
  let adapter ← ConnectionsAdapter.new.connectionsChanges matchesConn hasFilter reg reg.curItems
  some ⟨reg, adapter⟩

/-- A call of the capture thread, during which the listener is called. -/
def Listening.perform (platform : Platform) (matchesConn : ConnectionDescriptor → Bool)
    (listening : Listening) (call : RegisterCall) : Option Listening := do
  let (reg, calls) ← call.perform platform listening.reg
  let adapter ← calls.foldlM (ConnectionsAdapter.handle matchesConn reg) listening.adapter
  some ⟨reg, adapter⟩

def Listening.performAll (platform : Platform) (matchesConn : ConnectionDescriptor → Bool)
    (listening : Listening) (calls : List RegisterCall) : Option Listening :=
  calls.foldlM (Listening.perform platform matchesConn) listening

end PcapdroidFormal.Register
