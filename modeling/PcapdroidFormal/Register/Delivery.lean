import PcapdroidFormal.Foundation.Runs
import PcapdroidFormal.Register.Adapter

/-!
# Delivery through the handler

`ConnectionsFragment` posts the calls of the register to the handler of the UI
thread, which runs them later and in their order.  Between two of them the user may
change the filter.  A posted call refers to connections and to positions in the
register; what it finds there is read when it runs, one connection after the other,
while the capture thread goes on.
-/

namespace PcapdroidFormal.Register

open Foundation

namespace ConnectionsAdapter

variable {found : List (Option ConnectionDescriptor)} {positions : List Int32}

def visitOrder (positions : List Int32) : List Int32 :=
  positions.mergeSort fun first second => decide (first ≤ second)

theorem mem_visitOrder {pos : Int32} : pos ∈ visitOrder positions ↔ pos ∈ positions :=
  List.mem_mergeSort

theorem visitOrder_sorted : (visitOrder positions).Pairwise (· ≤ ·) :=
  pairwise_mergeSort_le positions

variable (matchesConn : ConnectionDescriptor → Bool) (adapter : ConnectionsAdapter)

def UpdateLoop.visitFound (loop : UpdateLoop) : Option ConnectionDescriptor → UpdateLoop
  | none => loop
  | some conn => loop.visit matchesConn conn

def UpdateLoop.finish (loop : UpdateLoop) : ConnectionsAdapter :=
  if loop.firstRemovedPos = -1 then loop.adapter
  else loop.adapter.fixFilteredPositions loop.firstRemovedPos

def visitFound (positions : List Int32) (found : List (Option ConnectionDescriptor)) :
    ConnectionsAdapter :=
  if adapter.filteredConn.isNone then
    positions.foldl (fun adapter pos => adapter.notify (.itemChanged pos)) adapter
  else (found.foldl (UpdateLoop.visitFound matchesConn) ⟨adapter, -1, 0⟩).finish

theorem updatePositions_of_found (reg : ConnectionsRegister) (loop : UpdateLoop)
    (read : positions.mapM reg.getConn = some found) :
    updatePositions matchesConn reg loop positions =
      some (found.foldl (UpdateLoop.visitFound matchesConn) loop) := by
  induction positions generalizing loop found with
  | nil =>
    obtain rfl := Option.some.inj read
    rfl
  | cons pos positions ih =>
    rw [List.mapM_cons] at read
    obtain ⟨conn, here, read⟩ := Option.bind_eq_some_iff.mp read
    obtain ⟨others, there, same⟩ := Option.bind_eq_some_iff.mp read
    obtain rfl := Option.some.inj same
    rw [updatePositions, here]
    cases conn with
    | none =>
      have rest := ih loop there
      exact rest
    | some conn =>
      have rest := ih (loop.visit matchesConn conn) there
      exact rest

/-- When nothing comes in between, the handler is the one of the adapter. -/
theorem connectionsUpdated_of_found (reg : ConnectionsRegister)
    (read : (visitOrder positions).mapM reg.getConn = some found) :
    adapter.connectionsUpdated matchesConn reg positions =
      some (adapter.visitFound matchesConn positions found) := by
  rw [connectionsUpdated, visitFound]
  split
  next => rfl
  next =>
    have visited := updatePositions_of_found matchesConn reg ⟨adapter, -1, 0⟩ read
    rw [visitOrder] at visited
    rw [visited]
    rfl

end ConnectionsAdapter

/-- A slot of the register refers to a connection, so all those who refer to it see the same
contents. -/
def ConnectionsRegister.share (reg : ConnectionsRegister)
    (objects : Int32 → Option ConnectionDescriptor) : Int32 → Option ConnectionDescriptor :=
  (List.range reg.curItems.toNatClampNeg).foldl (fun objects i =>
    match reg.getConn (.ofNat i) with
    | some (some conn) => Function.update objects conn.incrId (some conn)
    | _ => objects) objects

/-- The capture thread has the register, the UI thread the adapter; `queue` are the calls that
were posted, and `found` is what the call at its head has read up to now.  The notifications are
kept since the last refresh. -/
structure Delivery where
  reg : ConnectionsRegister
  objects : Int32 → Option ConnectionDescriptor
  queue : List ListenerCall
  found : List (Option ConnectionDescriptor)
  mask : Mask
  selection : Selection
  adapter : ConnectionsAdapter

/-- The steps of the two threads.  `refresh` is `setSearch`, or a change of the filter or of the
mask, with `refreshFilteredConnections`. -/
inductive DeliveryStep where
  | capture (call : RegisterCall)
  | read
  | handle
  | refresh (mask : Mask) (selection : Selection)

namespace Delivery

variable (platform : Platform) (delivery : Delivery)

/-- `matches` of the adapter. -/
def matchesConn : ConnectionDescriptor → Bool :=
  delivery.selection.matchesConn platform delivery.mask

def hasFilter : Bool := delivery.selection.hasFilter delivery.mask

/-- A call of `connUpdateWork`.  The two calls for one item are made in one critical section;
here the UI thread may also run between them. -/
def capture (call : RegisterCall) : Option Delivery := do
  let (reg, calls) ← call.perform platform delivery.reg
  some { delivery with
    reg := reg
    objects := reg.share delivery.objects
    queue := delivery.queue ++ calls }

/-- The call at the head of the queue reads the next connection. -/
def read : Option Delivery :=
  match delivery.queue with
  | .connectionsAdded _ conns :: _ => do
      let conn ← conns[delivery.found.length]?
      let contents ← delivery.objects conn.incrId
      some { delivery with found := delivery.found ++ [some contents] }
  | .connectionsUpdated positions :: _ => do
      let pos ← (ConnectionsAdapter.visitOrder positions)[delivery.found.length]?
      let conn ← delivery.reg.getConn pos
      some { delivery with found := delivery.found ++ [conn] }
  | _ => none

/-- The call at the head of the queue ends, once it has read everything. -/
def handle : Option Delivery :=
  match delivery.queue with
  | .connectionsRemoved start conns :: queue =>
    some { delivery with
      queue := queue
      adapter := delivery.adapter.connectionsRemoved start conns }
  | .connectionsAdded start conns :: queue =>
    if delivery.found.length = conns.length then
      some { delivery with
        queue := queue
        found := []
        adapter := delivery.adapter.connectionsAdded (delivery.matchesConn platform) start
          (delivery.found.filterMap id) }
    else none
  | .connectionsUpdated positions :: queue =>
    if delivery.found.length = positions.length then
      some { delivery with
        queue := queue
        found := []
        adapter := delivery.adapter.visitFound (delivery.matchesConn platform) positions
          delivery.found }
    else none
  | [] => none

/-- The user changes the filter, which is not possible while a call runs. -/
def refresh (mask : Mask) (selection : Selection) : Option Delivery :=
  if delivery.found = [] then do
    let adapter ← { delivery.adapter with notified := [] }.refreshFilteredConnections
      (selection.matchesConn platform mask) (selection.hasFilter mask) delivery.reg
    some { delivery with mask := mask, selection := selection, adapter := adapter }
  else none

def step : DeliveryStep → Option Delivery
  | .capture call => delivery.capture platform call
  | .read => delivery.read
  | .handle => delivery.handle platform
  | .refresh mask selection => delivery.refresh platform mask selection

/-- The fragment is shown before the capture starts. -/
def start (mask : Mask) (selection : Selection) (size : Int32) : Option Delivery := do
  let listening ← startListening (selection.matchesConn platform mask) (selection.hasFilter mask)
    size
  some ⟨listening.reg, fun _ => none, [], [], mask, selection, listening.adapter⟩

end Delivery

end PcapdroidFormal.Register
