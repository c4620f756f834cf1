import PcapdroidFormal.Register.Delivery
import PcapdroidFormal.Register.FilteredView

/-!
# What the posted calls stand for

The adapter knows the connections that it was told about; the posted calls turn
these into the connections of the register.  Each handler is described by what it
does to the view, given the contents that it has found.
-/

namespace PcapdroidFormal.Register

open Foundation

variable {conn : ConnectionDescriptor} {id : Int32} {objects : Int32 → Option ConnectionDescriptor}
  {conns : List ConnectionDescriptor}

/-! ## Contents -/

def putContents (objects : Int32 → Option ConnectionDescriptor) (conn : ConnectionDescriptor) :
    Int32 → Option ConnectionDescriptor :=
  Function.update objects conn.incrId (some conn)

theorem putAll_of_not_mem (absent : id ∉ conns.map (·.incrId)) :
    conns.foldl putContents objects id = objects id := by
  induction conns generalizing objects with
  | nil => rfl
  | cons conn conns ih =>
    rw [List.map_cons, List.mem_cons, not_or] at absent
    rw [List.foldl_cons, ih absent.2]
    exact Function.update_of_ne absent.1 _ _

theorem putAll_of_mem (nodup : (conns.map (·.incrId)).Nodup) (member : conn ∈ conns) :
    conns.foldl putContents objects conn.incrId = some conn := by
  induction conns generalizing objects with
  | nil => cases member
  | cons first conns ih =>
    obtain ⟨absent, distinct⟩ := List.nodup_cons.mp nodup
    rw [List.foldl_cons]
    rcases List.mem_cons.mp member with rfl | later
    · rw [putAll_of_not_mem absent]
      exact Function.update_self ..
    · exact ih distinct later

/-- A connection has the contents that were put, or those it had before. -/
theorem putAll_cases (nodup : (conns.map (·.incrId)).Nodup)
    (objects : Int32 → Option ConnectionDescriptor) (id : Int32) :
    (∃ conn ∈ conns, conn.incrId = id ∧ conns.foldl putContents objects id = some conn) ∨
      conns.foldl putContents objects id = objects id := by
  by_cases member : id ∈ conns.map (·.incrId)
  · obtain ⟨conn, here, rfl⟩ := List.mem_map.mp member
    exact .inl ⟨conn, here, rfl, putAll_of_mem nodup here⟩
  · exact .inr (putAll_of_not_mem member)

/-- Contents stay under the identifier of their connection. -/
theorem putAll_named (nodup : (conns.map (·.incrId)).Nodup) {ids : List Int32}
    (listed : ∀ conn ∈ conns, conn.incrId ∈ ids)
    (named : ∀ id conn, objects id = some conn → conn.incrId = id ∧ id ∈ ids) (id : Int32)
    (conn : ConnectionDescriptor) (put : conns.foldl putContents objects id = some conn) :
    conn.incrId = id ∧ id ∈ ids := by
  rcases putAll_cases nodup objects id with ⟨other, member, rfl, here⟩ | same
  · grind
  · exact named id conn (same.symm.trans put)

/-- Contents that are not put again are kept. -/
theorem putAll_kept (nodup : (conns.map (·.incrId)).Nodup) (here : objects id = some conn)
    (same : ∀ other ∈ conns, other.incrId = id → other = conn) :
    conns.foldl putContents objects id = some conn := by
  rcases putAll_cases nodup objects id with ⟨other, member, named, put⟩ | old
  · grind
  · exact old.trans here

theorem exists_putAll (nodup : (conns.map (·.incrId)).Nodup) (here : objects id = some conn) :
    ∃ contents, conns.foldl putContents objects id = some contents := by
  rcases putAll_cases nodup objects id with ⟨other, -, -, put⟩ | old
  · exact ⟨other, put⟩
  · exact ⟨conn, old.trans here⟩

namespace ConnectionsRegister

variable {reg : ConnectionsRegister} {start : Nat} {conns window : List ConnectionDescriptor}

theorem share_eq (lists : reg.Lists 0 window) (count : IsNat reg.curItems window.length)
    (objects : Int32 → Option ConnectionDescriptor) :
    reg.share objects = window.foldl putContents objects := by
  rw [share, count.toNat, List.range_eq_range']
  apply lists.foldl_range
  intro objects index conn found
  rw [found]
  rfl

end ConnectionsRegister

/-! ## Refreshing -/

namespace ConnectionsAdapter

variable {adapter : ConnectionsAdapter} {reg : ConnectionsRegister}
  {matchesConn : ConnectionDescriptor → Bool}

theorem collectMatching_eq (conns : List ConnectionDescriptor) {start : Nat}
    (lists : reg.Lists start conns) (adapter : ConnectionsAdapter) (pos numNew : Int32) :
    collectMatching matchesConn reg adapter pos (List.range' start conns.length) =
      some (adapter.addMatching matchesConn pos numNew conns).1 := by
  induction conns generalizing start adapter pos numNew with
  | nil => rfl
  | cons conn conns ih =>
    rw [List.length_cons, List.range'_succ, collectMatching, lists.head, addMatching]
    simp only [Option.bind_eq_bind, Option.bind_some]
    split
    next => exact ih lists.tail _ _ _
    next => exact ih lists.tail _ _ _

@[simp] theorem notify_unfilteredItemsCount (adapter : ConnectionsAdapter)
    (notification : Notification) :
    (adapter.notify notification).unfilteredItemsCount = adapter.unfilteredItemsCount := rfl

theorem addMatching_unfilteredItemsCount (adapter : ConnectionsAdapter) (pos numNew : Int32)
    (conns : List ConnectionDescriptor) :
    (adapter.addMatching matchesConn pos numNew conns).1.unfilteredItemsCount =
      adapter.unfilteredItemsCount := by
  induction conns generalizing adapter pos numNew with
  | nil => rfl
  | cons conn conns ih =>
    rw [addMatching]
    split
    next => exact ih _ _ _
    next => exact ih _ _ _

/-- A refresh with a filter shows the connections of the register that match, as many as the
adapter was told about. -/
theorem refresh_filtered (lists : reg.Lists 0 conns)
    (counted : IsNat adapter.unfilteredItemsCount conns.length)
    (nodup : (conns.map (·.incrId)).Nodup) :
    ∃ after, { adapter with notified := [] }.refreshFilteredConnections matchesConn true reg =
        some after ∧
      after.Mirrors ((conns.filter matchesConn).map (·.incrId)) 0 ∧
      after.unfilteredItemsCount = adapter.unfilteredItemsCount := by
  have fresh : ({ adapter with
      notified := []
      idToFilteredPos := fun _ => none
      numRemovedItems := 0
      filteredConn := some [] } : ConnectionsAdapter).Indexed [] 0 :=
    ⟨rfl, rfl, Stores.nil, fun _ => rfl⟩
  obtain ⟨after, added, indexed, silent⟩ := fresh.addMatching matchesConn conns 0
    (by rwa [List.nil_append])
  have count := congrArg (fun result => result.1.unfilteredItemsCount) added
  rw [List.nil_append] at indexed
  refine ⟨after.notify .dataSetChanged, ?_,
    ⟨⟨indexed.filtered, indexed.numRemoved, indexed.stores, indexed.others⟩, ?_⟩, ?_⟩
  · rw [refreshFilteredConnections]
    simp only [counted.toNat, List.range_eq_range', if_true]
    rw [collectMatching_eq conns lists _ 0 0]
    simp only [Option.bind_eq_bind, Option.bind_some]
    exact congrArg (fun result => some (result.1.notify .dataSetChanged)) added
  · have replayed : replayAll [] after.notified = some [] := by rw [silent]; rfl
    rw [notify, view_of_filtered indexed.filtered]
    exact replayAll_snoc replayed rfl
  · rw [notify_unfilteredItemsCount, ← count, addMatching_unfilteredItemsCount]

variable (adapter : ConnectionsAdapter) (start : Int32) (positions : List Int32)

theorem refresh_unfiltered (reg : ConnectionsRegister) :
    ∃ after, { adapter with notified := [] }.refreshFilteredConnections matchesConn false reg =
        some after ∧ after.filteredConn = none ∧
      after.unfilteredItemsCount = adapter.unfilteredItemsCount := ⟨_, rfl, rfl, rfl⟩

/-! ## What the handlers count -/

theorem connectionsAdded_unfilteredItemsCount (conns : List ConnectionDescriptor) :
    (adapter.connectionsAdded matchesConn start conns).unfilteredItemsCount =
      adapter.unfilteredItemsCount + .ofNat conns.length := by
  simp only [connectionsAdded]
  split
  next => rfl
  next =>
    generalize ({ adapter with
      unfilteredItemsCount := adapter.unfilteredItemsCount + Int32.ofNat conns.length } :
        ConnectionsAdapter).view = view
    have count := @addMatching_unfilteredItemsCount matchesConn { adapter with
      unfilteredItemsCount := adapter.unfilteredItemsCount + Int32.ofNat conns.length }
      (adapter.numRemovedItems + Int32.ofNat view.length) 0 conns
    split
    next => exact count
    next => exact count

theorem removeFilteredItemAt_unfilteredItemsCount (pos : Int32) :
    (adapter.removeFilteredItemAt pos).unfilteredItemsCount = adapter.unfilteredItemsCount := by
  rw [removeFilteredItemAt]
  split <;> rfl

theorem connectionsRemoved_unfilteredItemsCount (conns : List (Option ConnectionDescriptor)) :
    (adapter.connectionsRemoved start conns).unfilteredItemsCount =
      adapter.unfilteredItemsCount - .ofNat conns.length := by
  have one (adapter : ConnectionsAdapter) (conn : Option ConnectionDescriptor) :
      (adapter.removeConnection conn).unfilteredItemsCount = adapter.unfilteredItemsCount := by
    cases conn with
    | none => rfl
    | some conn =>
      rw [removeConnection]
      split
      next => rfl
      next => exact removeFilteredItemAt_unfilteredItemsCount adapter 0
  have all (adapter : ConnectionsAdapter) :
      (conns.foldl removeConnection adapter).unfilteredItemsCount =
        adapter.unfilteredItemsCount := by
    induction conns generalizing adapter with
    | nil => rfl
    | cons conn conns ih => exact (ih _).trans (one adapter conn)
  rw [connectionsRemoved]
  split
  next => rfl
  next => exact all _

theorem notifyAll_fields :
    (positions.foldl (fun adapter pos => adapter.notify (.itemChanged pos))
        adapter).unfilteredItemsCount = adapter.unfilteredItemsCount ∧
    (positions.foldl (fun adapter pos => adapter.notify (.itemChanged pos)) adapter).filteredConn =
      adapter.filteredConn := by
  induction positions generalizing adapter with
  | nil => exact ⟨rfl, rfl⟩
  | cons pos positions ih => exact ih (adapter.notify (.itemChanged pos))

theorem visitFound_unfilteredItemsCount (found : List (Option ConnectionDescriptor)) :
    (adapter.visitFound matchesConn positions found).unfilteredItemsCount =
      adapter.unfilteredItemsCount := by
  have one (loop : UpdateLoop) (conn : Option ConnectionDescriptor) :
      (loop.visitFound matchesConn conn).adapter.unfilteredItemsCount =
        loop.adapter.unfilteredItemsCount := by
    cases conn with
    | none => rfl
    | some conn =>
      rw [UpdateLoop.visitFound, UpdateLoop.visit]
      split
      next => rfl
      next =>
        split
        next => rfl
        next => exact removeFilteredItemAt_unfilteredItemsCount _ _
  have all (loop : UpdateLoop) :
      (found.foldl (UpdateLoop.visitFound matchesConn) loop).adapter.unfilteredItemsCount =
        loop.adapter.unfilteredItemsCount := by
    induction found generalizing loop with
    | nil => rfl
    | cons conn found ih => exact (ih _).trans (one loop conn)
  rw [visitFound]
  split
  next => exact (notifyAll_fields adapter positions).1
  next =>
    rw [UpdateLoop.finish]
    split
    next => exact all _
    next => exact all _

end ConnectionsAdapter

/-! ## The queue -/

def ListenerCall.isRemoval : ListenerCall → Bool
  | .connectionsRemoved _ _ => true
  | _ => false

def ListenerCall.isUpdate : ListenerCall → Bool
  | .connectionsUpdated _ => true
  | _ => false

def ListenerCall.added : ListenerCall → List ConnectionDescriptor
  | .connectionsAdded _ conns => conns
  | _ => []

def ListenerCall.positions : ListenerCall → List Int32
  | .connectionsUpdated positions => positions
  | _ => []

/-- The posted calls turn the connections that the adapter knows into those of the register. -/
inductive Delivers (slots : Nat) : List Int32 → List ListenerCall → List Int32 → Prop
  | done (window : List Int32) : Delivers slots window [] window
  | removed {start : Int32} {gone : List ConnectionDescriptor} {rest window : List Int32}
      {queue : List ListenerCall} (others : Delivers slots rest queue window) :
      Delivers slots (gone.map (·.incrId) ++ rest)
        (.connectionsRemoved start (gone.map some) :: queue) window
  | added {start : Int32} {conns : List ConnectionDescriptor} {known window : List Int32}
      {queue : List ListenerCall} (fits : known.length + conns.length ≤ slots)
      (others : Delivers slots (known ++ conns.map (·.incrId)) queue window) :
      Delivers slots known (.connectionsAdded start conns :: queue) window
  | updated {positions : List Int32} {known window : List Int32} {queue : List ListenerCall}
      (others : Delivers slots known queue window) :
      Delivers slots known (.connectionsUpdated positions :: queue) window

namespace Delivers

variable {slots : Nat} {known window later : List Int32} {queue more : List ListenerCall}

theorem append (first : Delivers slots known queue window)
    (second : Delivers slots window more later) : Delivers slots known (queue ++ more) later := by
  induction first with
  | done => exact second
  | removed _ ih => exact .removed (ih second)
  | added fits _ ih => exact .added fits (ih second)
  | updated _ ih => exact .updated (ih second)

/-- Without removals the adapter knows the first connections of the register. -/
theorem without_removals (delivers : Delivers slots known queue window)
    (none : ∀ call ∈ queue, call.isRemoval = false) :
    window = known ++ (queue.flatMap (·.added)).map (·.incrId) := by
  induction delivers with
  | done => grind
  | removed => cases none _ List.mem_cons_self
  | added fits others ih =>
    rw [ih fun call member => none call (List.mem_cons_of_mem _ member), List.flatMap_cons,
      List.map_append, List.append_assoc]
    rfl
  | updated others ih =>
    rw [ih fun call member => none call (List.mem_cons_of_mem _ member), List.flatMap_cons,
      List.map_append]
    rfl

end Delivers

end PcapdroidFormal.Register
