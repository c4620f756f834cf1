import PcapdroidFormal.Firewall.Examined
import PcapdroidFormal.Foundation.Custody
import PcapdroidFormal.Pcap.PacketLoop

/-!
# Who owns a connection

A connection belongs to the hash table, to a queue or to both.  One that is
queued without being in the hash table is purged with the queue, so it is freed
once, when nothing refers to it any more.
-/

namespace PcapdroidFormal.Pcap

open PcapdroidFormal.Core Firewall Foundation
open Vpn (Control applyControl pdRefreshTime countFragment)

/-- The connections of the hash table. -/
def tableConns (pd : Pcapdroid) : List ConnId := pd.connections.map (·.data)

def holdings (pd : Pcapdroid) : Holdings ConnId := ⟨tableConns pd, queuedConns pd, freedConns pd⟩

/-- Every connection has an owner, and its flags tell which.  The connections that a
caller holds may have flags that do not agree yet. -/
structure Owned (held : List ConnId) (pd : Pcapdroid) : Prop where
  custody : Custody (· < pd.newConnId) held (holdings pd)
  pending : ∀ id < pd.newConnId, id ∉ freedConns pd →
    ((pd.conn id).pendingNotification = true ↔ id ∈ queuedConns pd)
  kept : ∀ id ∈ tableConns pd, id ∉ held → (pd.conn id).toPurge = false
  purged : ∀ id ∈ queuedConns pd, id ∉ tableConns pd → id ∉ held → (pd.conn id).toPurge = true
  marked : ∀ id ∈ queuedConns pd, id ∉ held → Marked (pd.conn id)

/-! ## Notifications -/

/-- Flags of connections stay as they are; only this connection may be queued. -/
structure Notified (id : ConnId) (before after : Pcapdroid) : Prop where
  newConnId : after.newConnId = before.newConnId
  connections : after.connections = before.connections
  freed : freedConns after = freedConns before
  toPurge : ∀ other, (after.conn other).toPurge = (before.conn other).toPurge
  marked : ∀ other, Marked (before.conn other) → Marked (after.conn other)
  pending : ∀ other, other ≠ id →
    (after.conn other).pendingNotification = (before.conn other).pendingNotification
  queue : Queueing id before after

namespace Notified

variable {id : ConnId} {first second third : Pcapdroid}

theorem trans (earlier : Notified id first second) (later : Notified id second third) :
    Notified id first third where
  newConnId := later.newConnId.trans earlier.newConnId
  connections := later.connections.trans earlier.connections
  freed := later.freed.trans earlier.freed
  toPurge other := (later.toPurge other).trans (earlier.toPurge other)
  marked other := later.marked other ∘ earlier.marked other
  pending other different := (later.pending other different).trans (earlier.pending other different)
  queue := earlier.queue.trans later.queue

/-- Neither connections nor queues change. -/
theorem of_same (newConnId : second.newConnId = first.newConnId)
    (connections : second.connections = first.connections)
    (freed : freedConns second = freedConns first) (heap : second.heap = first.heap)
    (queue : queuedConns second = queuedConns first) : Notified id first second := by
  have conn (other : ConnId) : second.conn other = first.conn other := congrFun heap other
  refine ⟨newConnId, connections, freed, ?_, ?_, ?_, .kept queue (by rw [conn])⟩
  · intro other
    rw [conn]
  · grind
  · grind

theorem refl (pd : Pcapdroid) : Notified id pd pd := of_same rfl rfl rfl rfl rfl

theorem of_worked (worked : Worked id first second) : Notified id first second where
  newConnId := congrArg CaptureLedger.newConnId worked.ledger
  connections := congrArg CaptureLedger.connections worked.ledger
  freed := by
    have effects : second.effects = first.effects := congrArg CaptureLedger.effects worked.ledger
    unfold freedConns
    rw [effects]
  toPurge other := by
    by_cases own : other = id
    · subst own
      exact worked.own.toPurge
    · exact (worked.others other own).toPurge
  marked other := by
    by_cases own : other = id
    · subst own
      exact worked.own.marked
    · exact (worked.others other own).marked
  pending other different := (worked.others other different).pending
  queue := worked.queue

theorem setConn {pd : Pcapdroid} {data : Conn} (toPurge : data.toPurge = (pd.conn id).toPurge)
    (marked : Marked (pd.conn id) → Marked data)
    (pending : data.pendingNotification = (pd.conn id).pendingNotification) :
    Notified id pd (pd.setConn id data) := by
  refine ⟨rfl, rfl, rfl, ?_, ?_, ?_, .kept rfl ?_⟩
  · exact fun other => Pcapdroid.setConn_cases toPurge (fun _ _ => rfl) other
  · exact fun other => Pcapdroid.setConn_cases marked (fun _ _ due => due) other
  · intro other different
    rw [Pcapdroid.setConn_conn_other _ _ different]
  · rw [Pcapdroid.setConn_conn_self, pending]

theorem emit {pd : Pcapdroid} {effect : Effect} (notFree : ∀ data, effect ≠ .free data) :
    Notified id pd (pd.emit effect) := by
  refine of_same rfl rfl ?_ rfl rfl
  have nothing : freedConns { pd with effects := [effect] } = [] := by
    cases effect with
    | free data => exact absurd rfl (notFree data)
    | _ => rfl
  exact (freedConns_append pd [effect]).trans (by rw [nothing, List.append_nil])

end Notified

namespace Owned

variable {held : List ConnId} {before after pd : Pcapdroid} {id : ConnId}

/-- A connection that is neither queued nor held is in the hash table. -/
theorem registered (owned : Owned held pd) (known : id < pd.newConnId)
    (live : id ∉ freedConns pd) (idle : id ∉ queuedConns pd) (free : id ∉ held) :
    id ∈ tableConns pd := by
  rcases owned.custody.covered id known with registered | waiting | released | own
  · exact registered
  · exact absurd waiting idle
  · exact absurd released live
  · exact absurd own free

theorem of_notified (owned : Owned held before) (step : Notified id before after)
    (known : id < before.newConnId) (live : id ∉ freedConns before)
    (due : id ∈ held ∨ queuedConns after = queuedConns before ∨ Marked (after.conn id)) :
    Owned held after := by
  have table : tableConns after = tableConns before :=
    congrArg (List.map ConnAndTuple.data) step.connections
  cases step.queue with
  | kept queue pending =>
    have same : holdings after = holdings before := by
      unfold holdings
      rw [table, queue, step.freed]
    refine ⟨?_, ?_, ?_, ?_, ?_⟩
    · rw [same, step.newConnId]
      exact owned.custody
    · intro other created notFreed
      rw [step.newConnId] at created
      rw [step.freed] at notFreed
      rw [queue, ← owned.pending other created notFreed]
      by_cases own : other = id
      · grind
      · rw [step.pending other own]
    · intro other member free
      rw [step.toPurge]
      exact owned.kept other (table ▸ member) free
    · intro other member absent free
      rw [step.toPurge]
      exact owned.purged other (queue ▸ member) (table ▸ absent) free
    · intro other member free
      exact step.marked other (owned.marked other (queue ▸ member) free)
  | queued queue idle pending =>
    have absent : id ∉ queuedConns before := by
      rw [← owned.pending id known live, idle]
      exact Bool.false_ne_true
    have members (other : ConnId) :
        other ∈ queuedConns after ↔ other = id ∨ other ∈ queuedConns before := by
      grind
    refine ⟨?_, ?_, ?_, ?_, ?_⟩
    · have queued := owned.custody.enqueue queue known live absent
      unfold holdings
      rw [table, step.freed, step.newConnId]
      exact queued
    · intro other created notFreed
      rw [step.newConnId] at created
      rw [step.freed] at notFreed
      rw [members]
      by_cases own : other = id
      · grind
      · rw [step.pending other own, owned.pending other created notFreed]
        exact (or_iff_right own).symm
    · intro other member free
      rw [step.toPurge]
      exact owned.kept other (table ▸ member) free
    · intro other member unregistered free
      rw [step.toPurge]
      rcases (members other).mp member with rfl | earlier
      · exact absurd (owned.registered known live absent free) (table ▸ unregistered)
      · exact owned.purged other earlier (table ▸ unregistered) free
    · intro other member free
      rcases (members other).mp member with rfl | earlier
      · grind
      · exact step.marked other (owned.marked other earlier free)

/-- What ownership depends on. -/
structure View where
  newConnId : ConnId
  table : List ConnId
  queue : List ConnId
  freed : List ConnId
  heap : ConnId → Conn

def view (pd : Pcapdroid) : View where
  newConnId := pd.newConnId
  table := tableConns pd
  queue := queuedConns pd
  freed := freedConns pd
  heap := pd.heap

theorem of_view (owned : Owned held before) (same : view after = view before) :
    Owned held after := by
  have newConnId : after.newConnId = before.newConnId := congrArg View.newConnId same
  have table : tableConns after = tableConns before := congrArg View.table same
  have queue : queuedConns after = queuedConns before := congrArg View.queue same
  have freed : freedConns after = freedConns before := congrArg View.freed same
  have conn (id : ConnId) : after.conn id = before.conn id :=
    congrFun (congrArg View.heap same) id
  obtain ⟨custody, pending, kept, purged, marked⟩ := owned
  unfold holdings at custody
  constructor <;> simp only [holdings, newConnId, table, queue, freed, conn] <;> assumption

/-! ## Holding a connection -/

/-- The connection is to be purged unless it is in the hash table. -/
def Filed (id : ConnId) (pd : Pcapdroid) : Prop :=
  (pd.conn id).toPurge = true ↔ id ∉ tableConns pd

theorem hold (owned : Owned [] pd) (known : id < pd.newConnId) (live : id ∉ freedConns pd) :
    Owned [id] pd where
  custody := owned.custody.hold known live
  pending := owned.pending
  kept other member _ := owned.kept other member List.not_mem_nil
  purged other member absent _ := owned.purged other member absent List.not_mem_nil
  marked other member _ := owned.marked other member List.not_mem_nil

theorem letGo (owned : Owned [id] pd) (filed : Filed id pd) (queued : id ∈ queuedConns pd)
    (due : Marked (pd.conn id)) : Owned [] pd := by
  refine ⟨owned.custody.letGo (.inr (.inl queued)), owned.pending, ?_, ?_, ?_⟩
  · intro other member _
    by_cases own : other = id
    · subst own
      exact Bool.eq_false_iff.mpr fun purge => filed.mp purge member
    · exact owned.kept other member (mt List.mem_singleton.mp own)
  · intro other member absent _
    by_cases own : other = id
    · subst own
      exact filed.mpr absent
    · exact owned.purged other member absent (mt List.mem_singleton.mp own)
  · intro other member _
    by_cases own : other = id
    · subst own
      exact due
    · exact owned.marked other member (mt List.mem_singleton.mp own)

/-- A held connection changes. -/
theorem setConn {data : Conn} (owned : Owned [id] pd)
    (pending : data.pendingNotification = (pd.conn id).pendingNotification) :
    Owned [id] (pd.setConn id data) := by
  have conn {other : ConnId} (free : other ∉ [id]) :
      (pd.setConn id data).conn other = pd.conn other :=
    Pcapdroid.setConn_conn_other _ _ (mt List.mem_singleton.mpr free)
  refine ⟨owned.custody, ?_, ?_, ?_, ?_⟩
  · intro other known live
    refine Iff.trans ?_ (owned.pending other known live)
    by_cases own : other = id
    · subst own
      rw [Pcapdroid.setConn_conn_self, pending]
    · grind
  · intro other member free
    rw [conn free]
    exact owned.kept other member free
  · intro other member absent free
    rw [conn free]
    exact owned.purged other member absent free
  · intro other member free
    rw [conn free]
    exact owned.marked other member free

theorem mem_deactivate (pd : Pcapdroid) (id other : ConnId) :
    other ∈ tableConns (pd.deactivate id) ↔ other ∈ tableConns pd ∧ other ≠ id := by
  simp only [tableConns, Pcapdroid.deactivate, List.mem_map, List.mem_filter, bne_iff_ne]
  grind

/-- A held connection leaves the hash table. -/
theorem deactivate (owned : Owned [id] pd) : Owned [id] (pd.deactivate id) := by
  refine ⟨?_, owned.pending, ?_, ?_, owned.marked⟩
  · refine owned.custody.unregister (List.filter_sublist.map ConnAndTuple.data) ?_
    intro other member different
    exact (mem_deactivate pd id other).mpr ⟨member, different⟩
  · intro other member free
    exact owned.kept other ((mem_deactivate pd id other).mp member).1 free
  · intro other member absent free
    refine owned.purged other member ?_ free
    intro registered
    exact absent ((mem_deactivate pd id other).mpr ⟨registered, mt List.mem_singleton.mpr free⟩)

theorem tableConns_activate (pd : Pcapdroid) (slot : ConnAndTuple) :
    tableConns (pd.activate slot) = tableConns pd ++ [slot.data] :=
  List.map_append

/-- A held connection is added to the hash table. -/
theorem activate (owned : Owned [id] pd) (absent : id ∉ tableConns pd) (tuple : FiveTuple) :
    Owned [id] (pd.activate ⟨tuple, id⟩) := by
  have table := tableConns_activate pd ⟨tuple, id⟩
  refine ⟨?_, owned.pending, ?_, ?_, owned.marked⟩
  · have registered := owned.custody.register absent
    unfold holdings
    rw [table]
    exact registered
  · intro other member free
    rw [table] at member
    exact owned.kept other ((List.mem_append.mp member).resolve_right free) free
  · intro other member unregistered free
    rw [table] at unregistered
    exact owned.purged other member (fun before => unregistered (List.mem_append_left _ before)) free

/-- A held connection that nothing refers to is freed. -/
theorem release (owned : Owned [id] pd) (absent : id ∉ tableConns pd)
    (idle : id ∉ queuedConns pd) : Owned [] (pd.emit (.free id)) := by
  have freed : freedConns (pd.emit (.free id)) = freedConns pd ++ [id] := freedConns_free pd [id]
  refine ⟨?_, ?_, ?_, ?_, ?_⟩
  · have released := owned.custody.release absent idle
    unfold holdings
    rw [freed]
    exact released
  · intro other known live
    rw [freed] at live
    exact owned.pending other known (fun before => live (List.mem_append_left _ before))
  · intro other member _
    exact owned.kept other member (fun own => absent (List.mem_singleton.mp own ▸ member))
  · intro other member unregistered _
    exact owned.purged other member unregistered
      (fun own => idle (List.mem_singleton.mp own ▸ member))
  · intro other member _
    exact owned.marked other member (fun own => idle (List.mem_singleton.mp own ▸ member))

/-- A new connection is queued and held by its creator. -/
theorem registerConnection (owned : Owned [] pd) (platform : Platform) (tuple : FiveTuple)
    (uid : Int) : Owned [pd.newConnId] (registerConnection platform pd tuple uid) := by
  have fresh : ¬pd.newConnId < pd.newConnId := lt_irrefl _
  have absent : pd.newConnId ∉ queuedConns pd :=
    fun member => fresh (owned.custody.waiting_live _ member).1
  rw [registerConnection_eq]
  have queue : (queuedConns ((enqueue pd .newConns ⟨tuple, pd.newConnId⟩).takeConnId.setConn
      pd.newConnId (freshConn pd uid))).Perm (pd.newConnId :: queuedConns pd) := by
    simp only [queuedConns, enqueue, Pcapdroid.takeConnId, Pcapdroid.setConn, List.map_append,
      List.map_cons, List.append_assoc, List.singleton_append]
    exact List.perm_middle
  have members (other : ConnId) := queue.mem_iff.trans (@List.mem_cons _ pd.newConnId _ other)
  have conn {other : ConnId} (different : other ≠ pd.newConnId) :
      ((enqueue pd .newConns ⟨tuple, pd.newConnId⟩).takeConnId.setConn pd.newConnId
        (freshConn pd uid)).conn other = pd.conn other :=
    Pcapdroid.setConn_conn_other _ _ different
  refine ⟨?_, ?_, ?_, ?_, ?_⟩
  · have created := owned.custody.create (fun other => Nat.lt_succ_iff_lt_or_eq) fresh
    exact created.enqueue queue (Nat.lt_succ_self _)
      (created.held_live _ (List.mem_singleton_self _)).2 absent
  · intro other known live
    rw [members]
    by_cases own : other = pd.newConnId
    · subst own
      rw [Pcapdroid.setConn_conn_self]
      exact iff_of_true rfl (.inl rfl)
    · rw [conn own, or_iff_right own]
      exact owned.pending other ((Nat.lt_succ_iff_lt_or_eq.mp known).resolve_right own) live
  · intro other member free
    rw [conn (mt List.mem_singleton.mpr free)]
    exact owned.kept other member List.not_mem_nil
  · intro other member unregistered free
    have own := mt List.mem_singleton.mpr free
    rw [conn own]
    exact owned.purged other (((members other).mp member).resolve_left own) unregistered
      List.not_mem_nil
  · intro other member free
    have own := mt List.mem_singleton.mpr free
    rw [conn own]
    exact owned.marked other (((members other).mp member).resolve_left own) List.not_mem_nil

end Owned

end PcapdroidFormal.Pcap
