import PcapdroidFormal.Pcap.Ownership

/-!
# Connections are freed once

Every step of a root or PCAP-file capture keeps the ownership of the
connections and dereferences only live ones.  At the end of the capture the
hash table is purged and the queues are freed, so that no connection is left.
-/

namespace PcapdroidFormal.Pcap

open PcapdroidFormal.Core Firewall Foundation
open Vpn (Control applyControl pdRefreshTime countFragment)

variable {capture : Libpcap}

/-! ## Memory -/

theorem deref_ok {pd : Pcapdroid} {id : ConnId} (live : id ∉ freedConns pd) :
    deref pd id = .ok () := if_neg live

theorem derefAll_ok {pd : Pcapdroid} {slots : List ConnAndTuple}
    (live : ∀ id ∈ slots.map (·.data), id ∉ freedConns pd) : derefAll pd slots = .ok () := by
  induction slots with
  | nil => rfl
  | cons slot slots ih =>
    rw [List.map_cons, List.forall_mem_cons] at live
    unfold derefAll
    rw [deref_ok live.1]
    exact ih live.2

/-- Clearing a queue of distinct live connections is no error. -/
theorem clearConns_ok (freeAll : Bool) {pd : Pcapdroid} {slots : List ConnAndTuple}
    (distinct : (slots.map (·.data)).Nodup)
    (live : ∀ id ∈ slots.map (·.data), id ∉ freedConns pd) :
    clearConns freeAll pd slots = .ok (purgeQueue freeAll pd slots) := by
  induction slots generalizing pd with
  | nil => rfl
  | cons slot slots ih =>
    rw [List.map_cons, List.nodup_cons] at distinct
    rw [List.map_cons, List.forall_mem_cons] at live
    have step : purgeQueue freeAll pd (slot :: slots) = purgeQueue freeAll
        (if (pd.conn slot.data).toPurge || freeAll then pd.emit (.free slot.data) else pd) slots :=
      rfl
    unfold clearConns
    rw [deref_ok live.1, step]
    by_cases purged : ((pd.conn slot.data).toPurge || freeAll) = true
    · have freed : freedConns (pd.emit (.free slot.data)) = freedConns pd ++ [slot.data] :=
        freedConns_free pd [slot.data]
      rw [if_pos purged, if_pos purged, pdPurgeConnection, if_neg live.1]
      refine ih distinct.2 ?_
      grind
    · rw [if_neg purged, if_neg purged]
      exact ih distinct.2 live.2

/-- `conns_clear` on both queues is no error if the queued connections are distinct
and live. -/
theorem clearQueues_ok (freeAll : Bool) {pd : Pcapdroid} (distinct : (queuedConns pd).Nodup)
    (live : ∀ id ∈ queuedConns pd, id ∉ freedConns pd) :
    clearQueues freeAll pd = .ok (connsClear freeAll pd) := by
  simp only [queuedConns, List.map_append, List.nodup_append', List.forall_mem_append]
    at distinct live
  have first := clearConns_ok freeAll distinct.1 live.1
  have rest : (purgeQueue freeAll pd pd.newConns).connsUpdates = pd.connsUpdates := by
    rw [purgeQueue_eq]
  have freed : freedConns (purgeQueue freeAll pd pd.newConns).dropNewConns =
      freedConns pd ++ (pd.newConns.map (·.data)).filter (purges freeAll pd) := by
    rw [purgeQueue_eq]
    exact freedConns_free pd _
  have second : clearConns freeAll (purgeQueue freeAll pd pd.newConns).dropNewConns
      pd.connsUpdates = .ok (purgeQueue freeAll
        (purgeQueue freeAll pd pd.newConns).dropNewConns pd.connsUpdates) := by
    refine clearConns_ok freeAll distinct.2.1 ?_
    intro id member
    rw [freed, List.mem_append, not_or]
    exact ⟨live.2 id member, fun purged =>
      distinct.2.2 (List.mem_of_mem_filter purged) member⟩
  unfold clearQueues
  rw [first, connsClear_steps, rest]
  change (clearConns freeAll (purgeQueue freeAll pd pd.newConns).dropNewConns
    (purgeQueue freeAll pd pd.newConns).connsUpdates >>= fun pd => pure pd.dropUpdates) = _
  rw [rest, second]
  rfl

namespace Owned

variable {held : List ConnId} {pd : Pcapdroid} {id : ConnId}

theorem table_live (owned : Owned held pd) (member : id ∈ tableConns pd) :
    id < pd.newConnId ∧ id ∉ freedConns pd :=
  owned.custody.registered_live id member

theorem queue_live (owned : Owned held pd) (member : id ∈ queuedConns pd) :
    id < pd.newConnId ∧ id ∉ freedConns pd :=
  owned.custody.waiting_live id member

theorem held_live (owned : Owned [id] pd) : id < pd.newConnId ∧ id ∉ freedConns pd :=
  owned.custody.held_live id (List.mem_singleton_self id)

/-! ## Reports -/

theorem dumpConnections_ok (owned : Owned [] pd) :
    dumpConnections pd = .ok (sendConnectionsDump pd) := by
  have checked := @derefAll_ok pd _ fun id member => (owned.queue_live member).2
  simp only [dumpConnections, checked, bind, Except.bind, pure, Except.pure]

theorem dumped_holdings (pd : Pcapdroid) : holdings (sendConnectionsDump pd) = holdings pd ∧
    (sendConnectionsDump pd).newConnId = pd.newConnId := by
  obtain ⟨heap, rest⟩ := sendConnectionsDump_rest pd
  rw [rest]
  exact ⟨rfl, rfl⟩

theorem dumped_toPurge (pd : Pcapdroid) (id : ConnId) :
    ((sendConnectionsDump pd).conn id).toPurge = (pd.conn id).toPurge := by
  rw [sendConnectionsDump_conn]
  split <;> rfl

theorem cleared_holdings (freeAll : Bool) (pd : Pcapdroid) :
    holdings (connsClear freeAll pd) =
      ⟨tableConns pd, [], freedConns pd ++ (queuedConns pd).filter (purges freeAll pd)⟩ := by
  unfold holdings
  rw [connsClear_freed, connsClear_eq]
  rfl

variable (owned : Owned [] pd)
include owned

/-- The queues are reported and cleared. -/
theorem clearReported (freeAll : Bool)
    (kept : ∀ id ∈ tableConns pd, id ∈ queuedConns pd → purges freeAll pd id = false) :
    Owned [] (connsClear freeAll (sendConnectionsDump pd)) ∧
      clearQueues freeAll (sendConnectionsDump pd) =
        .ok (connsClear freeAll (sendConnectionsDump pd)) := by
  obtain ⟨same, newConnId⟩ := dumped_holdings pd
  have table : tableConns (sendConnectionsDump pd) = tableConns pd :=
    congrArg Holdings.registered same
  have queue : queuedConns (sendConnectionsDump pd) = queuedConns pd :=
    congrArg Holdings.waiting same
  have freed : freedConns (sendConnectionsDump pd) = freedConns pd :=
    congrArg Holdings.released same
  have purged : purges freeAll (sendConnectionsDump pd) = purges freeAll pd := by
    funext id
    unfold purges
    rw [dumped_toPurge]
  have cleared := cleared_holdings freeAll (sendConnectionsDump pd)
  rw [table, queue, freed, purged] at cleared
  have noQueue : queuedConns (connsClear freeAll (sendConnectionsDump pd)) = [] :=
    congrArg Holdings.waiting cleared
  refine ⟨⟨?_, ?_, ?_, ?_, ?_⟩, ?_⟩
  · rw [cleared, connsClear_eq]
    change Custody (· < (sendConnectionsDump pd).newConnId) [] _
    rw [newConnId]
    refine owned.custody.clear kept ?_
    intro id member absent
    exact Bool.or_eq_true_iff.mpr (.inl (owned.purged id member absent List.not_mem_nil))
  · intro id known live
    rw [connsClear_eq] at known
    rw [noQueue, connsClear_conn, sendConnectionsDump_conn]
    have before : id ∉ freedConns pd := by
      intro member
      have released : freedConns (connsClear freeAll (sendConnectionsDump pd)) = _ :=
        congrArg Holdings.released cleared
      grind
    refine iff_of_false ?_ List.not_mem_nil
    split
    next => exact Bool.false_ne_true
    next idle => exact fun pending => idle ((owned.pending id (newConnId ▸ known) before).mp pending)
  · intro id member _
    have registered : tableConns (connsClear freeAll (sendConnectionsDump pd)) = tableConns pd :=
      congrArg Holdings.registered cleared
    rw [connsClear_conn, dumped_toPurge]
    exact owned.kept id (registered ▸ member) List.not_mem_nil
  · grind
  · grind
  · refine clearQueues_ok freeAll ?_ ?_
    · rw [queue]
      exact owned.custody.waiting_nodup
    · intro id member
      rw [queue] at member
      rw [freed]
      exact (owned.queue_live member).2

theorem not_purged (member : id ∈ tableConns pd) : purges false pd id = false := by
  unfold purges
  rw [owned.kept id member List.not_mem_nil]
  rfl

theorem periodicTask (exported : Bool) : Owned [] (periodicTask exported pd) := by
  have set {pd : Pcapdroid} (owned : Owned [] pd) (fields : TaskFields) :
      Owned [] (pd.setTaskFields fields) := owned.of_view rfl
  obtain ⟨fields, same | dumped⟩ := periodicTask_eq exported pd
  · grind
  · rw [dumped]
    exact set (owned.clearReported false fun _ member _ => owned.not_purged member).1 fields

end Owned

/-! ## Callbacks -/

/-- The connection is not queued, or it has an update that is due. -/
def Due (id : ConnId) (before after : Pcapdroid) : Prop :=
  queuedConns after = queuedConns before ∨ Marked (after.conn id)

section Callbacks

variable (platform : Platform) {slot : ConnAndTuple}

/-- A connection with new statistics is queued. -/
theorem notifyStats_notified {pd : Pcapdroid} {data : Conn} (tuple : FiveTuple) {id : ConnId}
    (toPurge : data.toPurge = (pd.conn id).toPurge)
    (pending : data.pendingNotification = (pd.conn id).pendingNotification) :
    Notified id pd (pdNotifyConnectionUpdate platform (pd.setConn id data.markStats) tuple id) ∧
      Marked ((pdNotifyConnectionUpdate platform (pd.setConn id data.markStats) tuple id).conn id) ∧
      ((pdNotifyConnectionUpdate platform (pd.setConn id data.markStats) tuple id).conn
        id).pendingNotification = true := by
  have changed : Notified id pd (pd.setConn id data.markStats) :=
    .setConn toPurge (fun _ => markStats_marked data) pending
  have notified := pdNotifyConnectionUpdate_worked platform (pd.setConn id data.markStats) tuple id
  refine ⟨changed.trans (.of_worked notified), ?_, ?_⟩
  · refine notified.own.marked ?_
    rw [Pcapdroid.setConn_conn_self]
    exact markStats_marked data
  · rw [pdNotifyConnectionUpdate_conn]
    rfl

theorem checkBlockedConnCb_notified (pd : Pcapdroid) (tuple : FiveTuple) (id : ConnId) :
    Notified id pd (checkBlockedConnCb platform pd tuple id) ∧
      Due id pd (checkBlockedConnCb platform pd tuple id) := by
  have noted : Notified id pd (noteRecheck pd tuple id) := .emit fun _ => Effect.noConfusion
  rw [checkBlockedConnCb_eq]
  split
  · exact ⟨noted, .inl rfl⟩
  · have queued : Notified id (noteRecheck pd tuple id) (pdNotifyConnectionUpdate platform
        ((noteRecheck pd tuple id).setConn id
          ((pd.conn id).setToBlock (policy pd tuple (pd.conn id))).markStats) tuple id) ∧ _ :=
      notifyStats_notified platform tuple rfl rfl
    exact ⟨noted.trans queued.1, .inr queued.2.1⟩

theorem checkBlacklistedConnCb_notified (pd : Pcapdroid) (tuple : FiveTuple) (id : ConnId) :
    Notified id pd (checkBlacklistedConnCb platform pd tuple id) ∧
      Due id pd (checkBlacklistedConnCb platform pd tuple id) := by
  unfold checkBlacklistedConnCb
  cases pd.malwareDetection.whitelist with
  | none => exact ⟨.refl pd, .inl rfl⟩
  | some whitelist =>
    have cleared : Notified id pd (pd.setConn id (whitelistConn whitelist tuple (pd.conn id))) :=
      .setConn rfl (fun due => due) rfl
    have kept : queuedConns (pd.setConn id (whitelistConn whitelist tuple (pd.conn id))) =
      queuedConns pd := rfl
    dsimp only
    generalize pd.setConn id (whitelistConn whitelist tuple (pd.conn id)) = after
      at cleared kept ⊢
    split
    · have checked : Notified id after (if after.firewall.bl.isSome = true then
          checkBlockedConnCb platform after tuple id else after) := by
        split
        · exact (checkBlockedConnCb_notified platform after tuple id).1
        · exact .refl after
      generalize (if after.firewall.bl.isSome = true then
        checkBlockedConnCb platform after tuple id else after) = rechecked at checked ⊢
      have queued := @notifyStats_notified platform rechecked (rechecked.conn id) tuple id rfl rfl
      exact ⟨(cleared.trans checked).trans queued.1, .inr queued.2.1⟩
    · exact ⟨cleared, .inl kept⟩

theorem Owned.of_callback {pd after : Pcapdroid} (owned : Owned [] pd)
    (active : slot ∈ pd.connections)
    (step : Notified slot.data pd after ∧ Due slot.data pd after) : Owned [] after := by
  obtain ⟨known, live⟩ := owned.table_live (List.mem_map_of_mem active)
  exact owned.of_notified step.1 known live (.inr step.2)

theorem Owned.keptByHousekeeping : KeptByHousekeeping platform (Owned []) where
  periodicTask exported owned := owned.periodicTask exported
  setMalwareDetection _ owned := owned.of_view rfl
  setFirewall _ owned := owned.of_view rfl
  setTlsDecryption _ owned := owned.of_view rfl
  checkBlacklistedConnCb active owned :=
    owned.of_callback active (checkBlacklistedConnCb_notified platform _ _ _)
  checkBlockedConnCb active owned :=
    owned.of_callback active (checkBlockedConnCb_notified platform _ _ _)

theorem Owned.pdHousekeeping {pd : Pcapdroid} (owned : Owned [] pd) (exported : Bool) :
    Owned [] (pdHousekeeping platform exported pd) :=
  (Owned.keptByHousekeeping platform).pdHousekeeping exported owned

/-- `pd_housekeeping` dereferences live connections only. -/
theorem housekeeping_ok {pd : Pcapdroid} (owned : Owned [] pd) (exported : Bool) :
    housekeeping platform exported pd = .ok (pdHousekeeping platform exported pd) := by
  have cleared := (owned.clearReported false fun _ member _ => owned.not_purged member).2
  have checked : derefAll (periodicTask exported pd) (periodicTask exported pd).connections =
      .ok () :=
    derefAll_ok fun id member => ((owned.periodicTask exported).table_live member).2
  unfold housekeeping
  rw [owned.dumpConnections_ok]
  simp only [bind, Except.bind, cleared, checked, discard, Functor.discard, Functor.mapConst,
    Except.map, Function.comp_apply, pure, Except.pure, ite_self]

/-! ## Packets -/

/-- An accounted packet leaves its connection queued, with an update that is due. -/
theorem pdAccountStats_notified (pd : Pcapdroid) (pctx : PktContext) :
    Notified pctx.data pd (pdAccountStats platform pd pctx) ∧
      Marked ((pdAccountStats platform pd pctx).conn pctx.data) ∧
      ((pdAccountStats platform pd pctx).conn pctx.data).pendingNotification = true := by
  have accounted : Notified pctx.data pd (pd.emit (.account pctx)) :=
    .emit fun _ => Effect.noConfusion
  have counted : Notified pctx.data (pd.emit (.account pctx))
      ((pd.emit (.account pctx)).setCaptureStats
        (pd.captureStats.countPacket pctx.pkt pctx.isTx)) := .of_same rfl rfl rfl rfl rfl
  have flags : ((pd.conn pctx.data).countPacket pctx.pkt pctx.isTx).toPurge =
      (pd.conn pctx.data).toPurge ∧
      ((pd.conn pctx.data).countPacket pctx.pkt pctx.isTx).pendingNotification =
        (pd.conn pctx.data).pendingNotification := by
    simp only [Conn.countPacket]
    grind
  obtain ⟨queued, due⟩ := @notifyStats_notified platform ((pd.emit (.account pctx)).setCaptureStats
    (pd.captureStats.countPacket pctx.pkt pctx.isTx)) _ pctx.tuple pctx.data flags.1 flags.2
  refine pdAccountStats_invariant platform ⟨(accounted.trans counted).trans queued, due⟩ ?_ ?_
  · exact fun kept => ⟨kept.1.trans (.emit fun _ => Effect.noConfusion), kept.2⟩
  · exact fun kept => ⟨kept.1.trans (.of_same rfl rfl rfl rfl rfl), kept.2⟩

theorem pdProcessPacket_notified (pd : Pcapdroid) (pkt : ZdtunPkt) (isTx : Bool)
    (tuple : FiveTuple) (id : ConnId) (ms : Nat) :
    Notified id pd (pdProcessPacket platform pd pkt isTx tuple id ms).1 := by
  have taken : Notified id pd pd.takeContext := .of_same rfl rfl rfl rfl rfl
  exact taken.trans (.of_worked (pdProcessPacket_worked platform pd pkt isTx tuple id ms))

variable {platform}

/-- `handle_packet` works on this connection. -/
structure Handling (id : ConnId) (pd : Pcapdroid) : Prop where
  owned : Owned [id] pd
  filed : Owned.Filed id pd

namespace Handling

variable {id : ConnId} {before after pd : Pcapdroid}

theorem of_notified (handling : Handling id before) (step : Notified id before after) :
    Handling id after := by
  obtain ⟨known, live⟩ := handling.owned.held_live
  refine ⟨handling.owned.of_notified step known live (.inl (List.mem_singleton_self id)), ?_⟩
  unfold Owned.Filed tableConns
  rw [step.toPurge, step.connections]
  exact handling.filed

theorem setConn {data : Conn} (handling : Handling id pd)
    (toPurge : data.toPurge = (pd.conn id).toPurge)
    (pending : data.pendingNotification = (pd.conn id).pendingNotification) :
    Handling id (pd.setConn id data) := by
  refine ⟨handling.owned.setConn pending, ?_⟩
  unfold Owned.Filed
  rw [Pcapdroid.setConn_conn_self, toPurge]
  exact handling.filed

/-- The connection is closed and removed from the hash table. -/
theorem close (handling : Handling id pd) (status : ConnStatus) :
    Handling id ((pd.setConn id ((pd.conn id).close status)).deactivate id) := by
  have closed : Owned [id] (pd.setConn id ((pd.conn id).close status)) :=
    handling.owned.setConn rfl
  refine ⟨closed.deactivate, ?_⟩
  have purge : (((pd.setConn id ((pd.conn id).close status)).deactivate id).conn id).toPurge =
      true := congrArg Conn.toPurge (Pcapdroid.setConn_conn_self pd id _)
  refine iff_of_true purge ?_
  intro registered
  exact ((Owned.mem_deactivate _ id id).mp registered).2 rfl

/-- The packet is accounted and the connection let go. -/
theorem pdAccountStats (platform : Platform) {pctx : PktContext} (handling : Handling id pd)
    (own : pctx.data = id) : Owned [] (pdAccountStats platform pd pctx) := by
  subst own
  obtain ⟨step, due, pending⟩ := pdAccountStats_notified platform pd pctx
  have accounted := handling.of_notified step
  obtain ⟨known, live⟩ := accounted.owned.held_live
  exact accounted.owned.letGo accounted.filed
    ((accounted.owned.pending _ known live).mp pending) due

end Handling

theorem updateConnectionStatus_handling {slot : ConnAndTuple}
    (pkt : ParsedPkt) (isTx : Bool) (handling : Handling slot.data capture.pd) :
    Handling slot.data (updateConnectionStatus capture slot pkt isTx).pd := by
  simp only [updateConnectionStatus]
  split
  · exact handling
  · split
    · exact handling.setConn rfl rfl
    · have connected : Handling slot.data (capture.setStatus slot.data .connected).pd :=
        handling.setConn rfl rfl
      split
      · split
        · exact connected.close .closed
        · exact connected
      · exact connected

/-- What the end of `handle_packet` computes. -/
theorem processPacket_result {after : Libpcap} {ms : Nat} {pkt : ParsedPkt}
    {isTx : Bool} (processed : processPacket platform capture ms pkt isTx slot = .ok after) :
    ∃ seen pinfo, seen = (capture.setData slot.data { capture.data slot.data with
        lastUpdateMs := capture.pd.nowMs }).setPd
          (pdProcessPacket platform capture.pd pkt.pkt isTx slot.tuple slot.data ms).1 ∧
      after = (updateConnectionStatus seen slot pkt isTx).setPd
        (pdAccountStats platform (updateConnectionStatus seen slot pkt isTx).pd pinfo) := by
  simp only [processPacket, bind, Except.bind] at processed
  split at processed
  · cases processed
  · split at processed
    · cases processed
    · split at processed
      · cases processed
      · cases processed
        exact ⟨_, _, rfl, rfl⟩

/-- What a new connection is in the capture. -/
theorem openConnection_result {after : Libpcap} {tuple : FiveTuple} {uid : BitVec 32}
    (opened : openConnection platform capture tuple uid = .ok (after, slot)) :
    slot = ⟨tuple, capture.pd.newConnId⟩ ∧
      ∃ pd proxied, pd = (pdNewConnection platform capture.pd tuple uid.toInt).1 ∧
        after = ((capture.setPd ((pd.activate slot).setConn slot.data
          { pd.conn slot.data with proxied := proxied })).setData slot.data .zeroed).countOpened
            tuple := by
  simp only [openConnection, bind, Except.bind] at opened
  split at opened
  · cases opened
  · cases opened
    exact ⟨rfl, _, _, rfl, rfl⟩

variable (platform)

/-- The rest of `handle_packet` accesses live connections only and leaves all of them
owned. -/
theorem processPacket_ok (ms : Nat) (pkt : ParsedPkt)
    (isTx : Bool) (handling : Handling slot.data capture.pd) :
    ∃ after, processPacket platform capture ms pkt isTx slot = .ok after ∧ Owned [] after.pd := by
  have processed := handling.of_notified
    (pdProcessPacket_notified platform capture.pd pkt.pkt isTx slot.tuple slot.data ms)
  simp only [processPacket, deref_ok handling.owned.held_live.2, bind, Except.bind,
    Libpcap.setData_pd, deref_ok processed.owned.held_live.2]
  have own : (pdProcessPacket platform capture.pd pkt.pkt isTx slot.tuple slot.data ms).2.data =
    slot.data := rfl
  have updated := @updateConnectionStatus_handling ((capture.setData slot.data
    { capture.data slot.data with lastUpdateMs := capture.pd.nowMs }).setPd
      (pdProcessPacket platform capture.pd pkt.pkt isTx slot.tuple slot.data ms).1) slot pkt isTx
    processed
  rw [own, deref_ok updated.owned.held_live.2]
  exact ⟨_, rfl, updated.pdAccountStats platform own⟩

theorem Owned.handling {pd : Pcapdroid} {id : ConnId} (owned : Owned [] pd)
    (registered : id ∈ tableConns pd) : Handling id pd := by
  obtain ⟨known, live⟩ := owned.table_live registered
  refine ⟨owned.hold known live, ?_⟩
  have stays := owned.kept id registered List.not_mem_nil
  exact iff_of_false (fun purge => Bool.false_ne_true (stays.symm.trans purge))
    (fun absent => absent registered)

/-- `pd_new_connection` leaves the hash table alone. -/
theorem pdNewConnection_connections (pd : Pcapdroid) (tuple : FiveTuple) (uid : Int) :
    (pdNewConnection platform pd tuple uid).1.connections = pd.connections := by
  have worked := pdNewConnection_worked platform pd tuple uid
  rw [(Notified.of_worked worked).connections, registerConnection_eq]
  rfl

/-- A new connection is in the hash table and queued. -/
theorem openConnection_ok (owned : Owned [] capture.pd) (tuple : FiveTuple) (uid : BitVec 32) :
    ∃ after slot, openConnection platform capture tuple uid = .ok (after, slot) ∧
      Handling slot.data after.pd := by
  have checked : derefAll capture.pd capture.pd.newConns = .ok () := by
    refine derefAll_ok fun id member => (owned.queue_live ?_).2
    rw [queuedConns, List.map_append]
    grind
  have registered := owned.registerConnection platform tuple uid.toInt
  have worked := pdNewConnection_worked platform capture.pd tuple uid.toInt
  have created := registered.of_notified (.of_worked worked) registered.held_live.1
    registered.held_live.2 (.inl (List.mem_singleton_self _))
  have table : tableConns (pdNewConnection platform capture.pd tuple uid.toInt).1 =
      tableConns capture.pd := by
    unfold tableConns
    rw [pdNewConnection_connections]
  have absent : capture.pd.newConnId ∉
      tableConns (pdNewConnection platform capture.pd tuple uid.toInt).1 := by
    rw [table]
    exact fun member => lt_irrefl _ (owned.table_live member).1
  have kept : ((pdNewConnection platform capture.pd tuple uid.toInt).1.conn
      capture.pd.newConnId).toPurge = false := by
    refine worked.own.toPurge.trans ?_
    rw [registerConnection_eq, Pcapdroid.setConn_conn_self]
    rfl
  have filed : Owned.Filed capture.pd.newConnId
      ((pdNewConnection platform capture.pd tuple uid.toInt).1.activate
        ⟨tuple, capture.pd.newConnId⟩) := by
    unfold Owned.Filed
    rw [Owned.tableConns_activate]
    exact iff_of_false (fun purge => Bool.false_ne_true (kept.symm.trans purge))
      (fun missing => missing (List.mem_append_right _ (List.mem_singleton_self _)))
  have handling : Handling capture.pd.newConnId
      ((pdNewConnection platform capture.pd tuple uid.toInt).1.activate
        ⟨tuple, capture.pd.newConnId⟩) := ⟨created.activate absent tuple, filed⟩
  simp only [openConnection, checked, bind, Except.bind, pure, Except.pure]
  exact ⟨_, _, rfl, handling.setConn rfl rfl⟩

theorem Owned.countFragment {pd : Pcapdroid} (owned : Owned [] pd) :
    Owned [] (countFragment pd) := owned.of_view rfl

theorem dispatchPacket_ok (owned : Owned [] capture.pd) (hdr : PcapdHdr) (pkt : ParsedPkt) :
    ∃ after valid, dispatchPacket platform capture hdr pkt = .ok (after, valid) ∧
      Owned [] after.pd := by
  have found {tuple : FiveTuple} {slot : ConnAndTuple}
      (search : findConn capture.pd tuple = some slot) : Handling slot.data capture.pd :=
    owned.handling (List.mem_map_of_mem (List.mem_of_find?_eq_some search))
  simp only [dispatchPacket]
  generalize (if hdr.isTx = true then pkt.pkt.tuple else tupleSwapPeers pkt.pkt.tuple) = tuple
  cases first : findConn capture.pd tuple with
  | some slot =>
    obtain ⟨after, processed, kept⟩ := processPacket_ok platform hdr.ms (pkt.orient tuple)
      hdr.isTx (found first)
    simp only [processed, bind, Except.bind, pure, Except.pure]
    exact ⟨after, true, rfl, kept⟩
  | none =>
    cases second : findConn capture.pd (tupleSwapPeers tuple) with
    | some slot =>
      obtain ⟨after, processed, kept⟩ := processPacket_ok platform hdr.ms
        (pkt.orient (tupleSwapPeers tuple)) (!hdr.isTx) (found second)
      simp only [processed, bind, Except.bind, pure, Except.pure]
      exact ⟨after, true, rfl, kept⟩
    | none =>
      dsimp only
      split
      · exact ⟨_, false, rfl, owned.countFragment⟩
      · obtain ⟨created, slot, opened, handling⟩ :=
          openConnection_ok platform owned tuple hdr.uid
        obtain ⟨after, processed, kept⟩ := processPacket_ok platform hdr.ms
          (pkt.orient tuple) hdr.isTx handling
        simp only [opened, processed, bind, Except.bind, pure, Except.pure]
        exact ⟨after, true, rfl, kept⟩

theorem readTrailer_pd (capture : Libpcap) (hdr : PcapdHdr) (buffer : Bytes) (pkt : ZdtunPkt) :
    (readTrailer capture hdr buffer pkt).1.pd = capture.pd := by
  unfold readTrailer
  grind

theorem readTrailer_stats (capture : Libpcap) (hdr : PcapdHdr) (buffer : Bytes) (pkt : ZdtunPkt) :
    (readTrailer capture hdr buffer pkt).1.stats = capture.stats ∧
      (readTrailer capture hdr buffer pkt).1.opened = capture.opened := by
  unfold readTrailer
  split
  · split <;> exact ⟨rfl, rfl⟩
  · exact ⟨rfl, rfl⟩

theorem handlePacket_ok (owned : Owned [] capture.pd)
    (parse : Bytes → Option ParsedPkt) (hdr : PcapdHdr) (buffer : Bytes) (ipoffset : Nat) :
    ∃ after result, handlePacket platform parse capture hdr buffer ipoffset = .ok (after, result) ∧
      Owned [] after.pd := by
  unfold handlePacket
  cases parse (buffer.drop ipoffset) with
  | none => exact ⟨capture, _, rfl, owned⟩
  | some pkt =>
    rw [← readTrailer_pd capture hdr buffer pkt.pkt] at owned
    dsimp only
    generalize readTrailer capture hdr buffer pkt.pkt = start at owned ⊢
    split
    · exact ⟨_, _, rfl, owned.countFragment⟩
    · obtain ⟨after, valid, dispatched, kept⟩ := dispatchPacket_ok platform owned start.2 pkt
      simp only [dispatched, bind, Except.bind, pure, Except.pure]
      exact ⟨after, _, rfl, kept⟩

/-! ## Expired connections -/

/-- One iteration of `purge_expired_connections`: the connection is kept, or it leaves the
hash table and is freed now or queued to be freed. -/
theorem purgeConn_ok (purgeAll : Bool)
    (owned : Owned [] capture.pd) (registered : slot.data ∈ tableConns capture.pd) :
    ∃ after, purgeConn platform purgeAll capture slot = .ok after ∧ Owned [] after.pd ∧
      (tableConns after.pd = tableConns capture.pd ∧ purgeAll = false ∨
        ∀ other, other ∈ tableConns after.pd ↔
          other ∈ tableConns capture.pd ∧ other ≠ slot.data) := by
  obtain ⟨known, live⟩ := owned.table_live registered
  simp only [purgeConn, deref_ok live, bind, Except.bind]
  split
  next =>
    have held : Owned [slot.data]
        (capture.pd.setConn slot.data (expireConn (capture.pd.conn slot.data))) :=
      (owned.hold known live).setConn (expireConn_pending _)
    have purge : ((capture.pd.setConn slot.data (expireConn (capture.pd.conn slot.data))).conn
        slot.data).toPurge = true := by
      rw [Pcapdroid.setConn_conn_self]
      exact expireConn_toPurge _
    have table : tableConns (capture.pd.setConn slot.data
      (expireConn (capture.pd.conn slot.data))) = tableConns capture.pd := rfl
    have due : slot.data ∈ queuedConns (capture.pd.setConn slot.data
        (expireConn (capture.pd.conn slot.data))) →
        Marked ((capture.pd.setConn slot.data (expireConn (capture.pd.conn slot.data))).conn
          slot.data) := by
      intro queued
      rw [Pcapdroid.setConn_conn_self]
      have marked := owned.marked slot.data queued List.not_mem_nil
      simp only [expireConn]
      split
      · exact marked
      · exact markStats_marked _
    generalize capture.pd.setConn slot.data (expireConn (capture.pd.conn slot.data)) = expired
      at held purge table due ⊢
    split
    next none =>
      have idle : slot.data ∉ queuedConns expired := fun queued => due queued none
      have gone : slot.data ∉ tableConns (expired.deactivate slot.data) :=
        fun member => ((Owned.mem_deactivate _ _ _).mp member).2 rfl
      rw [pdPurgeConnection, if_neg held.held_live.2]
      refine ⟨_, rfl, held.deactivate.release gone idle, .inr fun other => ?_⟩
      rw [← table]
      exact Owned.mem_deactivate expired slot.data other
    next marked =>
      have worked := pdNotifyConnectionUpdate_worked platform expired slot.tuple slot.data
      have step := Notified.of_worked worked
      have notified := held.of_notified step held.held_live.1 held.held_live.2
        (.inl (List.mem_singleton_self _))
      have pending : ((pdNotifyConnectionUpdate platform expired slot.tuple slot.data).conn
          slot.data).pendingNotification = true := by
        rw [pdNotifyConnectionUpdate_conn]
        rfl
      have queued := (notified.pending _ notified.held_live.1 notified.held_live.2).mp pending
      have removed := notified.deactivate
      refine ⟨_, rfl, removed.letGo ?_ queued (step.marked _ marked), .inr fun other => ?_⟩
      · refine iff_of_true ((step.toPurge _).trans purge) ?_
        exact fun member => ((Owned.mem_deactivate _ _ _).mp member).2 rfl
      · refine (Owned.mem_deactivate _ slot.data other).trans ?_
        unfold tableConns at table ⊢
        rw [Libpcap.setPd_pd, step.connections, table]
  next active =>
    refine ⟨capture, rfl, owned, .inl ⟨rfl, ?_⟩⟩
    rw [Bool.not_eq_true, isExpired, Bool.or_eq_false_iff] at active
    exact active.1

theorem purgeConns_ok (purgeAll : Bool) (slots : List ConnAndTuple)
    (owned : Owned [] capture.pd) (distinct : (slots.map (·.data)).Nodup)
    (registered : ∀ id ∈ slots.map (·.data), id ∈ tableConns capture.pd) :
    ∃ after, slots.foldlM (purgeConn platform purgeAll) capture = .ok after ∧ Owned [] after.pd ∧
      (∀ id ∈ tableConns after.pd, id ∈ tableConns capture.pd) ∧
      (purgeAll = true → ∀ id ∈ slots.map (·.data), id ∉ tableConns after.pd) := by
  induction slots generalizing capture with
  | nil => exact ⟨capture, rfl, owned, fun _ member => member, fun _ => List.forall_mem_nil _⟩
  | cons slot slots ih =>
    rw [List.map_cons, List.nodup_cons] at distinct
    rw [List.map_cons, List.forall_mem_cons] at registered
    obtain ⟨next, step, kept, table⟩ := purgeConn_ok platform purgeAll owned registered.1
    have shrunk : ∀ id ∈ tableConns next.pd, id ∈ tableConns capture.pd := by
      grind
    have others : ∀ id ∈ slots.map (·.data), id ∈ tableConns next.pd := by
      grind
    obtain ⟨after, rest, final, included, gone⟩ := ih kept distinct.2 others
    refine ⟨after, ?_, final, fun id member => shrunk id (included id member), ?_⟩
    · rw [List.foldlM_cons, step]
      exact rest
    · grind

theorem purgeExpiredConnections_ok (purgeAll : Bool) (owned : Owned [] capture.pd) :
    ∃ after, purgeExpiredConnections platform purgeAll capture = .ok after ∧ Owned [] after.pd ∧
      (purgeAll = true → tableConns after.pd = []) := by
  obtain ⟨after, result, kept, included, gone⟩ := purgeConns_ok platform purgeAll
    capture.pd.connections owned owned.custody.registered_nodup fun _ member => member
  refine ⟨after, result, kept, fun all => List.eq_nil_iff_forall_not_mem.mpr fun id member => ?_⟩
  exact gone all id (included id member) member

/-! ## Runs -/

/-- A request of another thread leaves the connections alone. -/
theorem applyControl_view (pd : Pcapdroid) (control : Control) :
    (applyControl pd control).connections = pd.connections ∧
      Owned.view (applyControl pd control) = Owned.view pd := by
  obtain ⟨_, _, _, _, _, _, _, _, same, -⟩ := Vpn.applyControl_eq pd control
  rw [same]
  exact ⟨rfl, rfl⟩

theorem applyControl_owned {pd : Pcapdroid} (owned : Owned [] pd) (control : Control) :
    Owned [] (applyControl pd control) :=
  owned.of_view (applyControl_view pd control).2

variable (owned : Owned [] capture.pd)
include owned

theorem capturePacket_ok (hdr : PcapdHdr) (buffer : Bytes) (parse : Bytes → Option ParsedPkt)
    (dumped : Bool) : ∃ after, capturePacket platform capture hdr buffer parse dumped = .ok after ∧
      Owned [] after.pd := by
  unfold capturePacket
  cases getIpOffset hdr.linktype with
  | none => exact ⟨capture, rfl, owned⟩
  | some ipoffset =>
    dsimp only
    split
    · exact ⟨capture, rfl, owned⟩
    · obtain ⟨after, result, handled, kept⟩ :=
        handlePacket_ok platform owned parse hdr buffer ipoffset
      simp only [handled, bind, Except.bind, pure, Except.pure]
      split
      · exact ⟨after, rfl, kept⟩
      · exact ⟨_, rfl, kept.of_view rfl⟩

/-- No step accesses or frees a freed connection, and every step leaves each connection
owned. -/
theorem pcapStep_ok (event : PcapEvent) :
    ∃ after, pcapStep platform capture event = .ok after ∧ Owned [] after.pd := by
  cases event with
  | packet hdr buffer parse dumped => exact capturePacket_ok platform owned hdr buffer parse dumped
  | refreshTime now => exact ⟨_, rfl, owned.of_view rfl⟩
  | housekeeping exported =>
    simp only [pcapStep, housekeeping_ok platform owned, bind, Except.bind, pure, Except.pure]
    exact ⟨_, rfl, owned.pdHousekeeping platform exported⟩
  | purgeExpired =>
    obtain ⟨after, result, kept, _⟩ := purgeExpiredConnections_ok platform false owned
    exact ⟨after, result, kept⟩
  | control request => exact ⟨_, rfl, applyControl_owned owned request⟩

theorem runPcap_ok (events : List PcapEvent) :
    ∃ after, runPcap platform capture events = .ok after ∧ Owned [] after.pd := by
  induction events generalizing capture with
  | nil => exact ⟨capture, rfl, owned⟩
  | cons event events ih =>
    obtain ⟨next, step, kept⟩ := pcapStep_ok platform owned event
    obtain ⟨after, rest, final⟩ := ih kept
    refine ⟨after, ?_, final⟩
    unfold runPcap
    rw [List.foldlM_cons, step]
    exact rest

end Callbacks

theorem startCapture_owned (pd : Pcapdroid) (pcapFileCapture : Bool) :
    Owned [] (startCapture pd pcapFileCapture).pd where
  custody := Custody.empty fun id => Nat.not_lt_zero id
  pending id known := absurd known (Nat.not_lt_zero id)
  kept := List.forall_mem_nil _
  purged := List.forall_mem_nil _
  marked := List.forall_mem_nil _

/-- The last dump frees all that is left once the hash table is empty. -/
theorem lastDump_ok {pd : Pcapdroid} (owned : Owned [] pd) (empty : tableConns pd = []) :
    ∃ finished, lastDump pd = .ok finished ∧ Owned [] finished ∧ tableConns finished = [] ∧
      queuedConns finished = [] := by
  have none : ∀ id ∈ tableConns pd, id ∈ queuedConns pd → purges true pd id = false := by
    grind
  obtain ⟨cleared, result⟩ := owned.clearReported true none
  have left := Owned.cleared_holdings true (sendConnectionsDump pd)
  refine ⟨connsClear true (sendConnectionsDump pd), ?_, cleared, ?_, ?_⟩
  · simp only [lastDump, owned.dumpConnections_ok, bind, Except.bind, result]
  · have table : tableConns (connsClear true (sendConnectionsDump pd)) =
        tableConns (sendConnectionsDump pd) := congrArg Holdings.registered left
    rw [table, ← empty]
    exact congrArg Holdings.registered (Owned.dumped_holdings pd).1
  · exact congrArg Holdings.waiting left

/-- No connection is queued twice, none that is in the hash table or in a queue has been
freed, and none has been freed twice. -/
structure FreedSafely (pd : Pcapdroid) : Prop where
  queuedOnce : (queuedConns pd).Nodup
  tableLive : ∀ id ∈ tableConns pd, id ∉ freedConns pd
  queueLive : ∀ id ∈ queuedConns pd, id ∉ freedConns pd
  freedOnce : (freedConns pd).Nodup

theorem Owned.freedSafely {pd : Pcapdroid} (owned : Owned [] pd) : FreedSafely pd where
  queuedOnce := owned.custody.waiting_nodup
  tableLive _ member := (owned.table_live member).2
  queueLive _ member := (owned.queue_live member).2
  freedOnce := owned.custody.released_nodup

/-- In a root or PCAP-file capture, connections are freed only when nothing refers to
them, and at its end each of them has been freed once. -/
theorem connections_freed_once (platform : Platform) (config : Pcapdroid) (pcapFileCapture : Bool)
    (events : List PcapEvent) :
    ∃ stopped, runPcap platform (startCapture config pcapFileCapture) events = .ok stopped ∧
      FreedSafely stopped.pd ∧
      ∃ purged, purgeExpiredConnections platform true stopped = .ok purged ∧
        FreedSafely purged.pd ∧
        ∃ finished, lastDump purged.pd = .ok finished ∧ FreedSafely finished ∧
          ∀ id < finished.newConnId, (freedConns finished).count id = 1 := by
  obtain ⟨stopped, ran, running⟩ :=
    runPcap_ok platform (startCapture_owned config pcapFileCapture) events
  obtain ⟨purged, cleaned, owned, emptied⟩ := purgeExpiredConnections_ok platform true running
  obtain ⟨finished, dumped, final, noTable, noQueue⟩ := lastDump_ok owned (emptied rfl)
  refine ⟨stopped, ran, running.freedSafely, purged, cleaned, owned.freedSafely, finished, dumped,
    final.freedSafely, ?_⟩
  intro id known
  refine List.count_eq_one_of_mem final.custody.released_nodup ?_
  rcases final.custody.covered id known with registered | waiting | freed | held
  · change id ∈ tableConns finished at registered
    rw [noTable] at registered
    cases registered
  · change id ∈ queuedConns finished at waiting
    rw [noQueue] at waiting
    cases waiting
  · exact freed
  · cases held

end PcapdroidFormal.Pcap
