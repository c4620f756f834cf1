import PcapdroidFormal.Pcap.Table

/-!
# The clock and the statuses of connections

Only `pd_refresh_time` moves the clock, and only `update_connection_status` and
`purge_expired_connections` change the status of a connection.  What remains leaves both
alone.
-/

namespace PcapdroidFormal.Pcap

open PcapdroidFormal.Core Firewall Foundation
open Vpn (Control applyControl pdRefreshTime countFragment)

/-- The clock and the statuses stay as they are. -/
structure SameTimes (before after : Pcapdroid) : Prop where
  nowMs : after.nowMs = before.nowMs
  status : ∀ id, (after.conn id).status = (before.conn id).status

namespace SameTimes

variable {first second third pd : Pcapdroid} {id : ConnId}

theorem refl (pd : Pcapdroid) : SameTimes pd pd := ⟨rfl, fun _ => rfl⟩

theorem trans (earlier : SameTimes first second) (later : SameTimes second third) :
    SameTimes first third :=
  ⟨later.nowMs.trans earlier.nowMs, fun id => (later.status id).trans (earlier.status id)⟩

/-- The connections stay as they are. -/
theorem of_heap (nowMs : second.nowMs = first.nowMs) (heap : second.heap = first.heap) :
    SameTimes first second :=
  ⟨nowMs, fun id => congrArg Conn.status (congrFun heap id)⟩

theorem setConn {data : Conn} (status : data.status = (pd.conn id).status) :
    SameTimes pd (pd.setConn id data) :=
  ⟨rfl, fun other => Pcapdroid.setConn_cases status (fun _ _ => rfl) other⟩

theorem of_worked (worked : Worked id first second) (nowMs : second.nowMs = first.nowMs) :
    SameTimes first second := by
  refine ⟨nowMs, fun other => ?_⟩
  by_cases own : other = id
  · subst own
    exact congrArg ConnLedger.status worked.own.ledger
  · exact congrArg ConnLedger.status (worked.others other own).ledger

end SameTimes

theorem nowMs_of_touches {touched : List ConnId} {before after : Pcapdroid}
    (step : TouchesOnly touched before after) : after.nowMs = before.nowMs := by
  obtain ⟨⟨_, _, _, rfl⟩, _⟩ := step
  rfl

section Callbacks

variable (platform : Platform)

section

variable (pd : Pcapdroid) (pkt : ZdtunPkt) (isTx : Bool) (tuple : FiveTuple) (id : ConnId)
    (ms : Nat)

theorem notify_sameTimes :
    SameTimes pd (pdNotifyConnectionUpdate platform pd tuple id) :=
  .of_worked (pdNotifyConnectionUpdate_worked platform pd tuple id)
    (nowMs_of_touches (pdNotifyConnectionUpdate_touches platform pd tuple id))

/-! ## Packets -/

theorem completeDetection_nowMs :
    (completeDetection platform pd tuple id).nowMs = pd.nowMs := by
  simp only [completeDetection]
  split
  · exact (notify_sameTimes platform _ tuple id).nowMs
  · rfl

theorem performDpi_nowMs (pctx : PktContext) (flow : NdpiFlow) :
    (performDpi platform pd pctx flow).nowMs = pd.nowMs := by
  simp only [performDpi]
  refine (completeDetection_nowMs platform _ _ _).trans ?_
  unfold delayNetdDump processDnsReply
  split_ifs <;> rfl

theorem pdProcessPacket_nowMs :
    (pdProcessPacket platform pd pkt isTx tuple id ms).1.nowMs = pd.nowMs := by
  have payload (pd : Pcapdroid) (pctx : PktContext) :
      (processPayload platform pd pctx).1.nowMs = pd.nowMs := by
    simp only [processPayload]
    split
    · rfl
    · split
      · exact (notify_sameTimes platform _ _ _).nowMs
      · rfl
  have inspected (pd : Pcapdroid) (pctx : PktContext) :
      (inspectPacket platform pd pctx).nowMs = pd.nowMs := by
    unfold inspectPacket
    split
    · rfl
    · split
      · exact performDpi_nowMs platform pd pctx _
      · rfl
  exact (payload _ _).trans (inspected _ _)

theorem pdProcessPacket_sameTimes :
    SameTimes pd (pdProcessPacket platform pd pkt isTx tuple id ms).1 := by
  have taken : SameTimes pd pd.takeContext := .of_heap rfl rfl
  exact taken.trans (.of_worked (pdProcessPacket_worked platform pd pkt isTx tuple id ms)
    (pdProcessPacket_nowMs platform pd pkt isTx tuple id ms))

end

variable (exported : Bool) (pd : Pcapdroid) (tuple : FiveTuple) (uid : Int)

theorem pdAccountStats_sameTimes (pctx : PktContext) :
    SameTimes pd (pdAccountStats platform pd pctx) := by
  have started : SameTimes pd ((pd.emit (.account pctx)).setCaptureStats
      (pd.captureStats.countPacket pctx.pkt pctx.isTx)) := .of_heap rfl rfl
  have counted : ((pd.conn pctx.data).countPacket pctx.pkt pctx.isTx).markStats.status =
      (pd.conn pctx.data).status := by
    simp only [Conn.countPacket]
    split <;> rfl
  exact pdAccountStats_invariant platform ((started.trans (.setConn counted)).trans
    (notify_sameTimes platform _ pctx.tuple pctx.data)) (·.trans (.of_heap rfl rfl))
    (·.trans (.of_heap rfl rfl))

/-! ## New connections -/

theorem resolveHost_nowMs (id : ConnId) :
    (resolveHost pd tuple uid id).nowMs = pd.nowMs := by
  rcases found : pd.ipToHost.findEntry tuple.dstIp with ⟨info, ipToHost⟩
  cases info with
  | none =>
    simp only [resolveHost, found]
  | some host =>
    obtain ⟨mid, ⟨⟨_, _, _, rfl⟩, _⟩, result⟩ := resolveHost_found pd tuple uid id found
    rw [result]
    rfl

/-- A new connection leaves the others alone. -/
theorem pdNewConnection_times :
    (pdNewConnection platform pd tuple uid).1.nowMs = pd.nowMs ∧
      ∀ id, id ≠ pd.newConnId →
        ((pdNewConnection platform pd tuple uid).1.conn id).status = (pd.conn id).status := by
  have clock : (pdNewConnection platform pd tuple uid).1.nowMs =
      (registerConnection platform pd tuple uid).nowMs := by
    simp only [pdNewConnection, decideConnection_eq]
    exact resolveHost_nowMs _ _ _ _
  have worked := SameTimes.of_worked (pdNewConnection_worked platform pd tuple uid) clock
  rw [registerConnection_eq] at worked
  refine ⟨worked.nowMs, fun id other => (worked.status id).trans ?_⟩
  rw [Pcapdroid.setConn_conn_other _ _ other]
  rfl

/-! ## Housekeeping -/

theorem periodicTask_nowMs :
    (periodicTask exported pd).nowMs = pd.nowMs := by
  obtain ⟨fields, same | dumped⟩ := periodicTask_eq exported pd
  · rw [same]
    rfl
  · obtain ⟨heap, sent⟩ := sendConnectionsDump_rest pd
    rw [dumped, sent, connsClear_eq]
    rfl

theorem periodicTask_sameTimes :
    SameTimes pd (periodicTask exported pd) := by
  refine ⟨periodicTask_nowMs exported pd, ?_⟩
  intro id
  rcases (periodicTask_periodicStep exported pd).conns id with same | reported
  · rw [same]
  · rw [reported]
    rfl

theorem checkBlockedConnCb_sameTimes (id : ConnId) :
    SameTimes pd (checkBlockedConnCb platform pd tuple id) := by
  have noted : SameTimes pd (noteRecheck pd tuple id) := .of_heap rfl rfl
  rw [checkBlockedConnCb_eq]
  split
  · exact noted
  · have blocked : ((pd.conn id).setToBlock (policy pd tuple (pd.conn id))).markStats.status =
      ((noteRecheck pd tuple id).conn id).status := rfl
    exact (noted.trans (.setConn blocked)).trans (notify_sameTimes platform _ tuple id)

theorem checkBlacklistedConnCb_sameTimes (id : ConnId) :
    SameTimes pd (checkBlacklistedConnCb platform pd tuple id) := by
  apply checkBlacklistedConnCb_invariant
  · exact .refl pd
  · intro whitelist
    exact .setConn rfl
  · intro after same
    exact same.trans (checkBlockedConnCb_sameTimes platform after tuple id)
  · intro after same
    have marked : SameTimes after (after.setConn id (after.conn id).markStats) := .setConn rfl
    exact (same.trans marked).trans (notify_sameTimes platform _ tuple id)

theorem SameTimes.keptByHousekeeping :
    KeptByHousekeeping platform (SameTimes pd) where
  periodicTask exported same := same.trans (periodicTask_sameTimes exported _)
  setMalwareDetection _ same := same.trans (.of_heap rfl rfl)
  setFirewall _ same := same.trans (.of_heap rfl rfl)
  setTlsDecryption _ same := same.trans (.of_heap rfl rfl)
  checkBlacklistedConnCb _ same := same.trans (checkBlacklistedConnCb_sameTimes platform _ _ _)
  checkBlockedConnCb _ same := same.trans (checkBlockedConnCb_sameTimes platform _ _ _)

theorem pdHousekeeping_sameTimes :
    SameTimes pd (pdHousekeeping platform exported pd) :=
  (SameTimes.keptByHousekeeping platform pd).pdHousekeeping exported (.refl pd)

end Callbacks

theorem applyControl_sameTimes (pd : Pcapdroid) (control : Control) :
    SameTimes pd (applyControl pd control) := by
  obtain ⟨_, _, _, _, _, _, _, _, same, -⟩ := Vpn.applyControl_eq pd control
  rw [same]
  exact .of_heap rfl rfl

end PcapdroidFormal.Pcap
