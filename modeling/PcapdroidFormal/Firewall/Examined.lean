import Mathlib.Data.List.Perm.Basic
import PcapdroidFormal.Core.Packets
import PcapdroidFormal.Core.Queues
import PcapdroidFormal.Firewall.Recheck

/-!
# What an examination leaves alone

Deep packet inspection, payload and new connections change what is known about
a connection and may block it.  They count nothing, close nothing and keep an
update that is due; the connection they are about may be queued.
-/

namespace PcapdroidFormal.Firewall

open PcapdroidFormal.Core

/-! ## One connection -/

/-- What an examination of a connection does not change. -/
structure ConnLedger where
  fwPctx : Option PktContext
  payloadLength : Nat
  sentBytes : Nat
  rcvdBytes : Nat
  sentPkts : Nat
  rcvdPkts : Nat
  blockedPkts : Nat
  status : ConnStatus
  pendingNotification : Bool
  toPurge : Bool

def connLedger (data : Conn) : ConnLedger where
  fwPctx := data.fwPctx
  payloadLength := data.payloadLength
  sentBytes := data.sentBytes
  rcvdBytes := data.rcvdBytes
  sentPkts := data.sentPkts
  rcvdPkts := data.rcvdPkts
  blockedPkts := data.blockedPkts
  status := data.status
  pendingNotification := data.pendingNotification
  toPurge := data.toPurge

/-- An update of the connection is due: `update_type != 0`. -/
def Marked (data : Conn) : Prop := data.updateType ≠ .none

theorem markStats_marked (data : Conn) : Marked data.markStats := by
  intro none
  exact absurd (congrArg UpdateType.stats none) Bool.true_eq_false.mp

theorem markInfo_marked (data : Conn) : Marked data.markInfo := by
  intro none
  exact absurd (congrArg UpdateType.info none) Bool.true_eq_false.mp

theorem markPayload_marked (data : Conn) (truncated : Bool) :
    Marked (data.markPayload truncated) := by
  intro none
  exact absurd (congrArg UpdateType.payload none) Bool.true_eq_false.mp

/-- The connection has been examined, and not unblocked. -/
structure Examined (before after : Conn) : Prop where
  ledger : connLedger after = connLedger before
  toBlock_le : before.toBlock ≤ after.toBlock
  marked : Marked before → Marked after

namespace Examined

variable {first second third : Conn}

theorem refl (data : Conn) : Examined data data := ⟨rfl, le_rfl, id⟩

theorem trans (earlier : Examined first second) (later : Examined second third) :
    Examined first third :=
  ⟨later.ledger.trans earlier.ledger, earlier.toBlock_le.trans later.toBlock_le,
    later.marked ∘ earlier.marked⟩

variable (step : Examined first second)
include step

theorem markInfo : Examined first second.markInfo :=
  ⟨step.ledger, step.toBlock_le, fun _ => markInfo_marked second⟩

theorem markPayload (truncated : Bool) : Examined first (second.markPayload truncated) :=
  ⟨step.ledger, step.toBlock_le, fun _ => markPayload_marked second truncated⟩

theorem pending : second.pendingNotification = first.pendingNotification :=
  congrArg ConnLedger.pendingNotification step.ledger

theorem toPurge : second.toPurge = first.toPurge :=
  congrArg ConnLedger.toPurge step.ledger

theorem markPending : Examined first.markPending second.markPending :=
  ⟨congrArg (fun ledger => { ledger with pendingNotification := true }) step.ledger,
    step.toBlock_le, step.marked⟩

end Examined

section

variable (pd : Pcapdroid) (found : Option Host) (tuple : FiveTuple) (flow : NdpiFlow) (data : Conn)

theorem checkBlacklistedDomain_examined :
    Examined data (checkBlacklistedDomain pd data) := by
  rw [checkBlacklistedDomain_eq, Bool.or_assoc]
  exact ⟨rfl, Bool.left_le_or _ _, id⟩

theorem flagInternal_examined (hit : Bool) :
    Examined data (flagInternal data hit) :=
  ⟨rfl, Bool.left_le_or _ _, id⟩

theorem processAlpn_examined :
    Examined data (processAlpn flow data) := by
  have known (alpn : L7Proto) : Examined data { data with alpn := alpn } := ⟨rfl, le_rfl, id⟩
  unfold processAlpn
  cases flow.alpn with
  | none => exact .refl data
  | some alpn =>
    dsimp only
    split
    · exact .refl data
    · split
      · exact (known .http).markInfo
      · split
        · exact (known .mailImap).markInfo
        · split
          · exact (known .mailSmtp).markInfo
          · exact known .tls

theorem processProtocol_examined :
    Examined data (processProtocol flow data) := by
  unfold processProtocol
  split
  · exact processAlpn_examined flow data
  · unfold processUrl
    split
    next url _ _ =>
      have found : Examined data { data with url := some (url.take 256) } := ⟨rfl, le_rfl, id⟩
      exact found.markInfo
    next => exact .refl data
  · exact .refl data

theorem updateInfo_examined :
    Examined data (updateInfo pd found data) := by
  unfold updateInfo
  cases found with
  | none => exact .refl data
  | some host =>
    dsimp only
    split
    · have named : Examined data (inspectedConn (host.take 256) data) := ⟨rfl, le_rfl, id⟩
      exact (named.trans (checkBlacklistedDomain_examined pd _)).markInfo
    · exact .refl data

theorem processNdpiData_examined : Examined data (processNdpiData pd tuple flow data) := by
  have inspected := (processProtocol_examined flow data).trans
    (updateInfo_examined pd (foundInfo (processProtocol flow data).l7proto flow)
      (processProtocol flow data))
  simp only [processNdpiData]
  split
  · rw [vpnProcessNdpi_eq]
    exact inspected.trans (flagInternal_examined _ _)
  · exact inspected

end

theorem NetdResolved.examined {uid : Int} {before after : Conn}
    (resolved : NetdResolved uid before after) : Examined before after := by
  cases resolved with
  | kept missed => exact ⟨rfl, le_rfl, id⟩
  | renamed missed netd => exact ⟨rfl, le_rfl, id⟩

section Callbacks

variable (platform : Platform)

theorem pdGiveupDpi_examined (pd : Pcapdroid) (tuple : FiveTuple) (data : Conn) :
    Examined data (pdGiveupDpi platform pd tuple data) := by
  unfold pdGiveupDpi
  cases data.ndpiFlow with
  | none => exact .refl data
  | some flow =>
    have guessed : Examined data (guessProtocol platform flow data).2 := by
      unfold guessProtocol
      split
      · exact ⟨rfl, le_rfl, id⟩
      · exact .refl data
    have inspected := guessed.trans (processNdpiData_examined pd tuple
      (guessProtocol platform flow data).1 (guessProtocol platform flow data).2)
    exact inspected.trans ⟨rfl, le_rfl, id⟩

theorem detectProtocol_examined (detected : NdpiFlow × L7Proto) (data : Conn) :
    Examined data (detectProtocol platform detected data) := by
  have flow : Examined data (data.setFlow detected.1) := ⟨rfl, le_rfl, id⟩
  unfold detectProtocol
  split
  · have known : Examined (data.setFlow detected.1) ((data.setFlow detected.1).setL7proto detected.2
        (platform.isEncryptedL7 detected.2)) := ⟨rfl, le_rfl, id⟩
    exact (flow.trans known).markInfo
  · exact flow

theorem dumpPayload_examined (pd : Pcapdroid) (pctx : PktContext) (data : Conn) :
    Examined data (dumpPayload platform pd pctx data).1 := by
  simp only [dumpPayload]
  split
  · split
    · exact ⟨rfl, le_rfl, id⟩
    · exact .refl data
  · exact .refl data

end Callbacks

/-- What counting, queueing and dumping a packet keeps is kept by `pd_account_stats`. -/
@[elab_as_elim]
theorem pdAccountStats_invariant (platform : Platform) {kept : Pcapdroid → Prop} {pd : Pcapdroid}
    {pctx : PktContext}
    (queued : kept (pdNotifyConnectionUpdate platform
      (((pd.emit (.account pctx)).setCaptureStats
        (pd.captureStats.countPacket pctx.pkt pctx.isTx)).setConn pctx.data
          ((pd.conn pctx.data).countPacket pctx.pkt pctx.isTx).markStats) pctx.tuple pctx.data))
    (dumped : ∀ {pd}, kept pd → kept (pd.emit (.dump pctx)))
    (stopped : ∀ {pd}, kept pd → kept pd.stopPcapDump) :
    kept (pdAccountStats platform pd pctx) := by
  simp only [pdAccountStats, pdDumpPacket]
  split
  · split
    · exact dumped queued
    · exact stopped (dumped queued)
  · exact queued

/-! ## The capture -/

/-- The connection is queued if it is not pending already. -/
inductive Queueing (id : ConnId) (before after : Pcapdroid) : Prop where
  | kept (queue : queuedConns after = queuedConns before)
      (pending : (after.conn id).pendingNotification = (before.conn id).pendingNotification)
  | queued (queue : (queuedConns after).Perm (id :: queuedConns before))
      (idle : (before.conn id).pendingNotification = false)
      (pending : (after.conn id).pendingNotification = true)

theorem Queueing.trans {id : ConnId} {first second third : Pcapdroid}
    (earlier : Queueing id first second) (later : Queueing id second third) :
    Queueing id first third := by
  cases earlier with
  | kept queue pending =>
    cases later with
    | kept queue' pending' => exact .kept (queue'.trans queue) (pending'.trans pending)
    | queued queue' idle pending' => exact .queued (queue ▸ queue') (pending ▸ idle) pending'
  | queued queue idle pending =>
    cases later with
    | kept queue' pending' => exact .queued (queue' ▸ queue) idle (pending'.trans pending)
    | queued _ idle' _ => grind

/-- What an examination does not change, apart from connections and queues. -/
structure CaptureLedger where
  newConnId : ConnId
  contexts : Nat
  running : Bool
  captureStats : CaptureStats
  effects : List Effect
  connections : List ConnAndTuple

def captureLedger (pd : Pcapdroid) : CaptureLedger where
  newConnId := pd.newConnId
  contexts := pd.contexts
  running := pd.running
  captureStats := pd.captureStats
  effects := pd.effects
  connections := pd.connections

/-- Connections are examined; only this one may be queued. -/
structure Worked (id : ConnId) (before after : Pcapdroid) : Prop where
  ledger : captureLedger after = captureLedger before
  own : Examined (before.conn id).markPending (after.conn id).markPending
  others : ∀ other, other ≠ id → Examined (before.conn other) (after.conn other)
  queue : Queueing id before after

namespace Worked

variable {id : ConnId} {first second third : Pcapdroid}

/-- Neither connections nor queues change. -/
theorem of_same (ledger : captureLedger second = captureLedger first)
    (heap : second.heap = first.heap) (queue : queuedConns second = queuedConns first) :
    Worked id first second := by
  have conn (other : ConnId) : second.conn other = first.conn other := congrFun heap other
  refine ⟨ledger, ?_, ?_, .kept queue (by rw [conn])⟩
  · rw [conn]
    exact .refl _
  · intro other _
    rw [conn]
    exact .refl _

theorem refl (pd : Pcapdroid) : Worked id pd pd := of_same rfl rfl rfl

theorem trans (earlier : Worked id first second) (later : Worked id second third) :
    Worked id first third where
  ledger := later.ledger.trans earlier.ledger
  own := earlier.own.trans later.own
  others other different := (earlier.others other different).trans (later.others other different)
  queue := earlier.queue.trans later.queue

theorem setConn {pd : Pcapdroid} {data : Conn} (examined : Examined (pd.conn id) data) :
    Worked id pd (pd.setConn id data) := by
  refine ⟨rfl, ?_, ?_, .kept rfl ?_⟩
  · rw [Pcapdroid.setConn_conn_self]
    exact examined.markPending
  · intro other different
    rw [Pcapdroid.setConn_conn_other _ _ different]
    exact .refl _
  · rw [Pcapdroid.setConn_conn_self]
    exact examined.pending

end Worked

section Callbacks

variable (platform : Platform)

variable (pd : Pcapdroid) (pctx : PktContext) (tuple : FiveTuple) (uid : Int) (id : ConnId)

theorem pdNotifyConnectionUpdate_worked :
    Worked id pd (pdNotifyConnectionUpdate platform pd tuple id) := by
  have given : Examined (pd.conn id) (if (pd.conn id).status.isClosed = true then
      pdGiveupDpi platform pd tuple (pd.conn id) else pd.conn id) := by
    split
    · exact pdGiveupDpi_examined platform pd tuple _
    · exact .refl _
  simp only [pdNotifyConnectionUpdate, notifConnection]
  generalize (if (pd.conn id).status.isClosed = true then
    pdGiveupDpi platform pd tuple (pd.conn id) else pd.conn id) = data at given ⊢
  split
  next => exact .setConn given
  next idle =>
    have waiting : queuedConns (enqueue pd .connsUpdates ⟨tuple, id⟩) =
        queuedConns pd ++ [id] := by
      simp [queuedConns, enqueue]
    refine ⟨rfl, ?_, ?_, .queued ?_ ?_ ?_⟩
    · rw [Pcapdroid.setConn_conn_self]
      exact given.markPending
    · intro other different
      rw [Pcapdroid.setConn_conn_other _ _ different]
      exact .refl _
    · change (queuedConns (enqueue pd .connsUpdates ⟨tuple, id⟩)).Perm _
      grind
    · rw [← given.pending]
      grind
    · rw [Pcapdroid.setConn_conn_self]
      rfl

/-- A connection is changed and queued. -/
theorem notify_worked {pd : Pcapdroid} {id : ConnId} {data : Conn}
    (examined : Examined (pd.conn id) data) :
    Worked id pd (pdNotifyConnectionUpdate platform (pd.setConn id data) tuple id) :=
  (Worked.setConn examined).trans (pdNotifyConnectionUpdate_worked platform _ tuple id)

/-! ## Processing a packet -/

theorem completeDetection_worked :
    Worked id pd (completeDetection platform pd tuple id) := by
  simp only [completeDetection]
  split
  · have assumed : Examined (pd.conn id)
        ((pd.conn id).setAlpn (assumedAlpn tuple (pd.conn id))) := ⟨rfl, le_rfl, fun due => due⟩
    exact notify_worked platform tuple assumed.markInfo
  · exact .refl pd

theorem processDnsReply_worked (query : Host) (pkt : ZdtunPkt) (id : ConnId) :
    Worked id pd (processDnsReply platform pd query pkt) := by
  unfold processDnsReply
  split
  · exact .of_same rfl rfl rfl
  · exact .refl pd

theorem delayNetdDump_worked (data : Conn) (id : ConnId) :
    Worked id pd (delayNetdDump pd data) := by
  unfold delayNetdDump
  split
  · exact .of_same rfl rfl rfl
  · exact .refl pd

theorem performDpi_worked (flow : NdpiFlow) :
    Worked pctx.data pd (performDpi platform pd pctx flow) := by
  simp only [performDpi]
  generalize platform.processPacket flow pctx.pkt = detected
  have found := detectProtocol_examined platform detected (pd.conn pctx.data)
  generalize detectProtocol platform detected (pd.conn pctx.data) = data at found ⊢
  have learned : Worked pctx.data pd (if (!pctx.isTx && data.l7proto == .dns) = true then
      processDnsReply platform pd detected.1.hostServerName pctx.pkt else pd) := by
    split
    · exact processDnsReply_worked platform pd _ pctx.pkt _
    · exact .refl pd
  have conn : (if (!pctx.isTx && data.l7proto == .dns) = true then
      processDnsReply platform pd detected.1.hostServerName pctx.pkt else pd).conn pctx.data =
      pd.conn pctx.data := by
    unfold processDnsReply
    split
    · split <;> rfl
    · rfl
  generalize (if (!pctx.isTx && data.l7proto == .dns) = true then
    processDnsReply platform pd detected.1.hostServerName pctx.pkt else pd) = after at learned conn ⊢
  have inspected : Examined data (if detectionComplete platform detected.1 data = true then
      pdGiveupDpi platform after pctx.pkt.tuple data
      else processNdpiData after pctx.pkt.tuple detected.1 data) := by
    split
    · exact pdGiveupDpi_examined platform after pctx.pkt.tuple data
    · exact processNdpiData_examined after pctx.pkt.tuple detected.1 data
  rw [← conn] at found
  exact ((learned.trans (.setConn (found.trans inspected))).trans
    (delayNetdDump_worked _ _ _)).trans (completeDetection_worked platform _ _ _)

theorem inspectPacket_worked :
    Worked pctx.data pd (inspectPacket platform pd pctx) := by
  unfold inspectPacket
  split
  · exact .refl pd
  · split
    · exact performDpi_worked platform pd pctx _
    · exact .refl pd

theorem processPayload_worked :
    Worked pctx.data pd (processPayload platform pd pctx).1 := by
  simp only [processPayload]
  split
  · exact .refl pd
  · have dumped := dumpPayload_examined platform pd pctx (pd.conn pctx.data)
    generalize dumpPayload platform pd pctx (pd.conn pctx.data) = result at dumped ⊢
    split
    · exact notify_worked platform pctx.tuple (dumped.markPayload result.2.2)
    · exact .setConn dumped

/-- All that `pd_process_packet` does after it has taken a context. -/
theorem pdProcessPacket_worked (pkt : ZdtunPkt) (isTx : Bool)
    (tuple : FiveTuple) (id : ConnId) (ms : Nat) :
    Worked id pd.takeContext (pdProcessPacket platform pd pkt isTx tuple id ms).1 := by
  have seen : Worked id pd.takeContext (pd.takeContext.setConn id ((pd.conn id).seen ms)) :=
    .setConn ⟨rfl, le_rfl, fun due => due⟩
  have inspected := seen.trans (inspectPacket_worked platform _
    ⟨pd.contexts, pkt, ms, isTx, tuple, id⟩)
  exact inspected.trans (processPayload_worked platform _ ⟨pd.contexts, pkt, ms, isTx, tuple, id⟩)

/-! ## New connections -/

theorem NetdResolution.worked {uid : Int} {before after : Pcapdroid}
    (resolution : NetdResolution uid before after) (id : ConnId) : Worked id before after := by
  obtain ⟨⟨heap, waiting, next, rfl⟩, resolved⟩ := resolution
  refine ⟨rfl, ?_, ?_, .kept rfl ?_⟩
  · exact (NetdResolved.examined (resolved id)).markPending
  · intro other _
    exact NetdResolved.examined (resolved other)
  · exact (NetdResolved.examined (resolved id)).pending

theorem resolveHost_worked :
    Worked id pd (resolveHost pd tuple uid id) := by
  rcases found : pd.ipToHost.findEntry tuple.dstIp with ⟨info, ipToHost⟩
  have used : Worked id pd { pd with ipToHost := ipToHost } := .of_same rfl rfl rfl
  cases info with
  | none =>
    simp only [resolveHost, found]
    exact used
  | some host =>
    obtain ⟨mid, resolution, result⟩ := resolveHost_found pd tuple uid id found
    have named : Worked id { pd with ipToHost := ipToHost }
        (Pcapdroid.setConn { pd with ipToHost := ipToHost } id (cachedHost host (pd.conn id))) :=
      .setConn ⟨rfl, le_rfl, fun due => due⟩
    rw [result]
    exact ((used.trans named).trans (NetdResolution.worked resolution id)).trans
      (.setConn (checkBlacklistedDomain_examined mid _))

/-- After its registration, a new connection is only decided on. -/
theorem pdNewConnection_worked :
    Worked pd.newConnId (registerConnection platform pd tuple uid)
      (pdNewConnection platform pd tuple uid).1 := by
  have resolved := resolveHost_worked (registerConnection platform pd tuple uid) tuple uid
    pd.newConnId
  simp only [pdNewConnection, decideConnection_eq]
  generalize resolveHost (registerConnection platform pd tuple uid) tuple uid pd.newConnId =
    named at resolved ⊢
  have counted : Worked pd.newConnId named
      (countChecks named (checkBlacklistedIp named tuple (named.conn pd.newConnId)).toBlock) :=
    .of_same rfl rfl rfl
  refine (resolved.trans counted).trans (.setConn ?_)
  rw [decidedConn_eq, Bool.or_assoc, Bool.or_assoc]
  exact ⟨rfl, Bool.left_le_or _ _, fun due => due⟩

end Callbacks

end PcapdroidFormal.Firewall
