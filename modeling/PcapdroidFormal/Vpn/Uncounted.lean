import PcapdroidFormal.Firewall.Examined
import PcapdroidFormal.Foundation.Runs
import PcapdroidFormal.Vpn.PacketLoop

/-!
# Steps that count no packet

Most of what happens to a connection counts none of its packets and leaves its
`fw_pctx` alone.  None of it unblocks a connection, except for the re-check.
-/

namespace PcapdroidFormal.Vpn

open PcapdroidFormal.Core Firewall Foundation

/-- Packets and bytes of both directions. -/
structure Traffic where
  sentPkts : Nat
  sentBytes : Nat
  rcvdPkts : Nat
  rcvdBytes : Nat
  deriving DecidableEq, Repr

/-- The counters of a connection. -/
def connTraffic (data : Conn) : Traffic :=
  ⟨data.sentPkts, data.sentBytes, data.rcvdPkts, data.rcvdBytes⟩

/-- The counters of the capture. -/
def captureTraffic (stats : CaptureStats) : Traffic :=
  ⟨stats.sentPkts, stats.sentBytes, stats.rcvdPkts, stats.rcvdBytes⟩

def ipv6Bytes (stats : CaptureStats) : Nat × Nat := (stats.ipv6SentBytes, stats.ipv6RcvdBytes)

/-! ## One connection -/

/-- No packet of the connection is counted, and the connection is not unblocked. -/
structure ConnUncounted (before after : Conn) : Prop where
  fwPctx_eq : after.fwPctx = before.fwPctx
  traffic_eq : connTraffic after = connTraffic before
  blockedPkts_eq : after.blockedPkts = before.blockedPkts
  toBlock_le : before.toBlock ≤ after.toBlock

/-- What the counters and the verdict of a connection depend on. -/
def connView (data : Conn) : Option PktContext × Traffic × Nat × Bool :=
  (data.fwPctx, connTraffic data, data.blockedPkts, data.toBlock)

namespace ConnUncounted

variable {first second third : Conn}

theorem of_view (same : connView second = connView first) : ConnUncounted first second := by
  obtain ⟨fwPctx, rest⟩ := Prod.mk.inj same
  obtain ⟨traffic, rest⟩ := Prod.mk.inj rest
  obtain ⟨blockedPkts, toBlock⟩ := Prod.mk.inj rest
  exact ⟨fwPctx, traffic, blockedPkts, le_of_eq toBlock.symm⟩

theorem refl (data : Conn) : ConnUncounted data data := of_view rfl

theorem trans (earlier : ConnUncounted first second) (later : ConnUncounted second third) :
    ConnUncounted first third where
  fwPctx_eq := later.fwPctx_eq.trans earlier.fwPctx_eq
  traffic_eq := later.traffic_eq.trans earlier.traffic_eq
  blockedPkts_eq := later.blockedPkts_eq.trans earlier.blockedPkts_eq
  toBlock_le := earlier.toBlock_le.trans later.toBlock_le

end ConnUncounted

theorem Examined.uncounted {before after : Conn} (examined : Examined before after) :
    ConnUncounted before after where
  fwPctx_eq := congrArg ConnLedger.fwPctx examined.ledger
  traffic_eq := congrArg (fun ledger => (⟨ledger.sentPkts, ledger.sentBytes, ledger.rcvdPkts,
    ledger.rcvdBytes⟩ : Traffic)) examined.ledger
  blockedPkts_eq := congrArg ConnLedger.blockedPkts examined.ledger
  toBlock_le := examined.toBlock_le

theorem prepareConnection_uncounted (mappings : PortMap) (pd : Pcapdroid) (tuple : FiveTuple)
    (data : Conn) : ConnUncounted data (prepareConnection mappings pd tuple data) := by
  have proxified : ConnUncounted data (shouldProxify pd tuple data).1 := by
    unfold shouldProxify
    split
    · split
      · exact .of_view rfl
      · exact .refl data
    · exact .refl data
  unfold prepareConnection
  split
  · exact .of_view rfl
  · dsimp only
    split
    · exact proxified.trans (.of_view rfl)
    · exact proxified

theorem refuseConn_uncounted (data : Conn) (refused : Bool) :
    ConnUncounted data (refuseConn data refused) :=
  ⟨rfl, rfl, rfl, Bool.left_le_or _ _⟩

theorem Reported.uncounted {before after : Conn} (reported : Reported before after) :
    ConnUncounted before after := by
  rcases reported with rfl | rfl
  · exact .refl _
  · exact .of_view rfl

/-! ## The capture -/

/-- The step counts no packet and opens, closes and unblocks no connection.  It may free
connections. -/
structure Uncounted (before after : Pcapdroid) : Prop where
  newConnId : after.newConnId = before.newConnId
  contexts : after.contexts = before.contexts
  running : after.running = before.running
  capture : captureTraffic after.captureStats = captureTraffic before.captureStats
  ipv6 : ipv6Bytes after.captureStats = ipv6Bytes before.captureStats
  effects : ∃ freed : List ConnId, after.effects = before.effects ++ freed.map Effect.free
  connections : after.connections = before.connections
  conns : ∀ id, ConnUncounted (before.conn id) (after.conn id)

/-- What the counters and verdicts of a capture depend on. -/
structure View where
  newConnId : ConnId
  contexts : Nat
  running : Bool
  capture : Traffic
  ipv6 : Nat × Nat
  effects : List Effect
  connections : List ConnAndTuple
  heap : ConnId → Conn

def view (pd : Pcapdroid) : View where
  newConnId := pd.newConnId
  contexts := pd.contexts
  running := pd.running
  capture := captureTraffic pd.captureStats
  ipv6 := ipv6Bytes pd.captureStats
  effects := pd.effects
  connections := pd.connections
  heap := pd.heap

namespace Uncounted

variable {first second third : Pcapdroid}

/-- Nothing that matters here changes. -/
theorem of_view (same : view second = view first) : Uncounted first second where
  newConnId := congrArg View.newConnId same
  contexts := congrArg View.contexts same
  running := congrArg View.running same
  capture := congrArg View.capture same
  ipv6 := congrArg View.ipv6 same
  effects := by
    have effects : second.effects = first.effects := congrArg View.effects same
    exact ⟨[], by grind⟩
  connections := congrArg View.connections same
  conns id := by
    have heap : second.heap = first.heap := congrArg View.heap same
    unfold Pcapdroid.conn
    rw [heap]
    exact .refl _

theorem refl (pd : Pcapdroid) : Uncounted pd pd := of_view rfl

theorem trans (earlier : Uncounted first second) (later : Uncounted second third) :
    Uncounted first third where
  newConnId := later.newConnId.trans earlier.newConnId
  contexts := later.contexts.trans earlier.contexts
  running := later.running.trans earlier.running
  capture := later.capture.trans earlier.capture
  ipv6 := later.ipv6.trans earlier.ipv6
  effects := by
    obtain ⟨freed, before⟩ := earlier.effects
    obtain ⟨more, after⟩ := later.effects
    refine ⟨freed ++ more, ?_⟩
    grind
  connections := later.connections.trans earlier.connections
  conns id := (earlier.conns id).trans (later.conns id)

/-- The next context is taken after the step instead of before it. -/
theorem takeContext (step : Uncounted first second) :
    Uncounted first.takeContext second.takeContext where
  newConnId := step.newConnId
  contexts := congrArg (· + 1) step.contexts
  running := step.running
  capture := step.capture
  ipv6 := step.ipv6
  effects := step.effects
  connections := step.connections
  conns := step.conns

/-- A step on a list of items. -/
theorem foldl {Item : Type} {step : Pcapdroid → Item → Pcapdroid}
    (each : ∀ pd item, Uncounted pd (step pd item)) (pd : Pcapdroid) (items : List Item) :
    Uncounted pd (items.foldl step pd) := by
  induction items generalizing pd with
  | nil => exact .refl pd
  | cons item items ih => exact (each pd item).trans (ih _)

end Uncounted

theorem setConn_uncounted {pd : Pcapdroid} {id : ConnId} {data : Conn}
    (same : ConnUncounted (pd.conn id) data) : Uncounted pd (pd.setConn id data) := by
  refine ⟨rfl, rfl, rfl, rfl, rfl, ⟨[], ?_⟩, rfl, ?_⟩
  · exact (List.append_nil _).symm
  · exact fun other => Pcapdroid.setConn_cases same (fun _ _ => .refl _) other

/-- An examination counts nothing. -/
theorem Worked.uncounted {id : ConnId} {before after : Pcapdroid} (worked : Worked id before after) :
    Uncounted before after where
  newConnId := congrArg CaptureLedger.newConnId worked.ledger
  contexts := congrArg CaptureLedger.contexts worked.ledger
  running := congrArg CaptureLedger.running worked.ledger
  capture := congrArg (fun ledger => captureTraffic ledger.captureStats) worked.ledger
  ipv6 := congrArg (fun ledger => ipv6Bytes ledger.captureStats) worked.ledger
  effects := by
    have effects : after.effects = before.effects :=
      congrArg CaptureLedger.effects worked.ledger
    exact ⟨[], by grind⟩
  connections := congrArg CaptureLedger.connections worked.ledger
  conns other := by
    by_cases own : other = id
    · subst own
      have examined := Examined.uncounted worked.own
      exact ⟨examined.fwPctx_eq, examined.traffic_eq, examined.blockedPkts_eq,
        examined.toBlock_le⟩
    · exact Examined.uncounted (worked.others other own)

section Callbacks

variable (platform : Platform)

variable (pd : Pcapdroid) (pkt : ZdtunPkt) (isTx : Bool) (tuple : FiveTuple) (id : ConnId)

theorem pdNotifyConnectionUpdate_uncounted :
    Uncounted pd (pdNotifyConnectionUpdate platform pd tuple id) :=
  Worked.uncounted (pdNotifyConnectionUpdate_worked platform pd tuple id)

/-- A connection is changed and queued. -/
theorem notify_uncounted {pd : Pcapdroid} {id : ConnId} {data : Conn}
    (same : ConnUncounted (pd.conn id) data) :
    Uncounted pd (pdNotifyConnectionUpdate platform (pd.setConn id data) tuple id) :=
  (setConn_uncounted same).trans (pdNotifyConnectionUpdate_uncounted platform _ tuple id)

theorem connectionClosed_uncounted
    (status : ConnStatus) : Uncounted pd (connectionClosed platform pd tuple id status) := by
  have notified : Uncounted pd (pdNotifyConnectionUpdate platform
      (pd.setConn id (pd.conn id).markStats) tuple id) :=
    notify_uncounted platform tuple (.of_view rfl)
  refine notified.trans (setConn_uncounted ?_)
  generalize pdNotifyConnectionUpdate platform (pd.setConn id (pd.conn id).markStats) tuple id =
    after
  have given := Examined.uncounted (pdGiveupDpi_examined platform after tuple (after.conn id))
  exact given.trans (.of_view rfl)

/-- All that `pd_process_packet` does after it has taken a context. -/
theorem pdProcessPacket_uncounted (ms : Nat) :
    Uncounted pd.takeContext (pdProcessPacket platform pd pkt isTx tuple id ms).1 :=
  Worked.uncounted (pdProcessPacket_worked platform pd pkt isTx tuple id ms)

end Callbacks

/-! ## Other steps -/

section

variable (pd : Pcapdroid) (pctx : PktContext) (id : ConnId)

theorem setFirewall_uncounted (firewall : Core.Firewall) :
    Uncounted pd (pd.setFirewall firewall) := .of_view rfl

theorem setMalwareDetection_uncounted (detection : MalwareDetection) :
    Uncounted pd (pd.setMalwareDetection detection) := .of_view rfl

theorem setTlsDecryption_uncounted (decryption : TlsDecryption) :
    Uncounted pd (pd.setTlsDecryption decryption) := .of_view rfl

theorem applyControl_uncounted (control : Control)
    (notStopped : control ≠ .stopPacketLoop) : Uncounted pd (applyControl pd control) := by
  obtain ⟨_, _, _, _, _, _, _, _, same, running⟩ := applyControl_eq pd control
  rw [same, running notStopped]
  exact .of_view rfl

theorem pdRefreshTime_uncounted (now : UInt64) :
    Uncounted pd (pdRefreshTime pd now) := .of_view rfl

theorem updateConnStatus_uncounted (status : ConnStatus) :
    Uncounted pd (updateConnStatus pd id status) :=
  setConn_uncounted (.of_view rfl)

theorem useNewDnsServer_uncounted : Uncounted pd (useNewDnsServer pd) := by
  unfold useNewDnsServer
  split
  · exact .refl pd
  · exact .of_view rfl

theorem checkDnsReqAllowed_uncounted :
    Uncounted pd (checkDnsReqAllowed pd pctx).1 := by
  have updated := useNewDnsServer_uncounted pd
  simp only [checkDnsReqAllowed]
  generalize useNewDnsServer pd = after at updated ⊢
  split
  · exact updated
  · split
    · exact updated
    · split
      · split
        · exact updated
        · exact updated.trans (.of_view rfl)
      · exact updated

theorem checkDnsReqAllowed_conn :
    (checkDnsReqAllowed pd pctx).1.conn id = pd.conn id := by
  have updated : (useNewDnsServer pd).conn id = pd.conn id := by
    unfold useNewDnsServer
    split <;> rfl
  simp only [checkDnsReqAllowed]
  generalize useNewDnsServer pd = after at updated ⊢
  split
  · exact updated
  · split
    · exact updated
    · split
      · split <;> exact updated
      · exact updated

theorem checkFirstPacket_uncounted :
    Uncounted pd (checkFirstPacket pd pctx) := by
  simp only [checkFirstPacket]
  split
  · exact setConn_uncounted (refuseConn_uncounted _ _)
  · refine (checkDnsReqAllowed_uncounted pd pctx).trans (setConn_uncounted ?_)
    rw [checkDnsReqAllowed_conn]
    exact refuseConn_uncounted _ _

end

variable (platform : Platform) (mappings : PortMap) (freeAll : Bool) (pd : Pcapdroid)

/-- An egress packet gets a new context and then its verdict. -/
theorem judgePacket_uncounted (slot : ConnAndTuple) (pkt : ZdtunPkt) (packet : TunPacket) :
    ∃ decided pctx, judgePacket platform mappings pd slot pkt packet =
        (notePacket decided pctx, pctx) ∧ Uncounted pd.takeContext decided ∧
      pctx.address = pd.contexts ∧ pctx.isTx = true ∧ pctx.data = slot.data := by
  have prepared : Uncounted pd (if (pd.conn slot.data).sentPkts = 0 then
      pd.setConn slot.data (prepareConnection mappings pd slot.tuple (pd.conn slot.data))
    else pd) := by
    split
    · exact setConn_uncounted (prepareConnection_uncounted mappings pd _ _)
    · exact .refl pd
  simp only [judgePacket]
  generalize (if (pd.conn slot.data).sentPkts = 0 then
      pd.setConn slot.data (prepareConnection mappings pd slot.tuple (pd.conn slot.data))
    else pd) = ready at prepared ⊢
  have processed := prepared.takeContext.trans
    (pdProcessPacket_uncounted platform ready pkt true slot.tuple slot.data packet.ms)
  have address : (pdProcessPacket platform ready pkt true slot.tuple slot.data
    packet.ms).2.address = pd.contexts := prepared.contexts
  have isTx : (pdProcessPacket platform ready pkt true slot.tuple slot.data packet.ms).2.isTx =
    true := rfl
  have data : (pdProcessPacket platform ready pkt true slot.tuple slot.data packet.ms).2.data =
    slot.data := rfl
  generalize pdProcessPacket platform ready pkt true slot.tuple slot.data packet.ms = result
    at processed address isTx data ⊢
  refine ⟨_, result.2, rfl, ?_, address, isTx, data⟩
  split
  · exact processed.trans (checkFirstPacket_uncounted _ _)
  · exact processed

theorem countDropped_uncounted : Uncounted pd (countDropped pd) :=
  .of_view rfl

theorem countFragment_uncounted : Uncounted pd (countFragment pd) :=
  .of_view rfl

/-! ## Periodic tasks -/

theorem sendConnectionsDump_uncounted :
    Uncounted pd (sendConnectionsDump pd) := by
  unfold sendConnectionsDump
  apply Uncounted.foldl
  intro pd slot
  exact setConn_uncounted (Reported.uncounted (.inr rfl))

theorem purgeQueue_uncounted (queue : List ConnAndTuple) :
    Uncounted pd (purgeQueue freeAll pd queue) := by
  unfold purgeQueue
  apply Uncounted.foldl
  intro pd slot
  split
  · exact ⟨rfl, rfl, rfl, rfl, rfl, ⟨[slot.data], rfl⟩, rfl,
      fun id => .refl (pd.conn id)⟩
  · exact .refl pd

theorem connsClear_uncounted :
    Uncounted pd (connsClear freeAll pd) := by
  have newConns := purgeQueue_uncounted freeAll pd pd.newConns
  simp only [connsClear]
  generalize purgeQueue freeAll pd pd.newConns = purged at newConns ⊢
  have cleared : Uncounted purged { purged with newConns := [] } :=
    .of_view rfl
  have updates := purgeQueue_uncounted freeAll { purged with newConns := [] } purged.connsUpdates
  exact ((newConns.trans cleared).trans updates).trans
    (.of_view rfl)

theorem periodicTask_uncounted (exported : Bool) (pd : Pcapdroid) :
    Uncounted pd (periodicTask exported pd) := by
  have set (pd : Pcapdroid) (fields : TaskFields) : Uncounted pd (pd.setTaskFields fields) :=
    .of_view rfl
  obtain ⟨fields, same | dumped⟩ := periodicTask_eq exported pd
  · grind
  · rw [dumped]
    exact ((sendConnectionsDump_uncounted pd).trans (connsClear_uncounted false _)).trans
      (set _ fields)

/-! ## New connections -/

/-- After its registration, a new connection is only decided on. -/
theorem pdNewConnection_uncounted (tuple : FiveTuple) (uid : Int) :
    Uncounted (registerConnection platform pd tuple uid) (pdNewConnection platform pd tuple uid).1 :=
  Worked.uncounted (pdNewConnection_worked platform pd tuple uid)

/-! ## Callbacks of zdtun -/

/-- What zdtun can do to a property of the capture. -/
structure KeptByZdtun (platform : Platform) (kept : Pcapdroid → Prop) : Prop where
  uncounted : ∀ {before after}, kept before → Uncounted before after → kept after
  remote2vpn : ∀ {pd} {slot : ConnAndTuple} (delivery : Delivery), kept pd →
    slot ∈ pd.connections → kept (remote2vpn platform pd slot.tuple slot.data delivery).1
  deactivate : ∀ {pd} (id : ConnId), kept pd → kept (pd.deactivate id)
  stopRunning : ∀ {pd}, kept pd → kept (stopRunning pd)

namespace KeptByZdtun

variable {platform : Platform} {kept : Pcapdroid → Prop} (keeps : KeptByZdtun platform kept)
  {pd : Pcapdroid} (holds : kept pd) (slot : ConnAndTuple)

include keeps holds

theorem applyControl (control : Control) : kept (applyControl pd control) := by
  by_cases stop : control = .stopPacketLoop
  · subst stop
    exact keeps.stopRunning holds
  · exact keeps.uncounted holds (applyControl_uncounted pd control stop)

theorem connectionClosed (status : ConnStatus) :
    kept ((connectionClosed platform pd slot.tuple slot.data status).deactivate slot.data) :=
  keeps.deactivate _ (keeps.uncounted holds (connectionClosed_uncounted platform pd _ _ _))

theorem connAction (action : ConnAction) : kept (connAction platform slot pd action) := by
  cases action with
  | sendClient delivery | sendOther other delivery =>
    simp only [Vpn.connAction]
    split
    next opened => exact keeps.remote2vpn delivery holds opened
    next => exact holds
  | accountPacket status =>
    simp only [Vpn.connAction]
    split
    · exact keeps.uncounted holds (updateConnStatus_uncounted pd _ status)
    · exact holds
  | onConnectionClose status =>
    simp only [Vpn.connAction]
    split
    · exact keeps.connectionClosed holds slot status
    · exact holds
  | failed => exact keeps.deactivate slot.data holds
  | control control => exact keeps.applyControl holds control

theorem connActions (actions : List ConnAction) :
    kept (connActions platform slot pd actions) :=
  @run_invariant Pcapdroid _ (Vpn.connAction platform slot) kept
    (fun _ action before => keeps.connAction before slot action) _ holds actions

theorem handleConns (handling : Handling) : kept (handleConns platform pd handling) := by
  refine @run_invariant Pcapdroid _ (handleConn platform) kept ?_ _ holds handling
  intro pd handled before
  unfold handleConn
  split
  · exact keeps.connActions before handled.1 handled.2
  · exact before

theorem zdtunConnClose (status : ConnStatus) (actions : List ConnAction) :
    kept (zdtunConnClose platform pd slot status actions) := by
  simp only [Vpn.zdtunConnClose]
  split
  · exact keeps.connectionClosed (keeps.connActions holds slot actions) slot status
  · exact holds

end KeptByZdtun

/-! ## The packet loop -/

/-- What the packet loop can do to a property of the capture, apart from its packets. -/
structure KeptByLoop (kept : Pcapdroid → Prop) : Prop where
  zdtun : ∀ platform, KeptByZdtun platform kept
  noteCall : ∀ {pd} (call : ZdtunCall), kept pd → kept (noteCall pd call)
  spoof : ∀ {pd} (pctx : PktContext), kept pd → kept (pd.emit (.spoof pctx))
  pdHousekeeping : ∀ (platform : Platform) (exported : Bool) {pd}, kept pd →
    kept (pdHousekeeping platform exported pd)

namespace KeptByLoop

variable {kept : Pcapdroid → Prop} (keeps : KeptByLoop kept) (platform : Platform)
  {pd : Pcapdroid} (slot : ConnAndTuple) (packet : TunPacket)

include keeps

theorem spoofAndClose (holds : kept pd) (pctx : PktContext) :
    kept (spoofAndClose platform pd slot pctx packet) := by
  have answered : kept (if packet.spoofed then pd.emit (.spoof pctx) else pd) := by
    split
    · exact keeps.spoof pctx holds
    · exact holds
  exact (keeps.zdtun platform).zdtunConnClose (keeps.noteCall _ answered) slot .closed
    packet.closing

/-- The end of a packet that could not be forwarded. -/
theorem closeAfterError (holds : kept pd) : kept (zdtunConnClose platform (Vpn.noteCall
    (if packet.unreachable then pd else countDropped pd) .connClose) slot .error
      packet.closing) := by
  have noted : kept (if packet.unreachable then pd else countDropped pd) := by
    split
    · exact holds
    · exact (keeps.zdtun platform).uncounted holds (countDropped_uncounted pd)
  exact (keeps.zdtun platform).zdtunConnClose (keeps.noteCall _ noted) slot .error packet.closing

theorem routePacket (holds : kept pd) {mappings : PortMap} {pkt : ZdtunPkt}
    (looked : kept (zdtunLookup platform pd pkt packet).1)
    (egress : ∀ slot, (zdtunLookup platform pd pkt packet).2 = some slot →
      kept (egressPacket platform mappings (zdtunLookup platform pd pkt packet).1 slot pkt packet)) :
    kept (routePacket platform mappings pd pkt packet) := by
  unfold Vpn.routePacket
  split
  · exact (keeps.zdtun platform).uncounted holds (countFragment_uncounted pd)
  · split
    · exact holds
    · split
      next after slot found =>
        rw [found] at egress
        exact egress slot rfl
      next after found =>
        rw [found] at looked
        split
        · exact looked
        · exact (keeps.zdtun platform).uncounted looked (countDropped_uncounted after)

/-- A step keeps what it keeps for the packet that it routes. -/
theorem vpnStep {loop : VpnLoop} {event : Platform × VpnEvent} (holds : kept loop.pd)
    (routed : ∀ packet exported purge pkt, event.2 = .iteration ⟨.tun packet, exported, purge⟩ →
      loop.pd.running = true → kept (pdRefreshTime loop.pd packet.now) →
      kept (Vpn.routePacket event.1 loop.mappings (pdRefreshTime loop.pd packet.now) pkt packet)) :
    kept (vpnStep loop event).pd := by
  obtain ⟨platform, event⟩ := event
  have zdtun := keeps.zdtun platform
  have refreshed (now : UInt64) : kept (pdRefreshTime loop.pd now) :=
    zdtun.uncounted holds (pdRefreshTime_uncounted loop.pd now)
  cases event with
  | control control => exact zdtun.applyControl holds control
  | finalize handling => exact zdtun.handleConns holds handling
  | iteration iteration =>
    obtain ⟨input, exported, purge⟩ := iteration
    simp only [Vpn.vpnStep, Vpn.iterate]
    split
    next running =>
      have handled : kept (handleInput platform loop.mappings loop.pd input) := by
        cases input with
        | tun packet =>
          simp only [handleInput, tunPacket]
          split
          · exact refreshed packet.now
          · exact routed packet exported purge _ rfl running (refreshed packet.now)
        | tunError now => exact refreshed now
        | sockets now handling =>
          exact zdtun.handleConns (keeps.noteCall .handleFd (refreshed now)) handling
      have done := keeps.pdHousekeeping platform exported handled
      unfold purgeExpired
      split
      · exact zdtun.handleConns (keeps.noteCall .purgeExpired done) purge
      · exact done
    next => exact holds

end KeptByLoop

end PcapdroidFormal.Vpn
