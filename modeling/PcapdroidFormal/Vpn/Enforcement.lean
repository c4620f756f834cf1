import PcapdroidFormal.Vpn.Blocking

/-!
# The packet loop enforces the verdicts

The law of `Vpn.Blocking` through every function of the packet loop and through
every callback of zdtun, and so in every state of a capture.
-/

namespace PcapdroidFormal.Vpn

open PcapdroidFormal.Core Firewall Foundation

variable {id : ConnId}

/-! ## Verdicts are only raised -/

/-- No connection appears and none is unblocked, and the trace goes on. -/
structure Raised (before after : Pcapdroid) : Prop where
  newConnId : after.newConnId = before.newConnId
  toBlock : ∀ id, (before.conn id).toBlock ≤ (after.conn id).toBlock
  effects : ∃ more, after.effects = before.effects ++ more

namespace Raised

variable {first second third pd : Pcapdroid}

theorem trans (earlier : Raised first second) (later : Raised second third) :
    Raised first third := by
  obtain ⟨more, before⟩ := earlier.effects
  obtain ⟨rest, after⟩ := later.effects
  refine ⟨later.newConnId.trans earlier.newConnId,
    fun id => (earlier.toBlock id).trans (later.toBlock id), more ++ rest, ?_⟩
  grind

theorem of_uncounted (step : Uncounted first second) : Raised first second := by
  obtain ⟨freed, effects⟩ := step.effects
  exact ⟨step.newConnId, fun id => (step.conns id).toBlock_le, _, effects⟩

theorem of_conn (newConnId : second.newConnId = first.newConnId)
    (conn : ∀ id, second.conn id = first.conn id)
    (effects : ∃ more, second.effects = first.effects ++ more) : Raised first second :=
  ⟨newConnId, fun id => by rw [conn], effects⟩

theorem of_heap (newConnId : second.newConnId = first.newConnId) (heap : second.heap = first.heap)
    (effects : second.effects = first.effects) : Raised first second :=
  of_conn newConnId (fun id => congrFun heap id) ⟨[], effects.trans (List.append_nil _).symm⟩

theorem refl (pd : Pcapdroid) : Raised pd pd := of_heap rfl rfl rfl

theorem emit (pd : Pcapdroid) (effect : Effect) : Raised pd (pd.emit effect) :=
  of_conn rfl (fun _ => rfl) ⟨[effect], rfl⟩

theorem setConn {data : Conn} (raised : (pd.conn id).toBlock ≤ data.toBlock) :
    Raised pd (pd.setConn id data) := by
  refine ⟨rfl, ?_, [], (List.append_nil _).symm⟩
  exact fun other => Pcapdroid.setConn_cases raised (fun _ _ => le_refl _) other

variable (platform : Platform)

variable (pd : Pcapdroid) (slot : ConnAndTuple) (status : ConnStatus) (pctx : PktContext)

theorem account :
    Raised pd (pdAccountStats platform pd pctx) := by
  have own : (pd.conn pctx.data).toBlock =
      ((pd.conn pctx.data).countPacket pctx.pkt pctx.isTx).markStats.toBlock := by
    unfold Conn.countPacket
    split <;> rfl
  have stats : Raised pd ((pd.emit (.account pctx)).setCaptureStats
      (pd.captureStats.countPacket pctx.pkt pctx.isTx)) :=
    (emit pd _).trans (of_heap rfl rfl rfl)
  have counted : Raised pd (countedPacket pd pctx) := stats.trans (setConn (le_of_eq own))
  exact pdAccountStats_invariant platform
    (counted.trans (.of_uncounted (pdNotifyConnectionUpdate_uncounted platform _ _ _)))
    (·.trans (emit _ _)) (·.trans (of_heap rfl rfl rfl))

theorem accountForwarded (id : ConnId) :
    Raised pd (accountForwarded platform pd id) := by
  unfold Vpn.accountForwarded
  split
  · exact refl pd
  · exact (account platform pd _).trans (setConn (le_refl _))

theorem blockPacket :
    Raised pd (blockPacket platform pd pctx) := by
  have counted : Raised (pd.emit (.blocked pctx)) ((pd.emit (.blocked pctx)).setConn pctx.data
      (pd.conn pctx.data).countBlocked.markStats) := setConn (le_refl _)
  exact ((emit pd (.blocked pctx)).trans counted).trans
    (.of_uncounted (pdNotifyConnectionUpdate_uncounted platform _ _ _))

theorem writePacket (written : WriteResult) :
    Raised pd (writePacket platform pd pctx written).1 := by
  have shown := emit pd (.write pctx)
  cases written with
  | complete => exact shown.trans (account platform _ pctx)
  | partially => exact shown
  | noBuffers => exact shown
  | failed => exact shown.trans (of_heap rfl rfl rfl)

theorem processPacket (pkt : ZdtunPkt) (isTx : Bool) (tuple : FiveTuple) (id : ConnId) (ms : Nat) :
    Raised pd (pdProcessPacket platform pd pkt isTx tuple id ms).1 := by
  have taken : Raised pd pd.takeContext := of_heap rfl rfl rfl
  exact taken.trans (.of_uncounted (pdProcessPacket_uncounted platform pd pkt isTx tuple id ms))

section

variable (tuple : FiveTuple) (id : ConnId) (delivery : Delivery)

theorem processDelivery : Raised pd (processDelivery platform pd tuple id delivery).1 := by
  have refreshed : Raised pd (pdRefreshTime pd delivery.now) :=
    of_uncounted (pdRefreshTime_uncounted pd delivery.now)
  exact refreshed.trans (processPacket platform _ delivery.pkt false tuple id delivery.ms)

/-- What comes after the verdict on a delivered packet. -/
theorem judgedDelivery {processed : Pcapdroid × PktContext}
    (result : Vpn.processDelivery platform pd tuple id delivery = processed) :
    Raised (notePacket processed.1 processed.2)
      (handleDelivery platform pd tuple id delivery).1 := by
  simp only [Vpn.handleDelivery, result]
  split
  · exact blockPacket platform _ _
  · exact writePacket platform _ _ _

theorem handleDelivery : Raised pd (handleDelivery platform pd tuple id delivery).1 := by
  have judged : Raised pd (notePacket (Vpn.processDelivery platform pd tuple id delivery).1
      (Vpn.processDelivery platform pd tuple id delivery).2) :=
    (processDelivery platform pd tuple id delivery).trans (emit _ _)
  exact judged.trans (judgedDelivery platform pd tuple id delivery rfl)

theorem remote2vpn : Raised pd (remote2vpn platform pd tuple id delivery).1 := by
  unfold Vpn.remote2vpn
  split
  · exact (accountForwarded platform pd id).trans (handleDelivery platform _ tuple id delivery)
  · exact refl pd

end

theorem keptByZdtun : KeptByZdtun platform (Raised pd) where
  uncounted raised step := raised.trans (of_uncounted step)
  remote2vpn delivery raised _ := raised.trans (remote2vpn platform _ _ _ delivery)
  deactivate _ raised := raised.trans (of_heap rfl rfl rfl)
  stopRunning raised := raised.trans (of_heap rfl rfl rfl)

theorem spoofAndClose
    (packet : TunPacket) : Raised pd (spoofAndClose platform pd slot pctx packet) := by
  have answered : Raised pd (if packet.spoofed then pd.emit (.spoof pctx) else pd) := by
    split
    · exact emit pd _
    · exact refl pd
  exact (keptByZdtun platform pd).zdtunConnClose (answered.trans (emit _ _)) slot .closed
    packet.closing

theorem forwardPacket (packet : TunPacket) :
    Raised pd (forwardPacket platform pd slot pctx packet) := by
  have flying : Raised pd (setFwPctx pd slot.data (some pctx)) := setConn (le_refl _)
  have started := flying.trans (emit _ (.forward pctx))
  have returned := ((keptByZdtun platform pd).connActions started slot packet.forwarding).trans
    (emit _ (.forwarded pctx packet.forwarded))
  simp only [Vpn.forwardPacket]
  split
  · exact returned.trans (accountForwarded platform _ _)
  · refine (keptByZdtun platform pd).zdtunConnClose ((returned.trans ?_).trans (emit _ _)) slot
      .error packet.closing
    split
    · exact refl _
    · exact of_heap rfl rfl rfl

theorem enforceVerdict (packet : TunPacket) :
    Raised pd (if (pd.conn slot.data).toBlock then Vpn.blockPacket platform pd pctx
      else Vpn.forwardPacket platform pd slot pctx packet) := by
  split
  · exact blockPacket platform pd pctx
  · exact forwardPacket platform pd slot pctx packet

end Raised

/-! ## The law through zdtun -/

namespace Enforced

variable {due : List PktContext} {pd : Pcapdroid} {pctx : PktContext} (platform : Platform)
  {slot : ConnAndTuple} {loop : VpnLoop}

section

variable (enforced : Enforced due pd)
include enforced

theorem accountForwarded (id : ConnId) : Enforced due (accountForwarded platform pd id) := by
  unfold Vpn.accountForwarded
  split
  next => exact enforced
  next pctx flying =>
    refine (enforced.account platform (enforced.fates.inFlight id pctx flying).1).setFwPctx ?_
    rintro other ⟨⟩

theorem writePacket (admitted : fate pctx pd.effects = .admitted) (written : WriteResult) :
    Enforced due (writePacket platform pd pctx written).1 := by
  have shown : Enforced due (pd.emit (.write pctx)) :=
    enforced.pass admitted (decide_eq_true rfl) rfl
  have still : fate pctx (pd.emit (.write pctx)).effects = .admitted := by
    refine (fate_snoc pctx pd.effects _).trans ?_
    rw [admitted]
    exact Fate.next_letsThrough (decide_eq_true rfl)
  cases written with
  | complete => exact shown.account platform still
  | partially => exact shown
  | noBuffers => exact shown
  | failed => exact shown.stopRunning

/-- A new packet context and all that `pd_process_packet` does with it: nothing is known
of the packet yet. -/
theorem processPacket (pkt : ZdtunPkt) (isTx : Bool) (tuple : FiveTuple) (id : ConnId) (ms : Nat) :
    Enforced due (pdProcessPacket platform pd pkt isTx tuple id ms).1 ∧
      fate (pdProcessPacket platform pd pkt isTx tuple id ms).2
        (pdProcessPacket platform pd pkt isTx tuple id ms).1.effects = .unseen ∧
      (pdProcessPacket platform pd pkt isTx tuple id ms).2.address <
        (pdProcessPacket platform pd pkt isTx tuple id ms).1.contexts := by
  have step := pdProcessPacket_uncounted platform pd pkt isTx tuple id ms
  refine ⟨enforced.takeContext.of_uncounted step, ?_, ?_⟩
  · rw [step.fate_eq]
    exact enforced.fates.fresh _ (le_refl _)
  · rw [step.contexts]
    exact Nat.lt_succ_self _

end

/-- The fate of a packet right after its verdict. -/
theorem fate_notePacket (unseen : fate pctx pd.effects = .unseen) :
    fate pctx (Vpn.notePacket pd pctx).effects =
      if (pd.conn pctx.data).toBlock then .condemned else .admitted := by
  refine (fate_snoc pctx pd.effects _).trans ?_
  rw [unseen]
  exact if_pos rfl

theorem notDue (enforced : Enforced due pd) (unseen : fate pctx pd.effects = .unseen) :
    pctx ∉ due := by
  intro member
  rw [(enforced.fates.condemned pctx).mpr member] at unseen
  cases unseen

theorem handleDelivery (enforced : Enforced due pd) (known : id < pd.newConnId)
    (tuple : FiveTuple) (delivery : Delivery) :
    Enforced due (handleDelivery platform pd tuple id delivery).1 := by
  have refreshed := enforced.of_uncounted (pdRefreshTime_uncounted pd delivery.now)
  have raised := Raised.processDelivery platform pd tuple id delivery
  obtain ⟨processed, unseen, taken⟩ :=
    refreshed.processPacket platform delivery.pkt false tuple id delivery.ms
  have data : (processDelivery platform pd tuple id delivery).2.data = id := rfl
  simp only [Vpn.handleDelivery]
  rw [← processDelivery] at processed unseen taken
  generalize processDelivery platform pd tuple id delivery = result
    at raised processed unseen taken data ⊢
  obtain ⟨after, pctx⟩ := result
  dsimp only at raised processed unseen taken data ⊢
  subst data
  have judged := processed.notePacket unseen taken (lt_of_lt_of_eq known raised.newConnId.symm)
  have sentence := fate_notePacket unseen
  have same : (Vpn.notePacket after pctx).conn pctx.data = after.conn pctx.data := rfl
  rw [same]
  cases verdict : (after.conn pctx.data).toBlock with
  | true =>
    rw [verdict] at judged
    exact judged.blockPacket platform (processed.notDue unseen)
  | false =>
    rw [verdict] at judged sentence
    exact judged.writePacket platform sentence delivery.written

theorem remote2vpn (enforced : Enforced due pd) (known : id < pd.newConnId)
    (tuple : FiveTuple) (delivery : Delivery) :
    Enforced due (remote2vpn platform pd tuple id delivery).1 := by
  unfold Vpn.remote2vpn
  split
  · refine (enforced.accountForwarded platform id).handleDelivery platform ?_ tuple delivery
    exact lt_of_lt_of_eq known (Raised.accountForwarded platform pd id).newConnId.symm
  · exact enforced

variable (due) in
theorem keptByZdtun : KeptByZdtun platform (Enforced due) where
  uncounted := of_uncounted
  remote2vpn delivery enforced opened :=
    enforced.remote2vpn platform (enforced.counted.known _ opened) _ delivery
  deactivate id enforced := enforced.deactivate id
  stopRunning := stopRunning

/-! ## The law through the packet loop -/

section

variable (enforced : Enforced due pd)
include enforced

theorem activate (known : slot.data < pd.newConnId) : Enforced due (pd.activate slot) := by
  refine ⟨enforced.fates.of_eq (fun _ => rfl) (le_refl _) fun _ _ flying => flying, ?_,
    enforced.steady⟩
  obtain ⟨old, born, blockedPkts, traffic, capture, ipv6⟩ := enforced.counted
  refine ⟨?_, born, blockedPkts, traffic, capture, ipv6⟩
  intro other member
  rcases List.mem_append.mp member with earlier | new
  · exact old other earlier
  · rw [List.mem_singleton.mp new]
    exact known

/-- A connection that zdtun finds or opens exists. -/
theorem zdtunLookup (pkt : ZdtunPkt) (packet : TunPacket) :
    Enforced due (zdtunLookup platform pd pkt packet).1 ∧
      ∀ slot, (zdtunLookup platform pd pkt packet).2 = some slot →
        slot.data < (zdtunLookup platform pd pkt packet).1.newConnId := by
  simp only [Vpn.zdtunLookup]
  split
  next slot found =>
    refine ⟨enforced, ?_⟩
    rintro other ⟨⟩
    exact enforced.counted.known slot (List.mem_of_find?_eq_some found)
  next =>
    split
    next => exact ⟨enforced, fun _ none => by cases none⟩
    next =>
      have handled := (keptByZdtun due platform).handleConns enforced packet.opening
      generalize Vpn.handleConns platform pd packet.opening = start at handled ⊢
      split
      next =>
        have step := pdNewConnection_uncounted platform start pkt.tuple packet.uid
        have created := (handled.registerConnection platform pkt.tuple packet.uid).of_uncounted step
        have known : start.newConnId <
            (pdNewConnection platform start pkt.tuple packet.uid).1.newConnId := by
          rw [step.newConnId, registerConnection_eq]
          exact Nat.lt_succ_self _
        refine ⟨created.activate known, ?_⟩
        rintro slot ⟨⟩
        exact known
      next => grind

theorem judgePacket (mappings : PortMap) (known : slot.data < pd.newConnId) (pkt : ZdtunPkt)
    (packet : TunPacket) {after : Pcapdroid}
    (result : judgePacket platform mappings pd slot pkt packet = (after, pctx)) :
    pctx ∉ due ∧ pctx.data = slot.data ∧
      Enforced (if (after.conn slot.data).toBlock then pctx :: due else due) after ∧
      fate pctx after.effects =
        if (after.conn slot.data).toBlock then .condemned else .admitted := by
  obtain ⟨decided, context, judged, step, address, _, data⟩ :=
    judgePacket_uncounted platform mappings pd slot pkt packet
  obtain ⟨rfl, rfl⟩ := Prod.mk.inj (judged.symm.trans result)
  have unseen : fate context decided.effects = .unseen := by
    rw [step.fate_eq]
    exact enforced.fates.fresh context (le_of_eq address.symm)
  have taken : context.address < decided.contexts := by
    rw [step.contexts, address]
    exact Nat.lt_succ_self _
  have final := enforced.takeContext.of_uncounted step
  rw [← data] at known ⊢
  exact ⟨final.notDue unseen, rfl, final.notePacket unseen taken (step.newConnId ▸ known),
    fate_notePacket unseen⟩

end

variable (due) in
theorem keptByLoop : KeptByLoop (Enforced due) where
  zdtun := keptByZdtun due
  noteCall _ enforced := enforced.emit_silent rfl rfl
  spoof _ enforced := enforced.emit_silent rfl rfl
  pdHousekeeping platform exported _ enforced := enforced.pdHousekeeping platform exported

theorem forwardPacket (enforced : Enforced due pd)
    (data : pctx.data = slot.data) (admitted : fate pctx pd.effects = .admitted)
    (packet : TunPacket) : Enforced due (forwardPacket platform pd slot pctx packet) := by
  have flying : Enforced due (Vpn.setFwPctx pd slot.data (some pctx)) := by
    refine enforced.setFwPctx ?_
    grind
  have started : Enforced due ((Vpn.setFwPctx pd slot.data (some pctx)).emit (.forward pctx)) :=
    flying.pass admitted (decide_eq_true rfl) rfl
  have returned := ((keptByZdtun due platform).connActions started slot packet.forwarding).emit_silent
    (rfl : subject (.forwarded pctx packet.forwarded) = none) rfl
  simp only [Vpn.forwardPacket]
  generalize (Vpn.connActions platform slot ((Vpn.setFwPctx pd slot.data (some pctx)).emit
    (.forward pctx)) packet.forwarding).emit (.forwarded pctx packet.forwarded) = after
    at returned ⊢
  split
  · exact returned.accountForwarded platform slot.data
  · exact (keptByLoop due).closeAfterError platform slot packet returned

theorem egressPacket (enforced : Enforced due pd) (mappings : PortMap)
    (known : slot.data < pd.newConnId) (pkt : ZdtunPkt) (packet : TunPacket) :
    Enforced due (egressPacket platform mappings pd slot pkt packet) := by
  simp only [Vpn.egressPacket]
  generalize result : Vpn.judgePacket platform mappings pd slot pkt packet = judged
  obtain ⟨after, pctx⟩ := judged
  obtain ⟨once, data, judged, sentence⟩ :=
    enforced.judgePacket platform mappings known pkt packet result
  dsimp only
  cases verdict : (after.conn slot.data).toBlock with
  | true =>
    rw [verdict] at judged
    -- the connection may be closed now, but it is not unblocked
    split
    next =>
      have closed := (keptByLoop _).spoofAndClose platform slot packet judged pctx
      have raised := (Raised.spoofAndClose platform after slot pctx packet).toBlock slot.data
      rw [verdict, Bool.le_iff_imp] at raised
      rw [if_pos (raised rfl)]
      exact closed.blockPacket platform once
    next => exact judged.blockPacket platform once
  | false =>
    rw [verdict] at judged sentence
    have noSpoof : (decide ((after.conn slot.data).sentPkts = 0) && false &&
        (after.conn slot.data).l7proto == .dns && slot.tuple.ipproto == ipprotoUdp) = false := by
      simp
    rw [if_neg (Bool.eq_false_iff.mp noSpoof), if_neg (Bool.eq_false_iff.mp verdict)]
    exact judged.forwardPacket platform data sentence packet

theorem vpnStep (enforced : Enforced due loop.pd) (event : Platform × VpnEvent) :
    Enforced due (vpnStep loop event).pd := by
  refine (keptByLoop due).vpnStep enforced fun packet _ _ pkt _ _ refreshed => ?_
  obtain ⟨looked, known⟩ := refreshed.zdtunLookup event.1 pkt packet
  exact (keptByLoop due).routePacket event.1 packet refreshed looked fun slot found =>
    looked.egressPacket event.1 loop.mappings (known slot found) pkt packet

end Enforced

/-! ## A capture -/

/-- The state in which `run_vpn` enters its loop: there are no connections and nothing
was counted. -/
structure Started (pd : Pcapdroid) : Prop where
  connections : pd.connections = []
  effects : pd.effects = []
  fwPctx : ∀ id, (pd.conn id).fwPctx = none
  blockedPkts : ∀ id, (pd.conn id).blockedPkts = 0
  traffic : ∀ id, connTraffic (pd.conn id) = ⟨0, 0, 0, 0⟩
  capture : captureTraffic pd.captureStats = ⟨0, 0, 0, 0⟩
  ipv6 : ipv6Bytes pd.captureStats = (0, 0)

theorem Started.enforced {pd : Pcapdroid} (started : Started pd) : Enforced [] pd := by
  have silent (pctx : PktContext) : fate pctx pd.effects = .unseen := by
    rw [started.effects]
    rfl
  constructor
  · constructor
    · grind
    · grind
    · grind
    · intro id pctx flying
      rw [started.fwPctx] at flying
      cases flying
  · constructor
    · simp [started.connections]
    · simp [started.effects]
    · intro id
      rw [started.blockedPkts, started.effects]
      rfl
    · intro id
      rw [started.traffic, started.effects]
      rfl
    · rw [started.capture, started.effects]
      rfl
    · rw [started.ipv6, started.effects]
      rfl
  · intro id
    rw [started.effects]
    exact steady_nil _

/-- What the capture shows of the enforcement of the verdicts. -/
structure VerdictsEnforced (pd : Pcapdroid) : Prop where
  /-- A packet found blocked is counted as blocked once, and is not forwarded, written,
  accounted or dumped. -/
  blocked : ∀ pctx, .verdict pctx true ∈ pd.effects →
    pd.effects.count (.blocked pctx) = 1 ∧ ∀ effect ∈ pd.effects, letsThrough pctx effect = false
  /-- Any other packet is not counted as blocked. -/
  passed : ∀ pctx, .verdict pctx false ∈ pd.effects → .blocked pctx ∉ pd.effects
  /-- Nothing is forwarded, written, accounted or dumped but what was found not blocked. -/
  admitted : ∀ pctx, ∀ effect ∈ pd.effects, letsThrough pctx effect = true →
    .verdict pctx false ∈ pd.effects
  /-- Nothing is counted as blocked but what was found blocked. -/
  dropped : ∀ pctx, .blocked pctx ∈ pd.effects → .verdict pctx true ∈ pd.effects
  /-- The counters are those of the packets counted as blocked and of those accounted. -/
  counted : Counted pd
  /-- From one verdict that a packet or a re-check shows to the next and to the present
  one, no connection is unblocked. -/
  steady : ∀ id, Steady (verdicts id pd.effects) (pd.conn id).toBlock

/-- Between two iterations a packet is unknown, or dropped, or admitted. -/
theorem Fates.settled {pd : Pcapdroid} (fates : Fates [] pd) (pctx : PktContext) :
    Fate.unseen.Recorded pctx pd.effects ∨ Fate.dropped.Recorded pctx pd.effects ∨
      Fate.admitted.Recorded pctx pd.effects := by
  have recorded := fate_recorded pctx pd.effects
  cases final : fate pctx pd.effects with
  | unseen => exact .inl (final ▸ recorded)
  | condemned => exact absurd ((fates.condemned pctx).mp final) List.not_mem_nil
  | dropped => exact .inr (.inl (final ▸ recorded))
  | admitted => exact .inr (.inr (final ▸ recorded))
  | violated => exact absurd final (fates.lawful pctx)

theorem Enforced.verdictsEnforced {pd : Pcapdroid} (enforced : Enforced [] pd) :
    VerdictsEnforced pd := by
  obtain ⟨fates, counted, steady⟩ := enforced
  refine ⟨?_, ?_, ?_, ?_, counted, steady⟩
  · intro pctx judged
    rcases fates.settled pctx with unseen | dropped | admitted
    · exact absurd rfl (unseen _ judged)
    · exact dropped.2.2
    · exact absurd judged admitted.2.1
  · intro pctx judged
    rcases fates.settled pctx with unseen | dropped | admitted
    · exact absurd rfl (unseen _ judged)
    · exact absurd judged dropped.2.1
    · exact admitted.2.2
  · intro pctx effect member through
    rcases fates.settled pctx with unseen | dropped | admitted
    · exact absurd (subject_of_letsThrough through) (unseen effect member)
    · exact absurd through (Bool.eq_false_iff.mp (dropped.2.2.2 effect member))
    · exact admitted.1
  · intro pctx blocked
    rcases fates.settled pctx with unseen | dropped | admitted
    · exact absurd rfl (unseen _ blocked)
    · exact dropped.1
    · exact absurd blocked admitted.2.2

/-- The trace shows the verdict on a packet: whether its connection is blocked right after
the packet was processed. -/
def Judged (processed : Pcapdroid × PktContext) (pd : Pcapdroid) : Prop :=
  .verdict processed.2 (processed.1.conn processed.2.data).toBlock ∈ pd.effects

/-- No packet gets past its verdict, whatever the state of the capture. -/
structure PacketsJudged : Prop where
  /-- A packet that zdtun delivers while the loop is running. -/
  delivered : ∀ (platform : Platform) (pd : Pcapdroid) (tuple : FiveTuple) (id : ConnId)
    (delivery : Delivery), pd.running = true →
    Judged (pdProcessPacket platform (pdRefreshTime (accountForwarded platform pd id) delivery.now)
      delivery.pkt false tuple id delivery.ms) (remote2vpn platform pd tuple id delivery).1
  /-- A packet from the VPN with a connection. -/
  read : ∀ (platform : Platform) (mappings : PortMap) (pd opened : Pcapdroid) (slot : ConnAndTuple)
    (pkt : ZdtunPkt) (packet : TunPacket), packet.pkt = some pkt → pkt.isFragment = false →
    ignoredPacket (pdRefreshTime pd packet.now) pkt.tuple = false →
    zdtunLookup platform (pdRefreshTime pd packet.now) pkt packet = (opened, some slot) →
    Judged (judgePacket platform mappings opened slot pkt packet)
      (tunPacket platform mappings pd packet)

theorem Judged.of_raised {processed : Pcapdroid × PktContext} {before after : Pcapdroid}
    (judged : Judged processed before) (raised : Raised before after) : Judged processed after := by
  obtain ⟨more, effects⟩ := raised.effects
  unfold Judged
  rw [effects]
  exact List.mem_append_left more judged

theorem judged_notePacket (processed : Pcapdroid × PktContext) :
    Judged processed (notePacket processed.1 processed.2) :=
  List.mem_append_right _ (List.mem_singleton_self _)

theorem judged_egressPacket (platform : Platform) (mappings : PortMap) (pd : Pcapdroid)
    (slot : ConnAndTuple) (pkt : ZdtunPkt) (packet : TunPacket) :
    Judged (judgePacket platform mappings pd slot pkt packet)
      (egressPacket platform mappings pd slot pkt packet) := by
  obtain ⟨decided, pctx, result, _⟩ := judgePacket_uncounted platform mappings pd slot pkt packet
  simp only [egressPacket, result]
  have judged : Judged (notePacket decided pctx, pctx) (notePacket decided pctx) :=
    judged_notePacket (decided, pctx)
  refine Judged.of_raised ?_ (.enforceVerdict platform _ slot pctx packet)
  split
  · exact judged.of_raised (.spoofAndClose platform _ slot pctx packet)
  · exact judged

theorem packetsJudged : PacketsJudged := by
  constructor
  · intro platform pd tuple id delivery running
    unfold remote2vpn
    rw [if_pos running]
    exact (judged_notePacket _).of_raised
      (.judgedDelivery platform (accountForwarded platform pd id) tuple id delivery rfl)
  · intro platform mappings pd opened slot pkt packet parsed whole routed found
    simp only [tunPacket, parsed, routePacket, whole, routed, found]
    exact judged_egressPacket platform mappings opened slot pkt packet

/-- Blocking is enforced on the wire in every state of a VPN capture. -/
theorem vpn_enforces_verdicts (loop : VpnLoop) (started : Started loop.pd)
    (events : List (Platform × VpnEvent)) :
    VerdictsEnforced (run vpnStep loop events).pd ∧ PacketsJudged := by
  have enforced : Enforced [] (run vpnStep loop events).pd :=
    @run_invariant VpnLoop _ vpnStep (fun loop => Enforced [] loop.pd)
      (fun _ event before => before.vpnStep event) loop started.enforced events
  exact ⟨enforced.verdictsEnforced, packetsJudged⟩

/-- A capture whose blocklist holds the app with uid 10001. -/
def blockingLoop : VpnLoop where
  pd := { Pcapdroid.initial with
    firewall := ⟨true, some { Blacklist.empty with matchUid := (· == 10001) }, none, false, none,
      none⟩ }
  mappings := ⟨[], []⟩
  nextPurgeMs := 5000

/-- A packet that an app sends to open a connection. -/
def synPacket (uid : Int) (srcPort : UInt16) : TunPacket where
  pkt := some ⟨⟨0x0100000a, 0x08080808, srcPort, 0xbb01, 4, ipprotoTcp⟩, false, false, true, false,
    [0x45], []⟩
  now := 1
  ms := 1
  uid := uid
  opening := []
  opened := true
  spoofed := false
  closing := []
  forwarding := []
  forwarded := true
  unreachable := false

/-- The answer to the packet with the given source port. -/
def synAnswer (srcPort : UInt16) : Delivery where
  pkt := ⟨⟨0x08080808, 0x0100000a, 0xbb01, srcPort, 4, ipprotoTcp⟩, false, false, true, true,
    [0x45], []⟩
  now := 2
  ms := 2
  written := .complete

/-- Two apps send a packet each and are answered; the first one is blocked. -/
def twoApps : List (Platform × VpnEvent) :=
  [(.inert, .iteration ⟨.tun (synPacket 10001 1), false, []⟩),
    (.inert, .iteration ⟨.tun (synPacket 10002 2), false, []⟩),
    (.inert, .iteration ⟨.sockets 2
      [(⟨⟨0x0100000a, 0x08080808, 1, 0xbb01, 4, ipprotoTcp⟩, 0⟩, [.sendClient (synAnswer 1)]),
        (⟨⟨0x0100000a, 0x08080808, 2, 0xbb01, 4, ipprotoTcp⟩, 1⟩, [.sendClient (synAnswer 2)])],
      false, []⟩)]

/-- Both packets of the first app are blocked, both of the second one are accounted. -/
theorem vpn_enforces_verdicts_two_apps :
    (VerdictsEnforced (run vpnStep blockingLoop twoApps).pd ∧ PacketsJudged) ∧
      (let blocked := (run vpnStep blockingLoop twoApps).pd.conn 0
      blocked.blockedPkts = 2 ∧ blocked.sentPkts = 0 ∧ blocked.rcvdPkts = 0) ∧
      (let passed := (run vpnStep blockingLoop twoApps).pd.conn 1
      passed.blockedPkts = 0 ∧ passed.sentPkts = 1 ∧ passed.rcvdPkts = 1) := by
  refine ⟨vpn_enforces_verdicts blockingLoop ?_ twoApps, by decide, by decide⟩
  exact ⟨rfl, rfl, fun _ => rfl, fun _ => rfl, fun _ => rfl, rfl, rfl⟩

end PcapdroidFormal.Vpn
