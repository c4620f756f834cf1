import PcapdroidFormal.Vpn.Ledger

/-!
# Blocking on the wire

Whatever zdtun does, a packet of a blocked connection is counted as blocked once
and gets nowhere, any other packet is never counted as blocked, and only the
re-check unblocks a connection.
-/

namespace PcapdroidFormal.Vpn

open PcapdroidFormal.Core Firewall Foundation

variable {effect : Effect} {id : ConnId}

/-- The law of the packet loop, while the packets in `due` wait to be counted. -/
structure Enforced (due : List PktContext) (pd : Pcapdroid) : Prop where
  fates : Fates due pd
  counted : Counted pd
  steady : SteadyVerdicts pd

theorem Uncounted.fate_eq {before after : Pcapdroid} (step : Uncounted before after)
    (pctx : PktContext) : fate pctx after.effects = fate pctx before.effects := by
  obtain ⟨freed, effects⟩ := step.effects
  rw [effects, fate_freed]

theorem Uncounted.verdicts_eq {before after : Pcapdroid} (step : Uncounted before after)
    (id : ConnId) : verdicts id after.effects = verdicts id before.effects := by
  obtain ⟨freed, effects⟩ := step.effects
  rw [effects, verdicts_freed]

/-- An effect about no connection counts nothing and shows no verdict. -/
theorem concerned_none (silent : concerned effect = none) :
    accountedBy effect = none ∧ (∀ id, blocksPacketOf id effect = false) ∧
      ∀ id, shownVerdict id effect = none := by
  cases effect with
  | verdict | blocked | account | recheck => cases silent
  | _ => exact ⟨rfl, fun _ => rfl, fun _ => rfl⟩

namespace Enforced

variable {due : List PktContext} {pd before after : Pcapdroid} {pctx : PktContext}

/-! ## Single steps -/

theorem of_uncounted (enforced : Enforced due before) (step : Uncounted before after) :
    Enforced due after where
  fates := enforced.fates.of_eq step.fate_eq (le_of_eq step.contexts.symm) fun id _ flying =>
    (step.conns id).fwPctx_eq.symm.trans flying
  counted := enforced.counted.of_same step.newConnId
    (fun _ member => step.connections ▸ member) step.effects step.capture step.ipv6
    (fun id => (step.conns id).traffic_eq) fun id => (step.conns id).blockedPkts_eq
  steady := enforced.steady.of_same step.verdicts_eq fun id => (step.conns id).toBlock_le

section

variable (enforced : Enforced due pd)
include enforced

/-- Contexts are taken, connections are closed and the loop is stopped. -/
theorem keep {contexts : Nat} {connections : List ConnAndTuple} (running : Bool)
    (more : pd.contexts ≤ contexts) (fewer : connections ⊆ pd.connections) : Enforced due
      { pd with contexts := contexts, connections := connections, running := running } where
  fates := enforced.fates.of_eq (fun _ => rfl) more fun _ _ flying => flying
  counted := enforced.counted.of_same rfl fewer ⟨[], (List.append_nil _).symm⟩ rfl rfl
    (fun _ => rfl) fun _ => rfl
  steady := enforced.steady.of_same (fun _ => rfl) fun _ => le_refl _

theorem takeContext : Enforced due pd.takeContext :=
  enforced.keep pd.running (Nat.le_succ _) fun _ member => member

theorem deactivate (id : ConnId) : Enforced due (pd.deactivate id) :=
  enforced.keep pd.running (le_refl _) fun _ member => List.mem_of_mem_filter member

theorem stopRunning : Enforced due (stopRunning pd) :=
  enforced.keep false (le_refl _) fun _ member => member

theorem emit_silent (noPacket : subject effect = none) (noConn : concerned effect = none) :
    Enforced due (pd.emit effect) := by
  obtain ⟨uncounted, unblocked, hidden⟩ := concerned_none noConn
  refine ⟨enforced.fates.emit_silent noPacket, enforced.counted.emit ?_ uncounted unblocked,
    enforced.steady.emit hidden⟩
  grind

/-- An admitted packet is forwarded, written or dumped. -/
theorem pass (admitted : fate pctx pd.effects = .admitted)
    (through : letsThrough pctx effect = true) (noConn : concerned effect = none) :
    Enforced due (pd.emit effect) := by
  obtain ⟨uncounted, unblocked, hidden⟩ := concerned_none noConn
  refine ⟨enforced.fates.pass admitted through, enforced.counted.emit ?_ uncounted unblocked,
    enforced.steady.emit hidden⟩
  grind

theorem notePacket (unseen : fate pctx pd.effects = .unseen) (taken : pctx.address < pd.contexts)
    (known : pctx.data < pd.newConnId) :
    Enforced (if (pd.conn pctx.data).toBlock then pctx :: due else due) (notePacket pd pctx) := by
  refine ⟨enforced.fates.judge unseen taken _, enforced.counted.emit ?_ rfl fun _ => rfl, ?_⟩
  · intro id about
    obtain rfl := Option.some.inj about
    exact known
  · rw [← Pcapdroid.setConn_conn (Vpn.notePacket pd pctx) pctx.data]
    exact enforced.steady.assign (.verdict pctx (pd.conn pctx.data).toBlock) pctx.data
      (pd.conn pctx.data) (if_pos rfl) fun other different => if_neg (Ne.symm different)

/-- A packet with a verdict belongs to an existing connection. -/
theorem known {blocked : Bool} (judged : .verdict pctx blocked ∈ pd.effects) :
    pctx.data < pd.newConnId :=
  enforced.counted.born _ judged pctx.data rfl

theorem known_of_admitted (admitted : fate pctx pd.effects = .admitted) :
    pctx.data < pd.newConnId := by
  have recorded := fate_recorded pctx pd.effects
  rw [admitted] at recorded
  exact enforced.known recorded.1

end

variable (platform : Platform)

theorem blockPacket (enforced : Enforced (pctx :: due) pd)
    (once : pctx ∉ due) : Enforced due (blockPacket platform pd pctx) := by
  have recorded := fate_recorded pctx pd.effects
  rw [(enforced.fates.condemned pctx).mpr List.mem_cons_self] at recorded
  have known := enforced.known recorded.1
  have dropped := enforced.fates.drop once
  have counted : Enforced due ((pd.emit (.blocked pctx)).setConn pctx.data
      (pd.conn pctx.data).countBlocked.markStats) :=
    ⟨dropped.setConn fun other flying => dropped.inFlight pctx.data other flying,
      enforced.counted.block known, (enforced.steady.emit fun _ => rfl).setConn (le_refl _)⟩
  exact counted.of_uncounted (pdNotifyConnectionUpdate_uncounted platform _ _ _)

section

variable (enforced : Enforced due pd)
include enforced

theorem setFwPctx {fwPctx : Option PktContext}
    (flying : ∀ pctx, fwPctx = some pctx → fate pctx pd.effects = .admitted ∧ pctx.data = id) :
    Enforced due (setFwPctx pd id fwPctx) :=
  ⟨enforced.fates.setConn flying, enforced.counted.setConn rfl rfl,
    enforced.steady.setConn (le_refl _)⟩

theorem account (admitted : fate pctx pd.effects = .admitted) :
    Enforced due (pdAccountStats platform pd pctx) := by
  have known := enforced.known_of_admitted admitted
  have passed : Fates due (pd.emit (.account pctx)) :=
    enforced.fates.pass admitted (decide_eq_true rfl)
  have own : ((pd.conn pctx.data).countPacket pctx.pkt pctx.isTx).markStats.fwPctx =
      (pd.conn pctx.data).fwPctx ∧ (pd.conn pctx.data).toBlock =
      ((pd.conn pctx.data).countPacket pctx.pkt pctx.isTx).markStats.toBlock := by
    unfold Conn.countPacket
    split <;> exact ⟨rfl, rfl⟩
  have counted : Enforced due (countedPacket pd pctx) := by
    refine ⟨?_, enforced.counted.account known, ?_⟩
    · have stats : Fates due ((pd.emit (.account pctx)).setCaptureStats
          (pd.captureStats.countPacket pctx.pkt pctx.isTx)) :=
        passed.of_eq (fun _ => rfl) (le_refl _) fun _ _ flying => flying
      refine stats.setConn ?_
      intro other flying
      rw [own.1] at flying
      exact passed.inFlight pctx.data other flying
    · have stats : SteadyVerdicts ((pd.emit (.account pctx)).setCaptureStats
          (pd.captureStats.countPacket pctx.pkt pctx.isTx)) :=
        enforced.steady.emit fun _ => rfl
      exact stats.setConn (le_of_eq own.2)
  have notified : Uncounted (countedPacket pd pctx) (notifiedPacket platform pd pctx) :=
    pdNotifyConnectionUpdate_uncounted platform _ pctx.tuple pctx.data
  have still : fate pctx (notifiedPacket platform pd pctx).effects = .admitted := by
    rw [notified.fate_eq]
    refine (fate_snoc pctx pd.effects (.account pctx)).trans ?_
    rw [admitted]
    exact Fate.next_letsThrough (decide_eq_true rfl)
  have queued := counted.of_uncounted notified
  rw [pdAccountStats_eq]
  split
  · have dumped : Enforced due ((notifiedPacket platform pd pctx).emit (.dump pctx)) :=
      queued.pass still (decide_eq_true rfl) rfl
    unfold pdDumpPacket
    split
    · exact dumped
    · exact dumped.of_uncounted (.of_view rfl)
  · exact queued

/-! ## Re-checks -/

variable (known : id < pd.newConnId)
include known

variable (tuple : FiveTuple)

theorem recheck : Enforced due ((noteRecheck pd tuple id).setConn id
      ((pd.conn id).setToBlock (policy pd tuple (pd.conn id)))) := by
  have fates : Fates due (noteRecheck pd tuple id) := enforced.fates.emit_silent rfl
  have counted : Counted (noteRecheck pd tuple id) := by
    refine enforced.counted.emit ?_ rfl fun _ => rfl
    intro other about
    obtain rfl := Option.some.inj about
    exact known
  refine ⟨fates.setConn fun pctx flying => fates.inFlight id pctx flying,
    counted.setConn rfl rfl, ?_⟩
  exact enforced.steady.assign _ id _ (if_pos rfl) fun other different =>
    if_neg (Ne.symm different)

theorem checkBlockedConnCb : Enforced due (checkBlockedConnCb platform pd tuple id) := by
  have rechecked := enforced.recheck known tuple
  rw [checkBlockedConnCb_eq]
  split
  next settled =>
    rw [Conn.setToBlock_eq_self settled.symm] at rechecked
    exact (Pcapdroid.setConn_conn (noteRecheck pd tuple id) id) ▸ rechecked
  next =>
    generalize (pd.conn id).setToBlock (policy pd tuple (pd.conn id)) = data at rechecked ⊢
    rw [← Pcapdroid.setConn_setConn _ id data data.markStats]
    refine rechecked.of_uncounted (notify_uncounted platform tuple ?_)
    rw [Pcapdroid.setConn_conn_self]
    exact .of_view rfl

theorem checkBlacklistedConnCb : Enforced due (checkBlacklistedConnCb platform pd tuple id) := by
  have both : Enforced due (Core.checkBlacklistedConnCb platform pd tuple id) ∧
      id < (Core.checkBlacklistedConnCb platform pd tuple id).newConnId := by
    apply @checkBlacklistedConnCb_invariant platform fun after =>
      Enforced due after ∧ id < after.newConnId
    · exact ⟨enforced, known⟩
    · intro whitelist
      exact ⟨enforced.of_uncounted (setConn_uncounted (.of_view rfl)), known⟩
    · rintro after ⟨kept, known⟩
      refine ⟨kept.checkBlockedConnCb platform known tuple, ?_⟩
      rw [(checkBlockedConnCb_touches platform after tuple id).newConnId]
      exact known
    · rintro after ⟨kept, known⟩
      refine ⟨kept.of_uncounted (notify_uncounted platform tuple (.of_view rfl)), ?_⟩
      rw [(pdNotifyConnectionUpdate_touches platform _ tuple id).newConnId]
      exact known
  exact both.1

end

/-! ## Housekeeping -/

theorem keptByHousekeeping : KeptByHousekeeping platform (Enforced due) where
  periodicTask exported enforced := enforced.of_uncounted (periodicTask_uncounted exported _)
  setMalwareDetection detection enforced :=
    enforced.of_uncounted (setMalwareDetection_uncounted _ detection)
  setFirewall firewall enforced := enforced.of_uncounted (setFirewall_uncounted _ firewall)
  setTlsDecryption decryption enforced :=
    enforced.of_uncounted (setTlsDecryption_uncounted _ decryption)
  checkBlacklistedConnCb active enforced :=
    enforced.checkBlacklistedConnCb platform (enforced.counted.known _ active) _
  checkBlockedConnCb active enforced :=
    enforced.checkBlockedConnCb platform (enforced.counted.known _ active) _

theorem pdHousekeeping (enforced : Enforced due pd) (exported : Bool) :
    Enforced due (pdHousekeeping platform exported pd) :=
  (keptByHousekeeping platform).pdHousekeeping exported enforced

/-! ## New connections -/

theorem registerConnection (enforced : Enforced due pd) (tuple : FiveTuple)
    (uid : Int) : Enforced due (registerConnection platform pd tuple uid) := by
  have absent (effect : Effect) (seen : effect ∈ pd.effects) :
      concerned effect ≠ some pd.newConnId := fun about =>
    Nat.lt_irrefl _ (enforced.counted.born effect seen pd.newConnId about)
  rw [registerConnection_eq]
  have fates : Fates due (enqueue pd .newConns ⟨tuple, pd.newConnId⟩).takeConnId :=
    enforced.fates.of_eq (fun _ => rfl) (le_refl _) fun _ _ flying => flying
  refine ⟨fates.setConn ?_, ⟨?_, ?_, fun id => ?_, fun id => ?_, enforced.counted.capture,
    enforced.counted.ipv6⟩, fun id => ?_⟩
  · rintro pctx ⟨⟩
  · exact fun slot member => Nat.lt_succ_of_lt (enforced.counted.known slot member)
  · exact fun effect seen id about => Nat.lt_succ_of_lt (enforced.counted.born effect seen id about)
  · refine Pcapdroid.setConn_cases ?_ (fun other _ => enforced.counted.blockedPkts other) id
    exact (blockedOf_unconcerned absent).symm
  · refine Pcapdroid.setConn_cases ?_ (fun other _ => enforced.counted.traffic other) id
    exact congrArg trafficOf (accountedOf_unconcerned absent).symm
  · refine Pcapdroid.setConn_cases ?_ (fun other _ => enforced.steady other) id
    exact (verdicts_unconcerned absent).symm ▸ steady_nil _

end Enforced

end PcapdroidFormal.Vpn
