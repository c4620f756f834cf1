import PcapdroidFormal.Foundation.Traces
import PcapdroidFormal.Vpn.Enforcement

/-!
# Egress packets are accounted once and in order

While zdtun forwards a packet, its context is kept in the connection as `fw_pctx`,
so that a packet delivered meanwhile finds it and has it accounted first.  When
`zdtun_forward` fails, nothing clears `fw_pctx` unless a packet was delivered.
-/

namespace PcapdroidFormal.Vpn

open PcapdroidFormal.Core Firewall Foundation

variable {effect : Effect} {id : ConnId} {slot : ConnAndTuple} {pctx : PktContext}

/-! ## The law -/

/-- An ingress packet of the connection was handled after `zdtun_forward` was called. -/
def Replied (pctx : PktContext) (effects : List Effect) : Prop :=
  ∃ early during reply blocked, effects = early ++ .forward pctx :: during ∧
    .verdict reply blocked ∈ during ∧ reply.isTx = false ∧ reply.data = pctx.data

/-- What each effect requires of the effects before it. -/
def egressRule (past : List Effect) : Effect → Prop
  | .account pctx =>
    .account pctx ∉ past ∧ .forwarded pctx false ∉ past ∧
      (pctx.isTx = false → ∀ sent, .forward sent ∈ past → sent.data = pctx.data →
        .account sent ∈ past)
  | .forwarded pctx false => .account pctx ∈ past → Replied pctx past
  | .zdtunCall _ inFlight => inFlight = false
  | _ => True

/-- The packet whose way an effect is about. -/
def egressOf : Effect → Option PktContext
  | .forward pctx | .forwarded pctx _ | .account pctx => some pctx
  | _ => none

/-- The effects that the law says nothing about. -/
def plain : Effect → Bool
  | .forward _ | .forwarded _ _ | .account _ | .zdtunCall _ _ => false
  | _ => true

theorem egressOf_plain (isPlain : plain effect = true) :
    egressOf effect = none := by
  cases effect with
  | forward | forwarded | account => cases isPlain
  | _ => rfl

theorem egressRule_plain (isPlain : plain effect = true) (past : List Effect) :
    egressRule past effect := by
  cases effect with
  | forwarded | account | zdtunCall => cases isPlain
  | _ => trivial

theorem Replied.append {effects : List Effect} (replied : Replied pctx effects) (more : List Effect)
    : Replied pctx (effects ++ more) := by
  obtain ⟨early, during, reply, blocked, split, shown, isReply⟩ := replied
  refine ⟨early, during ++ more, reply, blocked, ?_, List.mem_append_left more shown, isReply⟩
  grind

theorem Replied.forward_mem {effects : List Effect} (replied : Replied pctx effects) :
    .forward pctx ∈ effects := by
  obtain ⟨early, during, reply, blocked, split, _⟩ := replied
  grind

/-! ## The trace -/

/-- The law on a trace in which at most one packet, `flight`, is on its way. -/
structure Logged (flight : Option PktContext) (contexts : Nat) (effects : List Effect) : Prop where
  obeys : Obeys egressRule effects
  fresh : ∀ effect ∈ effects, ∀ pctx, egressOf effect = some pctx → pctx.address < contexts
  accounted : ∀ pctx, .forward pctx ∈ effects → flight ≠ some pctx → .account pctx ∈ effects
  returned : ∀ pctx success, .forwarded pctx success ∈ effects → .forward pctx ∈ effects
  aloft : ∀ pctx, flight = some pctx → pctx.isTx = true ∧ .forward pctx ∈ effects ∧
    .account pctx ∉ effects ∧ .forwarded pctx false ∉ effects

namespace Logged

variable {flight : Option PktContext} {contexts : Nat} {effects : List Effect} {pctx : PktContext}

theorem nil (contexts : Nat) : Logged none contexts [] where
  obeys := obeys_nil
  fresh := List.forall_mem_nil _
  accounted _ member := absurd member List.not_mem_nil
  returned _ _ member := absurd member List.not_mem_nil
  aloft _ flying := by cases flying

section

variable (logged : Logged flight contexts effects)
include logged

theorem mono {later : Nat} (grown : contexts ≤ later) : Logged flight later effects where
  obeys := logged.obeys
  fresh effect member pctx about := (logged.fresh effect member pctx about).trans_le grown
  accounted := logged.accounted
  returned := logged.returned
  aloft := logged.aloft

/-- A packet whose context is new is not in the trace. -/
theorem unmentioned (new : contexts ≤ pctx.address) :
    ∀ effect ∈ effects, egressOf effect ≠ some pctx := fun effect member about =>
  absurd (logged.fresh effect member pctx about) (Nat.not_lt.mpr new)

/-- One more effect.  A packet is on its way as before, or takes off now. -/
theorem snoc {next : Option PktContext} (allowed : egressRule effects effect)
    (taken : ∀ pctx, egressOf effect = some pctx → pctx.address < contexts)
    (landed : ∀ pctx, flight = some pctx ∨ effect = .forward pctx → next ≠ some pctx →
      effect = .account pctx)
    (returned : ∀ pctx success, effect = .forwarded pctx success → .forward pctx ∈ effects)
    (aloft : ∀ pctx, next = some pctx →
      (flight = some pctx ∧ effect ≠ .account pctx ∧ effect ≠ .forwarded pctx false) ∨
        effect = .forward pctx ∧ pctx.isTx = true ∧ ∀ other ∈ effects, egressOf other ≠ some pctx) :
    Logged next contexts (effects ++ [effect]) := by
  constructor
  · exact logged.obeys.snoc allowed
  · intro other member pctx about
    rcases List.mem_append.mp member with old | new
    · exact logged.fresh other old pctx about
    · exact taken pctx (List.mem_singleton.mp new ▸ about)
  · intro pctx member other
    by_cases flying : flight = some pctx ∨ effect = .forward pctx
    · simp [landed pctx flying other]
    · have accounted := logged.accounted pctx
      grind
  · intro pctx success member
    have earlier := logged.returned pctx success
    have now := returned pctx success
    grind
  · intro pctx flying
    rcases aloft pctx flying with ⟨before, notAccounted, notFailed⟩ | ⟨rfl, isTx, new⟩
    · have known := logged.aloft pctx before
      grind
    · have unknown (other : Effect) (about : egressOf other = some pctx) : other ∉ effects :=
        fun member => new other member about
      simp [isTx, unknown (.account pctx) rfl, unknown (.forwarded pctx false) rfl]

/-- An effect that is about no packet on its way. -/
theorem silent (allowed : egressRule effects effect) (about : egressOf effect = none) :
    Logged flight contexts (effects ++ [effect]) := by
  have other {pctx : PktContext} {event : Effect} (mentions : egressOf event = some pctx) :
      effect ≠ event := by
    rintro rfl
    rw [about] at mentions
    cases mentions
  refine logged.snoc allowed (fun pctx mentions => absurd rfl (other mentions)) ?_
    (fun _ _ same => absurd same (other rfl)) fun pctx flying => .inl ⟨flying, other rfl, other rfl⟩
  rintro pctx (flying | same) landed
  · exact absurd flying landed
  · exact absurd same (other rfl)

theorem append_plain {more : List Effect} (isPlain : ∀ effect ∈ more, plain effect = true) :
    Logged flight contexts (effects ++ more) := by
  induction more generalizing effects with
  | nil =>
    grind
  | cons effect more ih =>
    have here := isPlain effect List.mem_cons_self
    rw [List.append_cons]
    exact ih (logged.silent (egressRule_plain here effects) (egressOf_plain here))
      fun other member => isPlain other (List.mem_cons_of_mem effect member)

end

/-- A call into zdtun while no packet is on its way. -/
theorem call (logged : Logged none contexts effects) (call : ZdtunCall) :
    Logged none contexts (effects ++ [.zdtunCall call false]) := logged.silent rfl rfl

/-- An ingress packet is accounted, and no egress packet of its connection is on its way. -/
theorem reply (logged : Logged flight contexts effects)
    (new : ∀ effect ∈ effects, egressOf effect ≠ some pctx) (taken : pctx.address < contexts)
    (others : ∀ sent, flight = some sent → sent.data ≠ pctx.data) :
    Logged flight contexts (effects ++ [.account pctx]) := by
  refine logged.snoc ⟨fun member => new _ member rfl, fun member => new _ member rfl, ?_⟩ ?_ ?_ ?_ ?_
  · intro _ sent forwarded sameConn
    exact logged.accounted sent forwarded fun flying => others sent flying sameConn
  · rintro _ ⟨⟩
    exact taken
  · rintro sent (flying | ⟨⟨⟩⟩) landed
    exact absurd flying landed
  · rintro _ _ ⟨⟩
  · intro sent flying
    refine .inl ⟨flying, ?_, Effect.noConfusion⟩
    rintro ⟨⟩
    exact others pctx flying rfl

/-- The packet on its way is accounted. -/
theorem land (logged : Logged (some pctx) contexts effects) :
    Logged none contexts (effects ++ [.account pctx]) := by
  obtain ⟨isTx, forwarded, unaccounted, notFailed⟩ := logged.aloft pctx rfl
  refine logged.snoc ⟨unaccounted, notFailed, ?_⟩ ?_ ?_ ?_ ?_
  · grind
  · rintro _ ⟨⟩
    exact logged.fresh _ forwarded pctx rfl
  · rintro _ (⟨⟨⟩⟩ | ⟨⟨⟩⟩) _
    rfl
  · rintro _ _ ⟨⟩
  · rintro _ ⟨⟩

/-- A packet is passed to `zdtun_forward`. -/
theorem takeOff (logged : Logged none contexts effects) (isTx : pctx.isTx = true)
    (new : ∀ effect ∈ effects, egressOf effect ≠ some pctx) (taken : pctx.address < contexts) :
    Logged (some pctx) contexts (effects ++ [.forward pctx]) := by
  refine logged.snoc trivial ?_ ?_ ?_ ?_
  · rintro _ ⟨⟩
    exact taken
  · rintro _ (⟨⟨⟩⟩ | ⟨⟨⟩⟩) landed
    exact absurd rfl landed
  · rintro _ _ ⟨⟩
  · rintro _ ⟨⟩
    exact .inr ⟨rfl, isTx, new⟩

/-- `zdtun_forward` returns. -/
theorem returns (logged : Logged flight contexts effects) {success : Bool}
    (forwarded : .forward pctx ∈ effects)
    (late : success = false → flight = none ∧ Replied pctx effects) :
    Logged flight contexts (effects ++ [.forwarded pctx success]) := by
  refine logged.snoc ?_ ?_ ?_ ?_ ?_
  · cases success with
    | true => trivial
    | false => exact fun _ => (late rfl).2
  · rintro _ ⟨⟩
    exact logged.fresh _ forwarded pctx rfl
  · rintro sent (flying | ⟨⟨⟩⟩) landed
    exact absurd flying landed
  · rintro _ _ ⟨⟩
    exact forwarded
  · intro sent flying
    refine .inl ⟨flying, Effect.noConfusion, ?_⟩
    rintro ⟨⟩
    cases (late rfl).1.symm.trans flying

end Logged

/-! ## Steps that the law says nothing about -/

/-- The step shows plain effects only and changes no `fw_pctx`. -/
structure Plain (before after : Pcapdroid) : Prop where
  effects : ∃ more, after.effects = before.effects ++ more ∧ ∀ effect ∈ more, plain effect = true
  contexts : before.contexts ≤ after.contexts
  fwPctx : ∀ id, (after.conn id).fwPctx = (before.conn id).fwPctx

namespace Plain

variable {first second third pd : Pcapdroid}

theorem trans (earlier : Plain first second) (later : Plain second third) : Plain first third := by
  obtain ⟨more, before, plainBefore⟩ := earlier.effects
  obtain ⟨rest, after, plainAfter⟩ := later.effects
  refine ⟨⟨more ++ rest, ?_, ?_⟩, earlier.contexts.trans later.contexts,
    fun id => (later.fwPctx id).trans (earlier.fwPctx id)⟩
  · grind
  · grind

theorem of_heap (effects : second.effects = first.effects)
    (contexts : first.contexts ≤ second.contexts) (heap : second.heap = first.heap) :
    Plain first second :=
  ⟨⟨[], effects.trans (List.append_nil _).symm, List.forall_mem_nil _⟩, contexts,
    fun id => congrArg Conn.fwPctx (congrFun heap id)⟩

theorem refl (pd : Pcapdroid) : Plain pd pd := of_heap rfl (le_refl _) rfl

theorem of_uncounted (step : Uncounted first second) : Plain first second := by
  obtain ⟨freed, effects⟩ := step.effects
  refine ⟨⟨freed.map Effect.free, effects, ?_⟩, le_of_eq step.contexts.symm,
    fun id => (step.conns id).fwPctx_eq⟩
  intro effect member
  obtain ⟨id, _, rfl⟩ := List.mem_map.mp member
  rfl

theorem emit (isPlain : plain effect = true) : Plain pd (pd.emit effect) := by
  refine ⟨⟨[effect], rfl, ?_⟩, le_refl _, fun _ => rfl⟩
  grind

theorem setConn {data : Conn} (same : data.fwPctx = (pd.conn id).fwPctx) :
    Plain pd (pd.setConn id data) := by
  refine ⟨⟨[], (List.append_nil _).symm, List.forall_mem_nil _⟩, le_refl _, ?_⟩
  exact fun other => Pcapdroid.setConn_cases same (fun _ _ => rfl) other

variable (platform : Platform)

variable (exported : Bool) (pd : Pcapdroid) (pctx : PktContext)

/-- All that `pd_account_stats` does apart from being called. -/
theorem account :
    Plain (pd.emit (.account pctx)) (pdAccountStats platform pd pctx) := by
  have same : ((pd.conn pctx.data).countPacket pctx.pkt pctx.isTx).markStats.fwPctx =
      (pd.conn pctx.data).fwPctx := by
    unfold Conn.countPacket
    split <;> rfl
  have stats : Plain (pd.emit (.account pctx)) ((pd.emit (.account pctx)).setCaptureStats
      (pd.captureStats.countPacket pctx.pkt pctx.isTx)) := of_heap rfl (le_refl _) rfl
  have counted : Plain (pd.emit (.account pctx)) (countedPacket pd pctx) :=
    stats.trans (setConn same)
  exact pdAccountStats_invariant platform
    (counted.trans (of_uncounted (pdNotifyConnectionUpdate_uncounted platform _ _ _)))
    (·.trans (emit rfl)) (·.trans (of_heap rfl (le_refl _) rfl))

theorem blockPacket :
    Plain pd (blockPacket platform pd pctx) := by
  have shown : Plain pd (pd.emit (.blocked pctx)) := emit rfl
  have counted : Plain (pd.emit (.blocked pctx)) ((pd.emit (.blocked pctx)).setConn pctx.data
      (pd.conn pctx.data).countBlocked.markStats) := setConn rfl
  exact (shown.trans counted).trans
    (of_uncounted (pdNotifyConnectionUpdate_uncounted platform _ _ _))

theorem processPacket (pkt : ZdtunPkt) (isTx : Bool) (tuple : FiveTuple) (id : ConnId) (ms : Nat) :
    Plain pd (pdProcessPacket platform pd pkt isTx tuple id ms).1 := by
  have taken : Plain pd pd.takeContext := of_heap rfl (Nat.le_succ _) rfl
  exact taken.trans (of_uncounted (pdProcessPacket_uncounted platform pd pkt isTx tuple id ms))

theorem checkBlockedConnCb (tuple : FiveTuple) (id : ConnId) :
    Plain pd (checkBlockedConnCb platform pd tuple id) := by
  have shown : Plain pd (noteRecheck pd tuple id) := emit rfl
  rw [checkBlockedConnCb_eq]
  split
  · exact shown
  · have changed : Plain (noteRecheck pd tuple id) ((noteRecheck pd tuple id).setConn id
        ((pd.conn id).setToBlock (policy pd tuple (pd.conn id))).markStats) := setConn rfl
    exact (shown.trans changed).trans
      (of_uncounted (pdNotifyConnectionUpdate_uncounted platform _ tuple id))

theorem checkBlacklistedConnCb (tuple : FiveTuple) (id : ConnId) :
    Plain pd (checkBlacklistedConnCb platform pd tuple id) := by
  apply checkBlacklistedConnCb_invariant
  · exact refl pd
  · intro whitelist
    exact setConn rfl
  · intro after plain
    exact plain.trans (checkBlockedConnCb platform after tuple id)
  · intro after plain
    exact plain.trans (of_uncounted (notify_uncounted platform tuple (.of_view rfl)))

theorem keptByHousekeeping : KeptByHousekeeping platform (Plain pd) where
  periodicTask exported plain := plain.trans (of_uncounted (periodicTask_uncounted exported _))
  setMalwareDetection detection plain :=
    plain.trans (of_uncounted (setMalwareDetection_uncounted _ detection))
  setFirewall firewall plain := plain.trans (of_uncounted (setFirewall_uncounted _ firewall))
  setTlsDecryption decryption plain :=
    plain.trans (of_uncounted (setTlsDecryption_uncounted _ decryption))
  checkBlacklistedConnCb _ plain := plain.trans (checkBlacklistedConnCb platform _ _ _)
  checkBlockedConnCb _ plain := plain.trans (checkBlockedConnCb platform _ _ _)

theorem pdHousekeeping :
    Plain pd (pdHousekeeping platform exported pd) :=
  (keptByHousekeeping platform pd).pdHousekeeping exported (refl pd)

end Plain

/-! ## The capture -/

/-- The law on a capture: the only `fw_pctx` is that of the packet on its way. -/
structure Tracked (flight : Option PktContext) (pd : Pcapdroid) : Prop where
  logged : Logged flight pd.contexts pd.effects
  fwPctx : ∀ id, (pd.conn id).fwPctx = flight.filter fun pctx => pctx.data = id

namespace Tracked

variable {flight : Option PktContext} {pd before after : Pcapdroid} {pctx : PktContext}

theorem of_plain (tracked : Tracked flight before) (step : Plain before after) :
    Tracked flight after := by
  obtain ⟨more, effects, isPlain⟩ := step.effects
  refine ⟨?_, fun id => (step.fwPctx id).trans (tracked.fwPctx id)⟩
  rw [effects]
  exact (tracked.logged.mono step.contexts).append_plain isPlain

theorem of_uncounted (tracked : Tracked flight before) (step : Uncounted before after) :
    Tracked flight after := tracked.of_plain (.of_uncounted step)

theorem anyFwPctx_eq (tracked : Tracked none pd) : anyFwPctx pd = false := by
  refine List.any_eq_false.mpr ?_
  intro id _
  rw [tracked.fwPctx]
  exact Bool.false_ne_true

theorem noteCall (tracked : Tracked none pd) (call : ZdtunCall) :
    Tracked none (noteCall pd call) := by
  refine ⟨?_, tracked.fwPctx⟩
  unfold Vpn.noteCall
  rw [tracked.anyFwPctx_eq]
  exact tracked.logged.call call

/-- A packet of another connection than that of the one on its way finds no `fw_pctx`. -/
theorem accountForwarded_other (platform : Platform) (tracked : Tracked flight pd)
    (other : flight.filter (fun pctx => pctx.data = id) = none) :
    accountForwarded platform pd id = pd := by
  unfold accountForwarded
  rw [tracked.fwPctx, other]

/-- The packet on its way is accounted. -/
theorem accountForwarded_own (platform : Platform) (tracked : Tracked (some pctx) pd) :
    Tracked none (accountForwarded platform pd pctx.data) := by
  have own : (pd.conn pctx.data).fwPctx = some pctx := by
    rw [tracked.fwPctx, Option.filter_some, if_pos (decide_eq_true rfl)]
  have step := Plain.account platform pd pctx
  unfold accountForwarded
  rw [own]
  dsimp only
  constructor
  · obtain ⟨more, effects, isPlain⟩ := step.effects
    have landed := (tracked.logged.land.mono step.contexts).append_plain isPlain
    rw [show (setFwPctx (pdAccountStats platform pd pctx) pctx.data none).effects =
      (pdAccountStats platform pd pctx).effects from rfl, effects]
    exact landed
  · intro id
    unfold setFwPctx
    by_cases same : id = pctx.data
    · subst same
      simp
    · rw [Pcapdroid.setConn_conn_other _ _ same, step.fwPctx]
      refine (tracked.fwPctx id).trans ?_
      grind

end Tracked

/-! ## Packets delivered by zdtun -/

/-- The trace goes on, and shows the verdict on the delivered packet. -/
theorem handleDelivery_shows (platform : Platform) (pd : Pcapdroid) (tuple : FiveTuple)
    (id : ConnId) (delivery : Delivery) :
    ∃ more reply blocked,
      (handleDelivery platform pd tuple id delivery).1.effects = pd.effects ++ more ∧
        .verdict reply blocked ∈ more ∧ reply.isTx = false ∧ reply.data = id := by
  have isRx : (processDelivery platform pd tuple id delivery).2.isTx = false := rfl
  have data : (processDelivery platform pd tuple id delivery).2.data = id := rfl
  obtain ⟨before, effects⟩ := (Raised.processDelivery platform pd tuple id delivery).effects
  obtain ⟨rest, later⟩ := (Raised.judgedDelivery platform pd tuple id delivery rfl).effects
  generalize processDelivery platform pd tuple id delivery = result at isRx data effects later
  refine ⟨before ++ .verdict result.2 (result.1.conn result.2.data).toBlock :: rest, result.2,
    (result.1.conn result.2.data).toBlock, ?_,
    List.mem_append_right _ List.mem_cons_self, isRx, data⟩
  rw [later, show (notePacket result.1 result.2).effects = result.1.effects ++
    [.verdict result.2 (result.1.conn result.2.data).toBlock] from rfl, effects]
  simp

namespace Tracked

variable {flight : Option PktContext} {pd : Pcapdroid} {pctx : PktContext} (platform : Platform)

section

variable (tracked : Tracked flight pd)
include tracked

/-- An ingress packet is accounted. -/
theorem accountReply (new : ∀ effect ∈ pd.effects, egressOf effect ≠ some pctx)
    (taken : pctx.address < pd.contexts)
    (other : flight.filter (fun sent => sent.data = pctx.data) = none) :
    Tracked flight (pdAccountStats platform pd pctx) := by
  have accounted : Tracked flight (pd.emit (.account pctx)) := by
    refine ⟨tracked.logged.reply new taken ?_, tracked.fwPctx⟩
    grind
  exact accounted.of_plain (.account platform pd pctx)

variable (other : flight.filter (fun sent => sent.data = id) = none)
include other

theorem handleDelivery (tuple : FiveTuple) (delivery : Delivery) :
    Tracked flight (handleDelivery platform pd tuple id delivery).1 := by
  have refreshed := tracked.of_uncounted (pdRefreshTime_uncounted pd delivery.now)
  have step := pdProcessPacket_uncounted platform (pdRefreshTime pd delivery.now) delivery.pkt false
    tuple id delivery.ms
  rw [← processDelivery] at step
  have processed : Tracked flight (processDelivery platform pd tuple id delivery).1 :=
    refreshed.of_plain (.processPacket platform _ delivery.pkt false tuple id delivery.ms)
  have new : ∀ effect ∈ (processDelivery platform pd tuple id delivery).1.effects,
      egressOf effect ≠ some (processDelivery platform pd tuple id delivery).2 := by
    obtain ⟨freed, effects⟩ := step.effects
    rw [effects]
    intro effect member
    rcases List.mem_append.mp member with old | new
    · exact refreshed.logged.unmentioned (le_refl _) effect old
    · obtain ⟨_, _, rfl⟩ := List.mem_map.mp new
      exact Option.some_ne_none _ |>.symm
  have taken : (processDelivery platform pd tuple id delivery).2.address <
      (processDelivery platform pd tuple id delivery).1.contexts := by
    rw [step.contexts]
    exact Nat.lt_succ_self _
  have data : (processDelivery platform pd tuple id delivery).2.data = id := rfl
  simp only [Vpn.handleDelivery]
  generalize processDelivery platform pd tuple id delivery = result
    at processed new taken data ⊢
  obtain ⟨after, pctx⟩ := result
  dsimp only at processed new taken data ⊢
  subst data
  have judged : Tracked flight (notePacket after pctx) := processed.of_plain (.emit rfl)
  split
  · exact judged.of_plain (.blockPacket platform _ _)
  · have shown : Tracked flight ((notePacket after pctx).emit (.write pctx)) :=
      judged.of_plain (.emit rfl)
    cases delivery.written with
    | complete =>
      refine shown.accountReply platform ?_ taken other
      intro effect member
      rcases List.mem_append.mp member with earlier | written
      · rcases List.mem_append.mp earlier with old | verdict
        · exact new effect old
        · rw [List.mem_singleton.mp verdict]
          exact Option.some_ne_none _ |>.symm
      · rw [List.mem_singleton.mp written]
        exact Option.some_ne_none _ |>.symm
    | partially => exact shown
    | noBuffers => exact shown
    | failed => exact shown.of_plain (.of_heap rfl (le_refl _) rfl)

/-- A delivered packet, unless it is of the connection of the packet on its way. -/
theorem remote2vpn_other (tuple : FiveTuple) (delivery : Delivery) :
    Tracked flight (remote2vpn platform pd tuple id delivery).1 := by
  unfold remote2vpn
  split
  · rw [tracked.accountForwarded_other platform other]
    exact tracked.handleDelivery platform other tuple delivery
  · exact tracked

end

/-- The first packet delivered for the connection of the packet on its way. -/
theorem remote2vpn_own (tracked : Tracked (some pctx) pd) (running : pd.running = true)
    (tuple : FiveTuple) (delivery : Delivery) :
    Tracked none (remote2vpn platform pd tuple pctx.data delivery).1 ∧
      Replied pctx (remote2vpn platform pd tuple pctx.data delivery).1.effects := by
  have landed := tracked.accountForwarded_own platform
  rw [remote2vpn, if_pos running]
  refine ⟨landed.handleDelivery platform rfl tuple delivery, ?_⟩
  obtain ⟨more, reply, blocked, effects, shown, isReply⟩ := handleDelivery_shows platform
    (accountForwarded platform pd pctx.data) tuple pctx.data delivery
  obtain ⟨counted, accounted⟩ := (Raised.accountForwarded platform pd pctx.data).effects
  obtain ⟨early, during, forwarded⟩ :=
    List.append_of_mem (tracked.logged.aloft pctx rfl).2.1
  refine ⟨early, during ++ counted ++ more, reply, blocked, ?_, ?_, isReply⟩
  · grind
  · grind

end Tracked

/-! ## The environment -/

section

variable (platform : Platform) {pctx : PktContext} {pd : Pcapdroid}

theorem Tracked.keptByZdtun : KeptByZdtun platform (Tracked none) where
  uncounted := of_uncounted
  remote2vpn delivery tracked _ := tracked.remote2vpn_other platform rfl _ delivery
  deactivate _ tracked := tracked.of_plain (.of_heap rfl (le_refl _) rfl)
  stopRunning tracked := tracked.of_plain (.of_heap rfl (le_refl _) rfl)

/-- The packet was accounted because a packet of its connection was delivered. -/
structure Landed (pctx : PktContext) (pd : Pcapdroid) : Prop where
  tracked : Tracked none pd
  replied : Replied pctx pd.effects

theorem Landed.of_raised {before after : Pcapdroid}
    (landed : Landed pctx before) (raised : Raised before after) (tracked : Tracked none after) :
    Landed pctx after := by
  obtain ⟨more, effects⟩ := raised.effects
  have later := landed.replied.append more
  rw [← effects] at later
  exact ⟨tracked, later⟩

theorem Landed.connActions
    (landed : Landed pctx pd) (slot : ConnAndTuple) (actions : List ConnAction) :
    Landed pctx (connActions platform slot pd actions) :=
  landed.of_raised ((Raised.keptByZdtun platform pd).connActions (.refl pd) slot actions)
    ((Tracked.keptByZdtun platform).connActions landed.tracked slot actions)

/-- While zdtun forwards a packet, it is on its way or has landed. -/
def Aloft (pctx : PktContext) (pd : Pcapdroid) : Prop :=
  Tracked (some pctx) pd ∨ Landed pctx pd

theorem Aloft.forward_mem (aloft : Aloft pctx pd) :
    .forward pctx ∈ pd.effects := by
  rcases aloft with flying | landed
  · exact (flying.logged.aloft pctx rfl).2.1
  · exact landed.replied.forward_mem

theorem Aloft.of_remote2vpn
    (flying : Tracked (some pctx) pd) (tuple : FiveTuple) (id : ConnId) (delivery : Delivery) :
    Aloft pctx (remote2vpn platform pd tuple id delivery).1 := by
  by_cases own : pctx.data = id
  · subst own
    by_cases running : pd.running = true
    · obtain ⟨tracked, replied⟩ := flying.remote2vpn_own platform running tuple delivery
      exact .inr ⟨tracked, replied⟩
    · rw [remote2vpn, if_neg running]
      exact .inl flying
  · refine .inl (flying.remote2vpn_other platform ?_ tuple delivery)
    grind

theorem Aloft.keptByZdtun (pctx : PktContext) : KeptByZdtun platform (Aloft pctx) where
  uncounted aloft step := aloft.imp (·.of_uncounted step) fun landed =>
    landed.of_raised (.of_uncounted step) (landed.tracked.of_uncounted step)
  remote2vpn delivery aloft _ := aloft.elim (of_remote2vpn platform · _ _ delivery) fun landed =>
    .inr (landed.of_raised (.remote2vpn platform _ _ _ delivery)
      (landed.tracked.remote2vpn_other platform rfl _ delivery))
  deactivate _ aloft := aloft.imp (·.of_plain (.of_heap rfl (le_refl _) rfl)) fun landed =>
    landed.of_raised (.of_heap rfl rfl rfl) (landed.tracked.of_plain (.of_heap rfl (le_refl _) rfl))
  stopRunning aloft := aloft.imp (·.of_plain (.of_heap rfl (le_refl _) rfl)) fun landed =>
    landed.of_raised (.of_heap rfl rfl rfl) (landed.tracked.of_plain (.of_heap rfl (le_refl _) rfl))

def Control.stops : Control → Bool
  | .stopPacketLoop => true
  | _ => false

theorem Control.ne_stop {control : Control} (goesOn : control.stops = false) :
    control ≠ .stopPacketLoop := by
  rintro rfl
  cases goesOn

/-! ## Replies

What matters to the packet on its way: the loop is running and its connection is open. -/

def loopState (pd : Pcapdroid) : Bool × List ConnAndTuple := (pd.running, pd.connections)

theorem Uncounted.loopState_eq {before after : Pcapdroid} (step : Uncounted before after) :
    loopState after = loopState before :=
  Prod.ext step.running step.connections

theorem pdAccountStats_loopState (pd : Pcapdroid) (pctx : PktContext) :
    loopState (pdAccountStats platform pd pctx) = loopState pd :=
  pdAccountStats_invariant platform
    (pdNotifyConnectionUpdate_uncounted platform (countedPacket pd pctx) _ _).loopState_eq id id

theorem remote2vpn_loopState (pd : Pcapdroid) (tuple : FiveTuple) (id : ConnId)
    {delivery : Delivery} (written : delivery.written ≠ .failed) :
    loopState (remote2vpn platform pd tuple id delivery).1 = loopState pd := by
  have forwarded : loopState (accountForwarded platform pd id) = loopState pd := by
    unfold accountForwarded
    split
    · rfl
    · exact pdAccountStats_loopState platform pd _
  unfold remote2vpn
  split
  · refine Eq.trans ?_ forwarded
    generalize accountForwarded platform pd id = start
    have processed : loopState (processDelivery platform start tuple id delivery).1 =
        loopState start :=
      (pdProcessPacket_uncounted platform (pdRefreshTime start delivery.now) delivery.pkt false
        tuple id delivery.ms).loopState_eq
    simp only [handleDelivery]
    generalize processDelivery platform start tuple id delivery = result at processed ⊢
    split
    · exact (pdNotifyConnectionUpdate_uncounted platform _ _ _).loopState_eq.trans processed
    · cases outcome : delivery.written with
      | complete => exact (pdAccountStats_loopState platform _ _).trans processed
      | partially => exact processed
      | noBuffers => exact processed
      | failed => exact absurd outcome written
  · rfl

/-- A packet of the connection is delivered before anything stops the loop or closes the
connection. -/
def repliesFirst : List ConnAction → Bool
  | .sendClient _ :: _ => true
  | .sendOther _ delivery :: actions => delivery.written != .failed && repliesFirst actions
  | .accountPacket _ :: actions => repliesFirst actions
  | .control control :: actions => !control.stops && repliesFirst actions
  | _ => false

theorem repliesFirst_landed (own : pctx.data = slot.data) (actions : List ConnAction)
    (flying : Tracked (some pctx) pd) (running : pd.running = true)
    (opened : slot ∈ pd.connections) (first : repliesFirst actions = true) :
    Landed pctx (connActions platform slot pd actions) := by
  induction actions generalizing pd with
  | nil => cases first
  | cons action actions ih =>
    have later {after : Pcapdroid} (flying : Tracked (some pctx) after)
        (same : loopState after = loopState pd) (rest : repliesFirst actions = true) :
        Landed pctx (Vpn.connActions platform slot after actions) := by
      obtain ⟨runs, connections⟩ := Prod.mk.inj same
      exact ih flying (runs.trans running) (connections.symm ▸ opened) rest
    -- an action that counts nothing leaves the packet on its way
    have quiet {after : Pcapdroid} (step : Uncounted pd after) :=
      later (flying.of_uncounted step) step.loopState_eq
    -- a packet of its connection lands it
    have reply (tuple : FiveTuple) (delivery : Delivery) :
        Landed pctx (Vpn.connActions platform slot
          (remote2vpn platform pd tuple pctx.data delivery).1 actions) := by
      obtain ⟨tracked, replied⟩ := flying.remote2vpn_own platform running tuple delivery
      exact Landed.connActions platform ⟨tracked, replied⟩ slot actions
    cases action with
    | sendClient delivery =>
      have landed := reply slot.tuple delivery
      rw [own] at landed
      simp only [Vpn.connActions, List.foldl_cons, Vpn.connAction, if_pos opened]
      exact landed
    | sendOther other delivery =>
      obtain ⟨written, rest⟩ := (Bool.and_eq_true _ _).mp first
      simp only [Vpn.connActions, List.foldl_cons, Vpn.connAction]
      split
      · by_cases same : pctx.data = other.data
        · rw [← same]
          exact reply other.tuple delivery
        · refine later (flying.remote2vpn_other platform ?_ other.tuple delivery) ?_ rest
          · grind
          · exact remote2vpn_loopState platform pd other.tuple other.data (bne_iff_ne.mp written)
      · exact quiet (.refl pd) rest
    | accountPacket status =>
      refine quiet ?_ first
      simp only [Vpn.connAction]
      split
      · exact updateConnStatus_uncounted pd _ status
      · exact .refl pd
    | control control =>
      obtain ⟨goesOn, rest⟩ := (Bool.and_eq_true _ _).mp first
      exact quiet (applyControl_uncounted pd control
        (Control.ne_stop (Bool.not_eq_true' _ |>.mp goesOn))) rest
    | onConnectionClose | failed => cases first

/-! ## The packet loop -/

def ConnAction.stopsLoop : ConnAction → Bool
  | .sendClient delivery | .sendOther _ delivery => delivery.written == .failed
  | .control request => request.stops
  | _ => false

theorem connAction_running (slot : ConnAndTuple)
    (running : pd.running = true) {action : ConnAction} (goesOn : action.stopsLoop = false) :
    (connAction platform slot pd action).running = true := by
  cases action with
  | sendClient delivery | sendOther other delivery =>
    have written : delivery.written ≠ .failed := by simpa [ConnAction.stopsLoop] using goesOn
    simp only [connAction]
    split
    · exact (congrArg Prod.fst (remote2vpn_loopState platform pd _ _ written)).trans running
    · exact running
  | accountPacket status =>
    simp only [connAction]
    split
    · exact running
    · exact running
  | onConnectionClose status =>
    simp only [connAction]
    split
    · exact (connectionClosed_uncounted platform pd _ _ status).running.trans running
    · exact running
  | failed => exact running
  | control control =>
    exact (applyControl_uncounted pd control (Control.ne_stop goesOn)).running.trans running

theorem handleConns_running (running : pd.running = true) (handling : Handling)
    (goesOn : ∀ handled ∈ handling, ∀ action ∈ handled.2, ConnAction.stopsLoop action = false) :
    (handleConns platform pd handling).running = true := by
  have each (slot : ConnAndTuple) (actions : List ConnAction) {pd : Pcapdroid}
      (running : pd.running = true)
      (goesOn : ∀ action ∈ actions, ConnAction.stopsLoop action = false) :
      (connActions platform slot pd actions).running = true := by
    induction actions generalizing pd with
    | nil => exact running
    | cons action actions ih =>
      exact ih (connAction_running platform slot running (goesOn action List.mem_cons_self))
        fun other member => goesOn other (List.mem_cons_of_mem action member)
  induction handling generalizing pd with
  | nil => exact running
  | cons handled handling ih =>
    have later := fun other member => goesOn other (List.mem_cons_of_mem handled member)
    refine ih ?_ later
    unfold handleConn
    grind

end

/-- If `zdtun_forward` fails, a packet of the connection is delivered first while the
loop is running. -/
def failsAfterReply (packet : TunPacket) : Bool :=
  packet.forwarded ||
    (packet.opening.all (fun handled => handled.2.all fun action => !action.stopsLoop) &&
      repliesFirst packet.forwarding)

namespace Tracked

variable {pd : Pcapdroid} (platform : Platform) {after : Pcapdroid}

section

variable (tracked : Tracked none pd)
include tracked

/-- A new connection has no `fw_pctx`. -/
theorem registerConnection (tuple : FiveTuple) (uid : Int) :
    Tracked none (registerConnection platform pd tuple uid) := by
  rw [registerConnection_eq]
  exact ⟨tracked.logged, fun id =>
    Pcapdroid.setConn_cases rfl (fun other _ => tracked.fwPctx other) id⟩

/-- The connection of a packet is open, and the loop is running unless other connections
stopped it. -/
theorem zdtunLookup (running : pd.running = true) (pkt : ZdtunPkt) (packet : TunPacket)
    {found : Option ConnAndTuple} (result : zdtunLookup platform pd pkt packet = (after, found)) :
    Tracked none after ∧ (∀ slot, found = some slot → slot ∈ after.connections) ∧
      ((∀ handled ∈ packet.opening, ∀ action ∈ handled.2, ConnAction.stopsLoop action = false) →
        after.running = true) := by
  simp only [Vpn.zdtunLookup] at result
  split at result
  next slot known =>
    grind
  next =>
    split at result
    next =>
      grind
    next =>
      have handled := (keptByZdtun platform).handleConns tracked packet.opening
      have going := handleConns_running platform running packet.opening
      generalize Vpn.handleConns platform pd packet.opening = start at handled going result
      split at result
      next =>
        have step := pdNewConnection_uncounted platform start pkt.tuple packet.uid
        have created := (handled.registerConnection platform pkt.tuple packet.uid).of_uncounted step
        have same : (Core.registerConnection platform start pkt.tuple packet.uid).running =
            start.running := by
          rw [registerConnection_eq]
          rfl
        obtain ⟨rfl, rfl⟩ := Prod.mk.inj result
        refine ⟨created.of_plain (.of_heap rfl (le_refl _) rfl), ?_,
          fun goesOn => (step.running.trans same).trans (going goesOn)⟩
        rintro other ⟨⟩
        exact List.mem_append_right _ (List.mem_singleton_self _)
      next =>
        obtain ⟨rfl, rfl⟩ := Prod.mk.inj result
        refine ⟨handled, ?_, going⟩
        rintro _ ⟨⟩

/-- An egress packet before it is forwarded: its context is new. -/
theorem judgePacket (mappings : PortMap) (slot : ConnAndTuple) (pkt : ZdtunPkt) (packet : TunPacket)
    (result : judgePacket platform mappings pd slot pkt packet = (after, pctx)) :
    Tracked none after ∧ after.running = pd.running ∧ after.connections = pd.connections ∧
      pctx.isTx = true ∧ pctx.data = slot.data ∧ pctx.address < after.contexts ∧
      ∀ effect ∈ after.effects, egressOf effect ≠ some pctx := by
  obtain ⟨decided, context, judged, step, address, isTx, data⟩ :=
    judgePacket_uncounted platform mappings pd slot pkt packet
  obtain ⟨rfl, rfl⟩ := Prod.mk.inj (judged.symm.trans result)
  have taken : Tracked none pd.takeContext :=
    tracked.of_plain (.of_heap rfl (Nat.le_succ _) rfl)
  refine ⟨(taken.of_uncounted step).of_plain (.emit rfl), step.running, step.connections, isTx,
    data, ?_, ?_⟩
  · refine lt_of_lt_of_eq ?_ step.contexts.symm
    rw [address]
    exact Nat.lt_succ_self _
  · obtain ⟨freed, effects⟩ := step.effects
    intro effect member
    rcases List.mem_append.mp member with earlier | verdict
    · rw [effects] at earlier
      rcases List.mem_append.mp earlier with old | new
      · exact tracked.logged.unmentioned (le_of_eq address.symm) effect old
      · obtain ⟨_, _, rfl⟩ := List.mem_map.mp new
        exact Option.some_ne_none _ |>.symm
    · rw [List.mem_singleton.mp verdict]
      exact Option.some_ne_none _ |>.symm

end

theorem keptByLoop : KeptByLoop (Tracked none) where
  zdtun := keptByZdtun
  noteCall call tracked := tracked.noteCall call
  spoof _ tracked := tracked.of_plain (.emit rfl)
  pdHousekeeping platform exported _ tracked := tracked.of_plain (.pdHousekeeping platform exported _)

/-- The packet takes off. -/
theorem takeOff (tracked : Tracked none pd) (isTx : pctx.isTx = true)
    (taken : pctx.address < pd.contexts) (new : ∀ effect ∈ pd.effects, egressOf effect ≠ some pctx)
    : Tracked (some pctx) ((setFwPctx pd pctx.data (some pctx)).emit (.forward pctx)) := by
  refine ⟨tracked.logged.takeOff isTx new taken, ?_⟩
  intro id
  rw [Pcapdroid.emit_conn, Option.filter_some]
  unfold setFwPctx
  by_cases own : id = pctx.data
  · subst own
    simp
  · rw [Pcapdroid.setConn_conn_other _ _ own, tracked.fwPctx, if_neg]
    · rfl
    · exact fun same => own (of_decide_eq_true same).symm

/-- `zdtun_forward` succeeds. -/
theorem forwarded (aloft : Aloft pctx pd) :
    Tracked none (accountForwarded platform (pd.emit (.forwarded pctx true)) pctx.data) := by
  have shown {flight : Option PktContext} (tracked : Tracked flight pd) :
      Tracked flight (pd.emit (.forwarded pctx true)) :=
    ⟨tracked.logged.returns aloft.forward_mem fun failed => Bool.noConfusion failed,
      tracked.fwPctx⟩
  rcases aloft with flying | landed
  · exact (shown flying).accountForwarded_own platform
  · rw [(shown landed.tracked).accountForwarded_other platform rfl]
    exact shown landed.tracked

theorem forwardPacket (tracked : Tracked none pd) (isTx : pctx.isTx = true)
    (data : pctx.data = slot.data) (taken : pctx.address < pd.contexts)
    (new : ∀ effect ∈ pd.effects, egressOf effect ≠ some pctx) (packet : TunPacket)
    (opened : slot ∈ pd.connections)
    (replied : packet.forwarded = true ∨ pd.running = true ∧ repliesFirst packet.forwarding = true)
    : Tracked none (forwardPacket platform pd slot pctx packet) := by
  have started := tracked.takeOff isTx taken new
  simp only [Vpn.forwardPacket, ← data]
  cases success : packet.forwarded with
  | true =>
    have aloft : Aloft pctx (Vpn.connActions platform slot
        ((setFwPctx pd pctx.data (some pctx)).emit (.forward pctx)) packet.forwarding) :=
      (Aloft.keptByZdtun platform pctx).connActions (.inl started) slot packet.forwarding
    exact forwarded platform aloft
  | false =>
    obtain ⟨running, first⟩ := replied.resolve_left (by grind)
    have landed := repliesFirst_landed platform data packet.forwarding started running opened first
    have returned : Tracked none ((Vpn.connActions platform slot
        ((setFwPctx pd pctx.data (some pctx)).emit (.forward pctx))
        packet.forwarding).emit (.forwarded pctx false)) :=
      ⟨landed.tracked.logged.returns landed.replied.forward_mem
        fun _ => ⟨rfl, landed.replied⟩, landed.tracked.fwPctx⟩
    exact keptByLoop.closeAfterError platform slot packet returned

theorem egressPacket (tracked : Tracked none pd) (mappings : PortMap)
    (opened : slot ∈ pd.connections) (pkt : ZdtunPkt) (packet : TunPacket)
    (replied : packet.forwarded = true ∨ pd.running = true ∧ repliesFirst packet.forwarding = true) :
    Tracked none (egressPacket platform mappings pd slot pkt packet) := by
  simp only [Vpn.egressPacket]
  generalize result : Vpn.judgePacket platform mappings pd slot pkt packet = judged
  obtain ⟨after, pctx⟩ := judged
  obtain ⟨ready, running, connections, isTx, data, taken, new⟩ :=
    tracked.judgePacket platform mappings slot pkt packet result
  dsimp only
  split
  next spoof =>
    -- only a blocked packet is answered, and then it is not forwarded
    have blocked : (after.conn slot.data).toBlock = true := by
      grind
    have raised := (Raised.spoofAndClose platform after slot pctx packet).toBlock slot.data
    rw [blocked, Bool.le_iff_imp] at raised
    rw [if_pos (raised rfl)]
    exact (keptByLoop.spoofAndClose platform slot packet ready pctx).of_plain
      (.blockPacket platform _ _)
  next =>
    split
    next => exact ready.of_plain (.blockPacket platform _ _)
    next =>
      refine ready.forwardPacket platform isTx data taken new packet (connections ▸ opened) ?_
      grind

end Tracked

/-- The packets whose forwarding fails are answered before. -/
def FailsAfterReply (_ : VpnLoop) (event : Platform × VpnEvent) : Prop :=
  match event.2 with
  | .iteration ⟨.tun packet, _, _⟩ => failsAfterReply packet = true
  | _ => True

theorem Tracked.vpnStep (loop : VpnLoop) (event : Platform × VpnEvent)
    (tracked : Tracked none loop.pd) (replied : FailsAfterReply loop event) :
    Tracked none (vpnStep loop event).pd := by
  refine keptByLoop.vpnStep tracked fun packet exported purge pkt input running refreshed => ?_
  unfold FailsAfterReply at replied
  rw [input] at replied
  obtain ⟨looked, opened, going⟩ := refreshed.zdtunLookup event.1 running pkt packet rfl
  refine keptByLoop.routePacket event.1 packet refreshed looked fun slot found => ?_
  refine looked.egressPacket event.1 loop.mappings (opened slot found) pkt packet ?_
  rcases (Bool.or_eq_true _ _).mp replied with success | failure
  · exact .inl success
  · grind

/-! ## A capture -/

structure EgressAccounted (pd : Pcapdroid) : Prop where
  /-- A packet that was forwarded is accounted once. -/
  once : ∀ pctx, .forwarded pctx true ∈ pd.effects → pd.effects.count (.account pctx) = 1
  /-- Before an ingress packet is accounted, every packet of its connection that was passed
  to `zdtun_forward` is accounted. -/
  ordered : ∀ early reply late, pd.effects = early ++ .account reply :: late →
    reply.isTx = false → ∀ pctx, .forward pctx ∈ early → pctx.data = reply.data →
      .account pctx ∈ early
  /-- A packet whose forwarding failed is accounted only if an ingress packet was handled
  before the failure. -/
  failed : ∀ early pctx late, pd.effects = early ++ .forwarded pctx false :: late →
    .account pctx ∈ pd.effects → Replied pctx early
  /-- No `fw_pctx` is set when the loop calls into zdtun. -/
  calls : ∀ call inFlight, .zdtunCall call inFlight ∈ pd.effects → inFlight = false
  settled : ∀ id, (pd.conn id).fwPctx = none

theorem Tracked.egressAccounted {pd : Pcapdroid} (tracked : Tracked none pd) :
    EgressAccounted pd := by
  obtain ⟨logged, fwPctx⟩ := tracked
  refine ⟨?_, ?_, ?_, ?_, fwPctx⟩
  · intro pctx returned
    have accounted := logged.accounted pctx (logged.returned pctx true returned)
      (Option.some_ne_none pctx).symm
    exact logged.obeys.count_eq_one (fun past allowed => allowed.1) accounted
  · intro early reply late split isRx pctx forwarded sameConn
    exact (logged.obeys early (.account reply) late split).2.2 isRx pctx forwarded sameConn
  · intro early pctx late split accounted
    refine logged.obeys early (.forwarded pctx false) late split ?_
    rw [split] at accounted
    rcases List.mem_append.mp accounted with before | after
    · exact before
    · -- accounting the packet later is against the rule
      obtain ⟨between, rest, later⟩ :=
        List.append_of_mem ((List.mem_cons.mp after).resolve_left Effect.noConfusion)
      have allowed := logged.obeys (early ++ .forwarded pctx false :: between) (.account pctx) rest
        (by rw [split, later]; simp)
      exact absurd (List.mem_append_right _ List.mem_cons_self) allowed.2.1
  · intro call inFlight member
    obtain ⟨past, future, _, allowed⟩ := logged.obeys.of_mem member
    exact allowed

/-- In a capture in which every failing `zdtun_forward` delivers a packet first, egress
packets are accounted once and in order, and no `fw_pctx` outlives its packet. -/
theorem egress_accounted_once_in_order (loop : VpnLoop) (started : Started loop.pd)
    (events : List (Platform × VpnEvent))
    (replied : Guarded vpnStep FailsAfterReply loop events) :
    EgressAccounted (run vpnStep loop events).pd := by
  have initial : Tracked none loop.pd := by
    refine ⟨?_, started.fwPctx⟩
    rw [started.effects]
    exact .nil _
  have tracked : Tracked none (run vpnStep loop events).pd :=
    @Guarded.invariant VpnLoop _ vpnStep FailsAfterReply (fun loop => Tracked none loop.pd)
      Tracked.vpnStep loop events replied initial
  exact tracked.egressAccounted

/-- A reset that zdtun sends to the app. -/
def resetDelivery : Delivery where
  pkt := ⟨⟨0x08080808, 0x0100000a, 0xbb01, 1, 4, ipprotoTcp⟩, false, false, false, true, [0x45], []⟩
  now := 2
  ms := 2
  written := .complete

/-- Forwarding a packet fails; `forwarding` is what zdtun does before, and the app is sent a
reset when the connection is closed. -/
def failingPacket (forwarding : List ConnAction) : List (Platform × VpnEvent) :=
  [(.inert, .iteration ⟨.tun { synPacket 10002 1 with
    forwarding := forwarding, forwarded := false, closing := [.sendClient resetDelivery] },
    false, []⟩)]

theorem egress_accounted_once_in_order_after_reply :
    Guarded vpnStep FailsAfterReply blockingLoop (failingPacket [.sendClient resetDelivery]) ∧
      EgressAccounted (run vpnStep blockingLoop (failingPacket [.sendClient resetDelivery])).pd := by
  have replied : Guarded vpnStep FailsAfterReply blockingLoop
      (failingPacket [.sendClient resetDelivery]) := ⟨rfl, trivial⟩
  refine ⟨replied, egress_accounted_once_in_order blockingLoop ?_ _ replied⟩
  exact ⟨rfl, rfl, fun _ => rfl, fun _ => rfl, fun _ => rfl, rfl, rfl⟩

/-- A packet whose forwarding fails at once is still in `fw_pctx` when its connection is
closed. -/
theorem failed_packet_accounted :
    ¬ EgressAccounted (run vpnStep blockingLoop (failingPacket [])).pd := by
  intro law
  have called : .zdtunCall .connClose true ∈
      (run vpnStep blockingLoop (failingPacket [])).pd.effects := by decide
  exact absurd (law.calls _ _ called) Bool.noConfusion

end PcapdroidFormal.Vpn
