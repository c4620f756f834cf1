import PcapdroidFormal.Foundation.Observed
import PcapdroidFormal.Vpn.Uncounted

/-!
# The trace of the capture thread as a ledger

The trace shows the verdict on every packet and what became of it, every packet
that was counted and every verdict on a connection.  The counters of the
connections and of the capture are read off the trace.
-/

namespace PcapdroidFormal.Vpn

open PcapdroidFormal.Core Firewall Foundation

variable {effect : Effect} {data : Conn} {effects : List Effect} {pctx : PktContext} {id : ConnId}

/-! ## The fate of a packet -/

/-- What has become of a packet.  A condemned packet has been found blocked, but not
been counted as such yet; after a violation nothing can be said. -/
inductive Fate where
  | unseen
  | condemned
  | dropped
  | admitted
  | violated
  deriving DecidableEq, Repr

/-- The effects by which a packet gets through: it is forwarded, written to the TUN
device, accounted or dumped. -/
def letsThrough (pctx : PktContext) : Effect → Bool
  | .forward other | .write other | .account other | .dump other => other = pctx
  | _ => false

def Fate.next (pctx : PktContext) (fate : Fate) : Effect → Fate
  | .verdict other blocked =>
    if other = pctx then
      match fate with
      | .unseen => if blocked then .condemned else .admitted
      | _ => .violated
    else fate
  | .blocked other =>
    if other = pctx then
      match fate with
      | .condemned => .dropped
      | _ => .violated
    else fate
  | effect =>
    if letsThrough pctx effect then
      match fate with
      | .admitted => .admitted
      | _ => .violated
    else fate

def fate (pctx : PktContext) (effects : List Effect) : Fate := run (Fate.next pctx) .unseen effects

@[simp] theorem fate_snoc (pctx : PktContext) (effects : List Effect) (effect : Effect) :
    fate pctx (effects ++ [effect]) = Fate.next pctx (fate pctx effects) effect := by
  rw [fate, run_append]
  rfl

/-- The packet that an effect decides on or lets through. -/
def subject : Effect → Option PktContext
  | .verdict pctx _ | .blocked pctx => some pctx
  | .forward pctx | .write pctx | .account pctx | .dump pctx => some pctx
  | _ => none

theorem Fate.next_other (fate : Fate) (other : subject effect ≠ some pctx) :
    fate.next pctx effect = fate := by
  cases effect with
  | verdict about blocked => exact if_neg fun same => other (congrArg some same)
  | blocked about => exact if_neg fun same => other (congrArg some same)
  | forward about | write about | account about | dump about =>
    exact if_neg fun same => other (congrArg some (of_decide_eq_true same))
  | _ => rfl

theorem Fate.next_letsThrough (through : letsThrough pctx effect = true) :
    Fate.admitted.next pctx effect = .admitted := by
  cases effect with
  | forward | write | account | dump => simp [Fate.next, through]
  | _ => cases through

theorem subject_of_letsThrough (through : letsThrough pctx effect = true) :
    subject effect = some pctx := by
  cases effect with
  | forward | write | account | dump =>
    simp only [letsThrough, decide_eq_true_eq] at through
    exact congrArg some through
  | _ => cases through

/-- What the trace says of a packet with a given fate. -/
def Fate.Recorded (pctx : PktContext) (effects : List Effect) : Fate → Prop
  | .unseen => ∀ effect ∈ effects, subject effect ≠ some pctx
  | .condemned =>
    .verdict pctx true ∈ effects ∧ .verdict pctx false ∉ effects ∧ .blocked pctx ∉ effects ∧
      ∀ effect ∈ effects, letsThrough pctx effect = false
  | .dropped =>
    .verdict pctx true ∈ effects ∧ .verdict pctx false ∉ effects ∧
      effects.count (.blocked pctx) = 1 ∧ ∀ effect ∈ effects, letsThrough pctx effect = false
  | .admitted =>
    .verdict pctx false ∈ effects ∧ .verdict pctx true ∉ effects ∧ .blocked pctx ∉ effects
  | .violated => True

/-- An effect about another packet changes no record. -/
theorem Fate.Recorded.other {fate : Fate} (recorded : fate.Recorded pctx effects)
    (different : subject effect ≠ some pctx) : fate.Recorded pctx (effects ++ [effect]) := by
  have notVerdict (blocked : Bool) : effect ≠ .verdict pctx blocked := by
    rintro rfl
    exact different rfl
  have notBlocked : effect ≠ .blocked pctx := by
    rintro rfl
    exact different rfl
  have notThrough : letsThrough pctx effect = false :=
    Bool.eq_false_iff.mpr fun through => different (subject_of_letsThrough through)
  cases fate with
  | unseen =>
    intro seen member
    rcases List.mem_append.mp member with old | new
    · exact recorded seen old
    · grind
  | condemned =>
    obtain ⟨judged, once, counted, kept⟩ := recorded
    refine ⟨List.mem_append_left _ judged, ?_, ?_, ?_⟩
    · simpa [Ne.symm (notVerdict false)] using once
    · simpa [Ne.symm notBlocked] using counted
    · simpa [or_imp, forall_and, notThrough] using kept
  | dropped =>
    obtain ⟨judged, once, counted, kept⟩ := recorded
    refine ⟨List.mem_append_left _ judged, ?_, ?_, ?_⟩
    · simpa [Ne.symm (notVerdict false)] using once
    · grind
    · simpa [or_imp, forall_and, notThrough] using kept
  | admitted =>
    obtain ⟨judged, once, counted⟩ := recorded
    refine ⟨List.mem_append_left _ judged, ?_, ?_⟩
    · simpa [Ne.symm (notVerdict true)] using once
    · simpa [Ne.symm notBlocked] using counted
  | violated => trivial

/-- The verdict on a packet of which nothing was seen. -/
theorem Fate.Recorded.judge (unseen : Fate.unseen.Recorded pctx effects) (blocked : Bool) :
    (if blocked then Fate.condemned else .admitted).Recorded pctx
      (effects ++ [.verdict pctx blocked]) := by
  have judged : .verdict pctx blocked ∈ effects ++ [.verdict pctx blocked] :=
    List.mem_append_right _ (List.mem_singleton_self _)
  have noVerdict (other : Bool) : .verdict pctx other ∉ effects := fun member =>
    unseen _ member rfl
  have noBlock : .blocked pctx ∉ effects := fun member => unseen _ member rfl
  have kept (effect : Effect) (member : effect ∈ effects) : letsThrough pctx effect = false :=
    Bool.eq_false_iff.mpr fun through => unseen effect member (subject_of_letsThrough through)
  cases blocked with
  | true =>
    refine ⟨judged, ?_, ?_, ?_⟩
    · simpa using noVerdict false
    · simpa using noBlock
    · simpa [or_imp, forall_and, letsThrough] using kept
  | false =>
    refine ⟨judged, ?_, ?_⟩
    · simpa using noVerdict true
    · simpa using noBlock

/-- A condemned packet is counted as blocked. -/
theorem Fate.Recorded.drop (condemned : Fate.condemned.Recorded pctx effects) :
    Fate.dropped.Recorded pctx (effects ++ [.blocked pctx]) := by
  obtain ⟨judged, once, counted, kept⟩ := condemned
  refine ⟨List.mem_append_left _ judged, ?_, ?_, ?_⟩
  · simpa using once
  · grind
  · simpa [or_imp, forall_and, letsThrough] using kept

/-- An admitted packet gets through. -/
theorem Fate.Recorded.pass (admitted : Fate.admitted.Recorded pctx effects)
    (through : letsThrough pctx effect = true) :
    Fate.admitted.Recorded pctx (effects ++ [effect]) := by
  obtain ⟨judged, once, counted⟩ := admitted
  refine ⟨List.mem_append_left _ judged, ?_, ?_⟩
  · intro member
    rcases List.mem_append.mp member with old | new
    · exact once old
    · rw [← List.mem_singleton.mp new] at through
      cases through
  · intro member
    rcases List.mem_append.mp member with old | new
    · exact counted old
    · rw [← List.mem_singleton.mp new] at through
      cases through

theorem Fate.Recorded.next_through {now : Fate} (recorded : now.Recorded pctx effects)
    (through : letsThrough pctx effect = true) :
    (now.next pctx effect).Recorded pctx (effects ++ [effect]) := by
  cases effect with
  | forward | write | account | dump =>
    simp only [Fate.next, through, if_true]
    cases now with
    | admitted => exact recorded.pass through
    | _ => trivial
  | _ => cases through

theorem fate_recorded (pctx : PktContext) (effects : List Effect) :
    (fate pctx effects).Recorded pctx effects := by
  induction effects using List.reverseRecOn with
  | nil => exact List.forall_mem_nil _
  | append_singleton effects effect ih =>
    rw [fate_snoc]
    generalize fate pctx effects = now at ih
    by_cases about : subject effect = some pctx
    · cases effect with
      | verdict other blocked =>
        obtain rfl := Option.some.inj about
        simp only [Fate.next, if_true]
        cases now with
        | unseen => exact ih.judge blocked
        | _ => trivial
      | blocked other =>
        obtain rfl := Option.some.inj about
        simp only [Fate.next, if_true]
        cases now with
        | condemned => exact ih.drop
        | _ => trivial
      | forward other | write other | account other | dump other =>
        exact ih.next_through (decide_eq_true (Option.some.inj about))
      | _ => cases about
    · rw [Fate.next_other now about]
      exact ih.other about

/-! ## Counted packets -/

/-- Count a packet in its direction. -/
def Traffic.add (traffic : Traffic) (pctx : PktContext) : Traffic :=
  if pctx.isTx then
    { traffic with
      sentPkts := traffic.sentPkts + 1
      sentBytes := traffic.sentBytes + pctx.pkt.buf.length }
  else
    { traffic with
      rcvdPkts := traffic.rcvdPkts + 1
      rcvdBytes := traffic.rcvdBytes + pctx.pkt.buf.length }

def trafficOf (packets : List PktContext) : Traffic := packets.foldl Traffic.add ⟨0, 0, 0, 0⟩

@[simp] theorem trafficOf_snoc (packets : List PktContext) (pctx : PktContext) :
    trafficOf (packets ++ [pctx]) = (trafficOf packets).add pctx := by
  simp [trafficOf]

def accountedBy : Effect → Option PktContext
  | .account pctx => some pctx
  | _ => none

/-- The packets passed to `pd_account_stats`. -/
def accounted (effects : List Effect) : List PktContext := effects.filterMap accountedBy

/-- Those of them that belong to a connection. -/
def accountedOf (id : ConnId) (effects : List Effect) : List PktContext :=
  (accounted effects).filter fun pctx => pctx.data = id

/-- Those of them that are IPv6 packets. -/
def accountedIpv6 (effects : List Effect) : List PktContext :=
  (accounted effects).filter fun pctx => pctx.pkt.tuple.ipver == 6

def blocksPacketOf (id : ConnId) : Effect → Bool
  | .blocked pctx => pctx.data = id
  | _ => false

/-- The packets of a connection that were blocked. -/
def blockedOf (id : ConnId) (effects : List Effect) : Nat := effects.countP (blocksPacketOf id)

/-- The verdict on a connection that an effect shows. -/
def shownVerdict (id : ConnId) : Effect → Option (Observation Bool)
  | .verdict pctx blocked => if pctx.data = id then some ⟨blocked, blocked⟩ else none
  | .recheck data found left => if data = id then some ⟨found, left⟩ else none
  | _ => none

/-- The verdicts on a connection, in the order in which the trace shows them. -/
def verdicts (id : ConnId) (effects : List Effect) : List (Observation Bool) :=
  effects.filterMap (shownVerdict id)

/-- The connection whose packets or verdict an effect is about. -/
def concerned : Effect → Option ConnId
  | .verdict pctx _ | .blocked pctx | .account pctx => some pctx.data
  | .recheck data _ _ => some data
  | _ => none

section Unconcerned

variable {id : ConnId} {effects : List Effect}
  (absent : ∀ effect ∈ effects, concerned effect ≠ some id)

include absent

theorem accountedOf_unconcerned : accountedOf id effects = [] := by
  refine List.filter_eq_nil_iff.mpr ?_
  intro pctx member
  obtain ⟨effect, seen, counted⟩ := List.mem_filterMap.mp member
  cases effect with
  | account other =>
    obtain rfl := Option.some.inj counted
    simpa [concerned] using absent _ seen
  | _ => cases counted

theorem blockedOf_unconcerned : blockedOf id effects = 0 := by
  refine List.countP_eq_zero.mpr ?_
  intro effect seen
  cases effect with
  | blocked other => simpa [concerned, blocksPacketOf] using absent _ seen
  | _ => exact Bool.false_ne_true

theorem verdicts_unconcerned : verdicts id effects = [] := by
  refine List.filterMap_eq_nil_iff.mpr ?_
  intro effect seen
  cases effect with
  | verdict pctx blocked => exact if_neg fun same => absent _ seen (congrArg some same)
  | recheck data found left => exact if_neg fun same => absent _ seen (congrArg some same)
  | _ => rfl

end Unconcerned

/-! ## Freed connections leave no mark -/

section Freed

variable (effects : List Effect) (freed : List ConnId)

theorem fate_freed (pctx : PktContext) :
    fate pctx (effects ++ freed.map Effect.free) = fate pctx effects := by
  induction freed using List.reverseRecOn with
  | nil => simp
  | append_singleton freed id ih =>
    rw [List.map_append, ← List.append_assoc, List.map_singleton, fate_snoc, ih]
    rfl

theorem accounted_freed : accounted (effects ++ freed.map Effect.free) = accounted effects := by
  induction freed using List.reverseRecOn with
  | nil => simp
  | append_singleton freed id ih =>
    rw [List.map_append, ← List.append_assoc, accounted, List.filterMap_append]
    exact (List.append_nil _).trans ih

theorem blockedOf_freed (id : ConnId) :
    blockedOf id (effects ++ freed.map Effect.free) = blockedOf id effects := by
  have none : (freed.map Effect.free).countP (blocksPacketOf id) = 0 := by
    refine List.countP_eq_zero.mpr ?_
    rintro effect member
    obtain ⟨other, _, rfl⟩ := List.mem_map.mp member
    exact Bool.false_ne_true
  rw [blockedOf, List.countP_append, none, Nat.add_zero]
  rfl

theorem verdicts_freed (id : ConnId) :
    verdicts id (effects ++ freed.map Effect.free) = verdicts id effects := by
  induction freed using List.reverseRecOn with
  | nil => simp
  | append_singleton freed other ih =>
    rw [List.map_append, ← List.append_assoc, verdicts, List.filterMap_append]
    exact (List.append_nil _).trans ih

end Freed

/-! ## Fates -/

/-- The condemned packets are those that are due to be counted as blocked, no packet got
through or was counted against its verdict, and a `fw_pctx` is one of an admitted packet. -/
structure Fates (due : List PktContext) (pd : Pcapdroid) : Prop where
  condemned : ∀ pctx, fate pctx pd.effects = .condemned ↔ pctx ∈ due
  lawful : ∀ pctx, fate pctx pd.effects ≠ .violated
  fresh : ∀ pctx, pd.contexts ≤ pctx.address → fate pctx pd.effects = .unseen
  inFlight : ∀ id pctx, (pd.conn id).fwPctx = some pctx →
    fate pctx pd.effects = .admitted ∧ pctx.data = id

namespace Fates

variable {due : List PktContext} {pd before after : Pcapdroid} {pctx : PktContext}

theorem of_eq (fates : Fates due before)
    (same : ∀ pctx, fate pctx after.effects = fate pctx before.effects)
    (contexts : before.contexts ≤ after.contexts)
    (fwPctx : ∀ id pctx, (after.conn id).fwPctx = some pctx →
      (before.conn id).fwPctx = some pctx) : Fates due after := by
  constructor
  · intro pctx
    rw [same]
    exact fates.condemned pctx
  · intro pctx
    rw [same]
    exact fates.lawful pctx
  · intro pctx later
    rw [same]
    exact fates.fresh pctx (contexts.trans later)
  · intro id pctx flying
    rw [same]
    exact fates.inFlight id pctx (fwPctx id pctx flying)

section

variable (fates : Fates due pd)
include fates

/-- An effect that leaves every fate as it is. -/
theorem emit (same : ∀ pctx, (fate pctx pd.effects).next pctx effect = fate pctx pd.effects) :
    Fates due (pd.emit effect) := by
  refine fates.of_eq ?_ (le_refl _) fun _ _ flying => flying
  intro pctx
  exact (fate_snoc pctx pd.effects effect).trans (same pctx)

theorem emit_silent (silent : subject effect = none) : Fates due (pd.emit effect) := by
  refine fates.emit fun pctx => Fate.next_other _ ?_
  grind

/-- An admitted packet gets through. -/
theorem pass (admitted : fate pctx pd.effects = .admitted)
    (through : letsThrough pctx effect = true) : Fates due (pd.emit effect) := by
  refine fates.emit ?_
  intro other
  by_cases same : other = pctx
  · subst same
    rw [admitted]
    exact Fate.next_letsThrough through
  · refine Fate.next_other _ ?_
    rw [subject_of_letsThrough through]
    grind

theorem setConn
    (flying : ∀ pctx, data.fwPctx = some pctx → fate pctx pd.effects = .admitted ∧ pctx.data = id) :
    Fates due (pd.setConn id data) := by
  refine ⟨fates.condemned, fates.lawful, fates.fresh, ?_⟩
  exact fun other => Pcapdroid.setConn_cases flying (fun other _ => fates.inFlight other) other

/-- The verdict on a new packet. -/
theorem judge (unseen : fate pctx pd.effects = .unseen) (taken : pctx.address < pd.contexts)
    (blocked : Bool) :
    Fates (if blocked then pctx :: due else due) (pd.emit (.verdict pctx blocked)) := by
  have own : fate pctx (pd.emit (.verdict pctx blocked)).effects =
      if blocked then .condemned else .admitted := by
    refine (fate_snoc pctx pd.effects _).trans ?_
    rw [unseen]
    exact if_pos rfl
  have others (other : PktContext) (different : other ≠ pctx) :
      fate other (pd.emit (.verdict pctx blocked)).effects = fate other pd.effects := by
    refine (fate_snoc other pd.effects _).trans (Fate.next_other _ ?_)
    exact fun equal => different (Option.some.inj equal).symm
  have notDue : pctx ∉ due := by
    intro member
    rw [(fates.condemned pctx).mpr member] at unseen
    cases unseen
  constructor
  · intro other
    by_cases same : other = pctx
    · grind
    · rw [others other same, fates.condemned]
      cases blocked with
      | true => simp [same]
      | false => rfl
  · intro other
    by_cases same : other = pctx
    · grind
    · rw [others other same]
      exact fates.lawful other
  · intro other later
    have different : other ≠ pctx := by
      rintro rfl
      exact absurd taken (Nat.not_lt.mpr later)
    rw [others other different]
    exact fates.fresh other later
  · intro id other flying
    obtain ⟨admitted, data⟩ := fates.inFlight id other flying
    grind

end

/-- A condemned packet is counted as blocked. -/
theorem drop (fates : Fates (pctx :: due) pd) (once : pctx ∉ due) :
    Fates due (pd.emit (.blocked pctx)) := by
  have condemned := (fates.condemned pctx).mpr List.mem_cons_self
  have own : fate pctx (pd.emit (.blocked pctx)).effects = .dropped := by
    refine (fate_snoc pctx pd.effects _).trans ?_
    rw [condemned]
    exact if_pos rfl
  have others (other : PktContext) (different : other ≠ pctx) :
      fate other (pd.emit (.blocked pctx)).effects = fate other pd.effects := by
    refine (fate_snoc other pd.effects _).trans (Fate.next_other _ ?_)
    exact fun equal => different (Option.some.inj equal).symm
  constructor
  · intro other
    by_cases same : other = pctx
    · grind
    · rw [others other same, fates.condemned, List.mem_cons]
      simp [same]
  · intro other
    by_cases same : other = pctx
    · grind
    · rw [others other same]
      exact fates.lawful other
  · intro other later
    have unseen := fates.fresh other later
    grind
  · intro id other flying
    obtain ⟨admitted, data⟩ := fates.inFlight id other flying
    grind

end Fates

/-! ## Counters -/

/-- The counters are those of the trace, and the trace is about existing connections. -/
structure Counted (pd : Pcapdroid) : Prop where
  known : ∀ slot ∈ pd.connections, slot.data < pd.newConnId
  born : ∀ effect ∈ pd.effects, ∀ id, concerned effect = some id → id < pd.newConnId
  blockedPkts : ∀ id, (pd.conn id).blockedPkts = blockedOf id pd.effects
  traffic : ∀ id, connTraffic (pd.conn id) = trafficOf (accountedOf id pd.effects)
  capture : captureTraffic pd.captureStats = trafficOf (accounted pd.effects)
  ipv6 : ipv6Bytes pd.captureStats = ((trafficOf (accountedIpv6 pd.effects)).sentBytes,
    (trafficOf (accountedIpv6 pd.effects)).rcvdBytes)

/-- The state in which `pd_account_stats` has counted a packet. -/
def countedPacket (pd : Pcapdroid) (pctx : PktContext) : Pcapdroid :=
  ((pd.emit (.account pctx)).setCaptureStats
    (pd.captureStats.countPacket pctx.pkt pctx.isTx)).setConn pctx.data
      ((pd.conn pctx.data).countPacket pctx.pkt pctx.isTx).markStats

/-- The same, queued for notification. -/
def notifiedPacket (platform : Platform) (pd : Pcapdroid) (pctx : PktContext) : Pcapdroid :=
  pdNotifyConnectionUpdate platform (countedPacket pd pctx) pctx.tuple pctx.data

/-- `pd_account_stats` counts a packet, and then may dump it. -/
theorem pdAccountStats_eq (platform : Platform) (pd : Pcapdroid) (pctx : PktContext) :
    pdAccountStats platform pd pctx =
      if toDump (notifiedPacket platform pd pctx)
          ((notifiedPacket platform pd pctx).conn pctx.data) then
        pdDumpPacket platform (notifiedPacket platform pd pctx) pctx
      else notifiedPacket platform pd pctx := rfl

namespace Counted

variable {pd before after : Pcapdroid} {pctx : PktContext}

/-- A step that accounts no packet. -/
theorem of_accounted (counted : Counted before) (newConnId : after.newConnId = before.newConnId)
    (connections : ∀ slot ∈ after.connections, slot ∈ before.connections)
    (born : ∀ effect ∈ after.effects, effect ∈ before.effects ∨
      ∀ id, concerned effect = some id → id < before.newConnId)
    (packets : accounted after.effects = accounted before.effects)
    (capture : captureTraffic after.captureStats = captureTraffic before.captureStats)
    (ipv6 : ipv6Bytes after.captureStats = ipv6Bytes before.captureStats)
    (traffic : ∀ id, connTraffic (after.conn id) = connTraffic (before.conn id))
    (blockedPkts : ∀ id, (after.conn id).blockedPkts = blockedOf id after.effects) :
    Counted after := by
  constructor
  · intro slot member
    rw [newConnId]
    exact counted.known slot (connections slot member)
  · intro effect seen id concern
    rw [newConnId]
    rcases born effect seen with old | new
    · exact counted.born effect old id concern
    · exact new id concern
  · exact blockedPkts
  · intro id
    rw [traffic, accountedOf, packets]
    exact counted.traffic id
  · rw [capture, packets]
    exact counted.capture
  · rw [ipv6, accountedIpv6, packets]
    exact counted.ipv6

/-- A step that shows nothing and counts nothing. -/
theorem of_same (counted : Counted before) (newConnId : after.newConnId = before.newConnId)
    (connections : ∀ slot ∈ after.connections, slot ∈ before.connections)
    (effects : ∃ freed : List ConnId, after.effects = before.effects ++ freed.map Effect.free)
    (capture : captureTraffic after.captureStats = captureTraffic before.captureStats)
    (ipv6 : ipv6Bytes after.captureStats = ipv6Bytes before.captureStats)
    (traffic : ∀ id, connTraffic (after.conn id) = connTraffic (before.conn id))
    (blockedPkts : ∀ id, (after.conn id).blockedPkts = (before.conn id).blockedPkts) :
    Counted after := by
  obtain ⟨freed, effects⟩ := effects
  refine counted.of_accounted newConnId connections ?_ ?_ capture ipv6 traffic ?_
  · intro effect seen
    rw [effects, List.mem_append] at seen
    rcases seen with old | new
    · exact .inl old
    · right
      obtain ⟨other, _, rfl⟩ := List.mem_map.mp new
      rintro id ⟨⟩
  · rw [effects, accounted_freed]
  · intro id
    rw [blockedPkts, effects, blockedOf_freed]
    exact counted.blockedPkts id

theorem setConn (counted : Counted pd) (traffic : connTraffic data = connTraffic (pd.conn id))
    (blockedPkts : data.blockedPkts = (pd.conn id).blockedPkts) : Counted (pd.setConn id data) := by
  have same (other : ConnId) :
      connTraffic ((pd.setConn id data).conn other) = connTraffic (pd.conn other) ∧
        ((pd.setConn id data).conn other).blockedPkts = (pd.conn other).blockedPkts :=
    Pcapdroid.setConn_cases ⟨traffic, blockedPkts⟩ (fun _ _ => ⟨rfl, rfl⟩) other
  exact counted.of_same rfl (fun _ member => member) ⟨[], (List.append_nil _).symm⟩ rfl rfl
    (fun other => (same other).1) fun other => (same other).2

theorem born_snoc (concern : ∀ id, concerned effect = some id → id < pd.newConnId) :
    ∀ other ∈ (pd.emit effect).effects, other ∈ pd.effects ∨
      ∀ id, concerned other = some id → id < pd.newConnId := by
  intro other seen
  rcases List.mem_append.mp seen with old | new
  · exact .inl old
  · grind

theorem accounted_snoc (uncounted : accountedBy effect = none) :
    accounted (effects ++ [effect]) = accounted effects := by
  refine List.filterMap_append.trans ?_
  rw [List.filterMap_cons_none uncounted]
  exact List.append_nil _

/-- An effect that counts nothing. -/
theorem emit (counted : Counted pd) (concern : ∀ id, concerned effect = some id → id < pd.newConnId)
    (uncounted : accountedBy effect = none)
    (unblocked : ∀ id, blocksPacketOf id effect = false) : Counted (pd.emit effect) := by
  refine counted.of_accounted rfl (fun _ member => member) (born_snoc concern)
    (accounted_snoc uncounted) rfl rfl (fun _ => rfl) ?_
  intro id
  refine (counted.blockedPkts id).trans (Eq.symm (List.countP_append.trans ?_))
  rw [List.countP_singleton, unblocked]
  exact Nat.add_zero _

/-- A packet is counted as blocked. -/
theorem block (counted : Counted pd) (known : pctx.data < pd.newConnId) :
    Counted ((pd.emit (.blocked pctx)).setConn pctx.data
      (pd.conn pctx.data).countBlocked.markStats) := by
  have concern (id : ConnId) (about : concerned (.blocked pctx) = some id) :
      id < pd.newConnId := by
    obtain rfl := Option.some.inj about
    exact known
  refine counted.of_accounted rfl (fun _ member => member) (born_snoc concern)
    (accounted_snoc rfl) rfl rfl ?_ ?_
  · exact fun id => Pcapdroid.setConn_cases rfl (fun _ _ => rfl) id
  · intro id
    have more : blockedOf id (pd.emit (.blocked pctx)).effects =
        blockedOf id pd.effects + if pctx.data = id then 1 else 0 := by
      refine List.countP_append.trans ?_
      rw [List.countP_singleton]
      by_cases own : pctx.data = id <;> simp [blocksPacketOf, own, blockedOf]
    refine Eq.trans ?_ more.symm
    rw [← counted.blockedPkts]
    by_cases own : pctx.data = id
    · subst own
      rw [Pcapdroid.setConn_conn_self, if_pos rfl]
      rfl
    · rw [Pcapdroid.setConn_conn_other _ _ (Ne.symm own), if_neg own]
      rfl

theorem accounted_countedPacket (pd : Pcapdroid) (pctx : PktContext) :
    accounted (countedPacket pd pctx).effects = accounted pd.effects ++ [pctx] :=
  List.filterMap_append

theorem connTraffic_countPacket (data : Conn) (pctx : PktContext) :
    connTraffic (data.countPacket pctx.pkt pctx.isTx).markStats = (connTraffic data).add pctx := by
  unfold Conn.countPacket Traffic.add
  cases pctx.isTx <;> rfl

theorem captureTraffic_countPacket (stats : CaptureStats) (pctx : PktContext) :
    captureTraffic (stats.countPacket pctx.pkt pctx.isTx) = (captureTraffic stats).add pctx := by
  unfold CaptureStats.countPacket Traffic.add
  cases pctx.isTx <;> rfl

theorem ipv6Bytes_countPacket {stats : CaptureStats} {traffic : Traffic} (pctx : PktContext)
    (same : ipv6Bytes stats = (traffic.sentBytes, traffic.rcvdBytes)) :
    ipv6Bytes (stats.countPacket pctx.pkt pctx.isTx) =
      if pctx.pkt.tuple.ipver == 6 then ((traffic.add pctx).sentBytes, (traffic.add pctx).rcvdBytes)
      else (traffic.sentBytes, traffic.rcvdBytes) := by
  obtain ⟨sent, rcvd⟩ := Prod.mk.inj same
  unfold CaptureStats.countPacket Traffic.add ipv6Bytes
  grind

/-- A packet is accounted. -/
theorem account (counted : Counted pd) (known : pctx.data < pd.newConnId) :
    Counted (countedPacket pd pctx) := by
  have packets := accounted_countedPacket pd pctx
  have concern (id : ConnId) (about : concerned (.account pctx) = some id) :
      id < pd.newConnId := by
    obtain rfl := Option.some.inj about
    exact known
  constructor
  · exact counted.known
  · intro effect seen id about
    rcases born_snoc concern effect seen with old | new
    · exact counted.born effect old id about
    · exact new id about
  · intro id
    have same : blockedOf id (countedPacket pd pctx).effects = blockedOf id pd.effects :=
      List.countP_append.trans (Nat.add_zero _)
    rw [same, ← counted.blockedPkts]
    by_cases own : id = pctx.data
    · subst own
      unfold countedPacket
      rw [Pcapdroid.setConn_conn_self]
      unfold Conn.countPacket
      split <;> rfl
    · unfold countedPacket
      rw [Pcapdroid.setConn_conn_other _ _ own]
      rfl
  · intro id
    rw [accountedOf, packets, List.filter_append]
    by_cases own : pctx.data = id
    · subst own
      rw [List.filter_singleton, decide_eq_true rfl, cond_true, trafficOf_snoc]
      unfold countedPacket
      rw [Pcapdroid.setConn_conn_self, connTraffic_countPacket, counted.traffic]
      rfl
    · rw [List.filter_singleton, decide_eq_false own, cond_false, List.append_nil]
      unfold countedPacket
      rw [Pcapdroid.setConn_conn_other _ _ (Ne.symm own)]
      exact counted.traffic id
  · rw [packets, trafficOf_snoc, ← counted.capture]
    exact captureTraffic_countPacket pd.captureStats pctx
  · refine (ipv6Bytes_countPacket pctx counted.ipv6).trans ?_
    simp only [accountedIpv6, packets, List.filter_append, List.filter_singleton]
    cases pctx.pkt.tuple.ipver == 6 with
    | true =>
      simp
    | false =>
      grind

end Counted

/-! ## Verdicts -/

/-- Only a re-check takes a verdict back. -/
def SteadyVerdicts (pd : Pcapdroid) : Prop :=
  ∀ id, Steady (verdicts id pd.effects) (pd.conn id).toBlock

namespace SteadyVerdicts

variable {pd before after : Pcapdroid}

theorem of_same (steady : SteadyVerdicts before)
    (shown : ∀ id, verdicts id after.effects = verdicts id before.effects)
    (raised : ∀ id, (before.conn id).toBlock ≤ (after.conn id).toBlock) :
    SteadyVerdicts after := by
  intro id
  rw [shown]
  exact (steady id).raise (raised id)

theorem setConn (steady : SteadyVerdicts pd) (raised : (pd.conn id).toBlock ≤ data.toBlock) :
    SteadyVerdicts (pd.setConn id data) := by
  refine steady.of_same (fun _ => rfl) ?_
  exact fun other => Pcapdroid.setConn_cases raised (fun _ _ => le_refl _) other

theorem verdicts_snoc (hidden : shownVerdict id effect = none) :
    verdicts id (effects ++ [effect]) = verdicts id effects := by
  refine List.filterMap_append.trans ?_
  rw [List.filterMap_cons_none hidden]
  exact List.append_nil _

/-- An effect that shows no verdict. -/
theorem emit (steady : SteadyVerdicts pd)
    (hidden : ∀ id, shownVerdict id effect = none) : SteadyVerdicts (pd.emit effect) :=
  steady.of_same (fun id => verdicts_snoc (hidden id)) fun _ => le_refl _

/-- A connection gets the verdict that an effect shows. -/
theorem assign (steady : SteadyVerdicts pd) (effect : Effect) (id : ConnId) (data : Conn)
    (shown : shownVerdict id effect = some ⟨(pd.conn id).toBlock, data.toBlock⟩)
    (hidden : ∀ other, other ≠ id → shownVerdict other effect = none) :
    SteadyVerdicts ((pd.emit effect).setConn id data) := by
  intro other
  by_cases own : other = id
  · subst own
    have more : verdicts other (pd.emit effect).effects =
        verdicts other pd.effects ++ [⟨(pd.conn other).toBlock, data.toBlock⟩] := by
      refine List.filterMap_append.trans ?_
      rw [List.filterMap_cons_some shown]
      rfl
    rw [Pcapdroid.setConn_conn_self]
    exact more ▸ (steady other).assign data.toBlock
  · rw [Pcapdroid.setConn_conn_other _ _ own]
    have same : verdicts other (pd.emit effect).effects = verdicts other pd.effects :=
      verdicts_snoc (hidden other own)
    exact same ▸ steady other

end SteadyVerdicts

end PcapdroidFormal.Vpn
