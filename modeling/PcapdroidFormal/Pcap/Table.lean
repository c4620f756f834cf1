import PcapdroidFormal.Foundation.PairTable
import PcapdroidFormal.Foundation.Runs
import PcapdroidFormal.Pcap.Lifetime

/-!
# The table of connections and its counters

The counters of `pd->stats` follow the hash table `pcap.connections`: a connection is
counted when `handle_packet` adds it, and `remove_connection` takes it back.  Both
directions of a packet belong to one entry of the table, so the direction that pcapd
guesses does not matter once the connection is known.
-/

namespace PcapdroidFormal.Pcap

open PcapdroidFormal.Core Firewall Foundation
open Vpn (Control applyControl pdRefreshTime countFragment)

variable {slot : ConnAndTuple} {capture after : Libpcap} {tuple : FiveTuple}

/-! ## Counters -/

inductive CountedProto where
  | icmp
  | tcp
  | udp
  deriving DecidableEq, Repr

namespace CountedProto

def ipproto : CountedProto → UInt8
  | icmp => ipprotoIcmp
  | tcp => ipprotoTcp
  | udp => ipprotoUdp

/-- The number of connections in the table. -/
def numConn : CountedProto → ConnStats → UInt16
  | icmp => ConnStats.numIcmpConn
  | tcp => ConnStats.numTcpConn
  | udp => ConnStats.numUdpConn

/-- The number of connections opened since the start. -/
def numOpened : CountedProto → ConnStats → UInt32
  | icmp => ConnStats.numIcmpOpened
  | tcp => ConnStats.numTcpOpened
  | udp => ConnStats.numUdpOpened

def isOf (proto : CountedProto) (tuple : FiveTuple) : Bool := tuple.ipproto == proto.ipproto

/-- A protocol is one of those that are counted, or the counters ignore it. -/
theorem known_or_ignored (proto : UInt8) :
    (∃ counted : CountedProto, proto = counted.ipproto) ∨
      (∀ counted : CountedProto, (proto == counted.ipproto) = false) ∧
        ∀ stats : ConnStats, stats.countOpened proto = stats ∧ stats.countRemoved proto = stats := by
  by_cases known : ∃ counted : CountedProto, proto = counted.ipproto
  · exact .inl known
  · have others (counted : CountedProto) : (proto == counted.ipproto) = false :=
      beq_false_of_ne fun same => known ⟨counted, same⟩
    have notTcp : (proto == ipprotoTcp) = false := others .tcp
    have notUdp : (proto == ipprotoUdp) = false := others .udp
    have notIcmp : (proto == ipprotoIcmp) = false := others .icmp
    refine .inr ⟨others, fun stats => ?_⟩
    simp [ConnStats.countOpened, ConnStats.countRemoved, notTcp, notUdp, notIcmp]

variable (counted : CountedProto) (stats : ConnStats) (proto : UInt8)

theorem numConn_countOpened :
    counted.numConn (stats.countOpened proto) =
      counted.numConn stats + if proto == counted.ipproto then 1 else 0 := by
  rcases known_or_ignored proto with ⟨other, rfl⟩ | ⟨others, ignored⟩
  · cases counted <;> cases other <;> first | rfl | exact (UInt16.add_zero _).symm
  · simp [(ignored stats).1, others]

theorem numOpened_countOpened :
    counted.numOpened (stats.countOpened proto) =
      counted.numOpened stats + if proto == counted.ipproto then 1 else 0 := by
  rcases known_or_ignored proto with ⟨other, rfl⟩ | ⟨others, ignored⟩
  · cases counted <;> cases other <;> first | rfl | exact (UInt32.add_zero _).symm
  · simp [(ignored stats).1, others]

theorem numConn_countRemoved :
    counted.numConn (stats.countRemoved proto) =
      counted.numConn stats - if proto == counted.ipproto then 1 else 0 := by
  rcases known_or_ignored proto with ⟨other, rfl⟩ | ⟨others, ignored⟩
  · cases counted <;> cases other <;> first | rfl | exact (UInt16.sub_zero _).symm
  · simp [(ignored stats).2, others]

theorem numOpened_countRemoved :
    counted.numOpened (stats.countRemoved proto) = counted.numOpened stats := by
  rcases known_or_ignored proto with ⟨other, rfl⟩ | ⟨_, ignored⟩
  · cases counted <;> cases other <;> rfl
  · rw [(ignored stats).2]

end CountedProto

/-! ## Connections that are removed -/

/-- `update_connection_status` calls `remove_connection`. -/
def removesConnection (capture : Libpcap) (slot : ConnAndTuple) (pkt : ParsedPkt) : Bool :=
  !((capture.pd.conn slot.data).status.isClosed || pkt.pkt.isFragment) &&
    !(slot.tuple.ipproto == ipprotoTcp) && isDnsPacket slot.tuple pkt.pkt &&
    ((capture.data slot.data).countDnsQuery pkt.pkt).2

section Callbacks

variable (platform : Platform)

/-- The capture that `handle_packet` passes to `update_connection_status`. -/
def processedCapture (capture : Libpcap) (ms : Nat) (pkt : ParsedPkt) (isTx : Bool)
    (slot : ConnAndTuple) : Libpcap :=
  (capture.setData slot.data
    { capture.data slot.data with lastUpdateMs := capture.pd.nowMs }).setPd
      (pdProcessPacket platform capture.pd pkt.pkt isTx slot.tuple slot.data ms).1

end Callbacks

/-! ## The counters follow the table -/

structure Tallied (table : List ConnAndTuple) (stats : ConnStats) (opened : List FiveTuple) :
    Prop where
  unique : UniqueUpTo ConnAndTuple.tuple tupleSwapPeers table
  numConn : ∀ proto : CountedProto,
    proto.numConn stats = UInt16.ofNat (table.countP fun slot => proto.isOf slot.tuple)
  numOpened : ∀ proto : CountedProto,
    proto.numOpened stats = UInt32.ofNat (opened.countP proto.isOf)

theorem tupleSwapPeers_involutive : Function.Involutive tupleSwapPeers := fun _ => rfl

namespace Tallied

variable {table : List ConnAndTuple} {stats : ConnStats} {opened : List FiveTuple}

theorem start : Tallied [] .zeroed [] :=
  ⟨.nil, fun proto => by cases proto <;> rfl, fun proto => by cases proto <;> rfl⟩

variable (tallied : Tallied table stats opened)
include tallied

theorem countOpened
    (absent : ∀ other ∈ table, other.tuple ≠ slot.tuple ∧ other.tuple ≠ tupleSwapPeers slot.tuple) :
    Tallied (table ++ [slot]) (stats.countOpened slot.tuple.ipproto) (opened ++ [slot.tuple]) := by
  refine ⟨tallied.unique.append absent, fun proto => ?_, fun proto => ?_⟩
  · rw [CountedProto.numConn_countOpened, tallied.numConn, List.countP_append,
      List.countP_singleton, UInt16.ofNat_add, CountedProto.isOf]
    split <;> rfl
  · rw [CountedProto.numOpened_countOpened, tallied.numOpened, List.countP_append,
      List.countP_singleton, UInt32.ofNat_add, CountedProto.isOf]
    split <;> rfl

theorem countRemoved (distinct : (table.map (·.data)).Nodup) (member : slot ∈ table) :
    Tallied (table.filter fun other => other.data != slot.data)
      (stats.countRemoved slot.tuple.ipproto) opened := by
  refine ⟨tallied.unique.sublist List.filter_sublist, fun proto => ?_, fun proto => ?_⟩
  · have counted := (perm_cons_filter distinct member).countP_eq fun slot => proto.isOf slot.tuple
    rw [List.countP_cons] at counted
    rw [CountedProto.numConn_countRemoved, tallied.numConn, counted, UInt16.ofNat_add,
      CountedProto.isOf]
    split <;> simp
  · rw [CountedProto.numOpened_countRemoved, tallied.numOpened]

end Tallied

/-- The connection is taken out of the table and out of the counters, if it is to be removed. -/
structure RemovesIf (removed : Bool) (slot : ConnAndTuple) (before after : Libpcap) : Prop where
  connections : after.pd.connections =
    if removed then before.pd.connections.filter fun other => other.data != slot.data
    else before.pd.connections
  stats : after.stats =
    if removed then before.stats.countRemoved slot.tuple.ipproto else before.stats
  opened : after.opened = before.opened

namespace Libpcap

/-- The counters of the capture follow its table. -/
def Tallied (capture : Libpcap) : Prop :=
  Pcap.Tallied capture.pd.connections capture.stats capture.opened

variable {before : Libpcap}

/-- A step that leaves the table and the counters alone. -/
theorem Tallied.frame (tallied : before.Tallied)
    (connections : after.pd.connections = before.pd.connections)
    (stats : after.stats = before.stats) (opened : after.opened = before.opened) :
    after.Tallied := by
  unfold Tallied
  rw [connections, stats, opened]
  exact tallied

theorem Tallied.removesIf {removed : Bool} (tallied : before.Tallied)
    (step : RemovesIf removed slot before after)
    (distinct : (before.pd.connections.map (·.data)).Nodup)
    (member : slot ∈ before.pd.connections) : after.Tallied := by
  unfold Tallied
  rw [step.connections, step.stats, step.opened]
  cases removed with
  | true => exact Pcap.Tallied.countRemoved tallied distinct member
  | false => exact tallied

end Libpcap

theorem updateConnectionStatus_removesIf (capture : Libpcap) (slot : ConnAndTuple)
    (pkt : ParsedPkt) (isTx : Bool) :
    RemovesIf (removesConnection capture slot pkt) slot capture
      (updateConnectionStatus capture slot pkt isTx) := by
  simp only [updateConnectionStatus, removesConnection]
  by_cases idle : ((capture.pd.conn slot.data).status.isClosed || pkt.pkt.isFragment) = true
  · simp only [idle, if_true]
    exact ⟨rfl, rfl, rfl⟩
  · by_cases tcp : (slot.tuple.ipproto == ipprotoTcp) = true
    · rw [Bool.not_eq_true] at idle
      simp only [idle, tcp, if_true]
      exact ⟨rfl, rfl, rfl⟩
    · rw [Bool.not_eq_true] at idle tcp
      by_cases dns : isDnsPacket slot.tuple pkt.pkt = true
      · simp only [idle, tcp, dns, if_true]
        cases ((capture.data slot.data).countDnsQuery pkt.pkt).2 with
        | true => exact ⟨rfl, rfl, rfl⟩
        | false => exact ⟨rfl, rfl, rfl⟩
      · rw [Bool.not_eq_true] at dns
        simp only [idle, tcp, dns]
        exact ⟨rfl, rfl, rfl⟩

section Callbacks

variable (platform : Platform) {pkt : ParsedPkt} {pd : Pcapdroid} {isTx purgeAll valid : Bool}

theorem processPacket_removesIf {ms : Nat}
    (processed : processPacket platform capture ms pkt isTx slot = .ok after) :
    RemovesIf (removesConnection (processedCapture platform capture ms pkt isTx slot) slot pkt)
      slot capture after := by
  have same := (pdProcessPacket_notified platform capture.pd pkt.pkt isTx slot.tuple slot.data
    ms).connections
  obtain ⟨_, pinfo, rfl, rfl⟩ := processPacket_result processed
  have updated := updateConnectionStatus_removesIf
    (processedCapture platform capture ms pkt isTx slot) slot pkt isTx
  refine ⟨?_, updated.stats, updated.opened⟩
  refine (pdAccountStats_notified platform _ _).1.connections.trans ?_
  refine updated.connections.trans ?_
  rw [processedCapture, Libpcap.setPd_pd, same]

theorem openConnection_connections {uid : BitVec 32}
    (opened : openConnection platform capture tuple uid = .ok (after, slot)) :
    slot.tuple = tuple ∧ after.pd.connections = capture.pd.connections ++ [slot] := by
  have same := pdNewConnection_connections platform capture.pd tuple uid.toInt
  obtain ⟨rfl, pd, proxied, created, rfl⟩ := openConnection_result opened
  rw [← created] at same
  exact ⟨rfl, congrArg (· ++ [_]) same⟩

/-! ## Packets -/

theorem mem_of_findConn
    (found : findConn pd tuple = some slot) : slot ∈ pd.connections ∧ slot.tuple = tuple :=
  ⟨List.mem_of_find?_eq_some found, by simpa using List.find?_some found⟩

theorem findConn_eq_none :
    findConn pd tuple = none ↔ ∀ slot ∈ pd.connections, slot.tuple ≠ tuple := by
  simp [findConn]

namespace Libpcap.Tallied

variable {platform} {hdr : PcapdHdr} (tallied : capture.Tallied)
include tallied

theorem processPacket {ms : Nat} (handling : Handling slot.data capture.pd)
    (member : slot ∈ capture.pd.connections)
    (processed : processPacket platform capture ms pkt isTx slot = .ok after) : after.Tallied :=
  tallied.removesIf (processPacket_removesIf platform processed)
    handling.owned.custody.registered_nodup member

theorem openConnection {uid : BitVec 32}
    (absent : ∀ slot ∈ capture.pd.connections,
      slot.tuple ≠ tuple ∧ slot.tuple ≠ tupleSwapPeers tuple)
    (opened : openConnection platform capture tuple uid = .ok (after, slot)) : after.Tallied := by
  obtain ⟨rfl, table⟩ := openConnection_connections platform opened
  obtain ⟨_, pd, proxied, _, rfl⟩ := openConnection_result opened
  unfold Tallied
  rw [table]
  exact Pcap.Tallied.countOpened tallied absent

variable (owned : Owned [] capture.pd)
include owned

theorem dispatchPacket
    (dispatched : dispatchPacket platform capture hdr pkt = .ok (after, valid)) :
    after.Tallied := by
  have found {tuple : FiveTuple} {slot : ConnAndTuple} {pkt : ParsedPkt} {isTx : Bool}
      (search : findConn capture.pd tuple = some slot)
      (result : (Pcap.processPacket platform capture hdr.ms pkt isTx slot >>= fun capture =>
        pure (capture, true)) = .ok (after, valid)) : after.Tallied := by
    have member := (mem_of_findConn search).1
    obtain ⟨last, processed, result⟩ := exists_of_bind_eq_ok result
    cases result
    exact tallied.processPacket (owned.handling (List.mem_map_of_mem member)) member processed
  simp only [Pcap.dispatchPacket] at dispatched
  generalize (if hdr.isTx = true then pkt.pkt.tuple else tupleSwapPeers pkt.pkt.tuple) = tuple
    at dispatched
  cases first : findConn capture.pd tuple with
  | some slot =>
    rw [first] at dispatched
    exact found first dispatched
  | none =>
    cases second : findConn capture.pd (tupleSwapPeers tuple) with
    | some slot =>
      rw [first, second] at dispatched
      exact found second dispatched
    | none =>
      rw [first, second] at dispatched
      dsimp only at dispatched
      split at dispatched
      · cases dispatched
        exact tallied.frame rfl rfl rfl
      · -- neither direction is in the table, so the new entry is the only one for both
        obtain ⟨created, slot, opened, handling⟩ := openConnection_ok platform owned tuple hdr.uid
        have counted := tallied.openConnection (fun slot member =>
          ⟨findConn_eq_none.mp first slot member, findConn_eq_none.mp second slot member⟩) opened
        have member : slot ∈ created.pd.connections := by
          rw [(openConnection_connections platform opened).2]
          exact List.mem_append_right _ (List.mem_singleton_self slot)
        obtain ⟨_, same, dispatched⟩ := exists_of_bind_eq_ok dispatched
        cases opened.symm.trans same
        obtain ⟨last, processed, result⟩ := exists_of_bind_eq_ok dispatched
        cases result
        exact counted.processPacket handling member processed

theorem handlePacket {parse : Bytes → Option ParsedPkt} {buffer : Bytes} {ipoffset : Nat}
    {final : PcapdHdr}
    (handled : handlePacket platform parse capture hdr buffer ipoffset = .ok (after, final, valid)) :
    after.Tallied := by
  unfold Pcap.handlePacket at handled
  cases parsed : parse (buffer.drop ipoffset) with
  | none =>
    rw [parsed] at handled
    cases handled
    exact tallied
  | some pkt =>
    rw [parsed] at handled
    have same := readTrailer_pd capture hdr buffer pkt.pkt
    have started : (readTrailer capture hdr buffer pkt.pkt).1.Tallied := by
      obtain ⟨stats, opened⟩ := readTrailer_stats capture hdr buffer pkt.pkt
      exact tallied.frame (congrArg Pcapdroid.connections same) stats opened
    dsimp only at handled
    generalize readTrailer capture hdr buffer pkt.pkt = start at same started handled
    split at handled
    · cases handled
      exact started.frame rfl rfl rfl
    · obtain ⟨result, dispatched, handled⟩ := exists_of_bind_eq_ok handled
      cases handled
      exact started.dispatchPacket (same.symm ▸ owned) dispatched

theorem capturePacket {buffer : Bytes} {parse : Bytes → Option ParsedPkt} {dumped : Bool}
    (captured : capturePacket platform capture hdr buffer parse dumped = .ok after) :
    after.Tallied := by
  unfold Pcap.capturePacket at captured
  cases offset : getIpOffset hdr.linktype with
  | none =>
    rw [offset] at captured
    cases captured
    exact tallied
  | some ipoffset =>
    rw [offset] at captured
    dsimp only at captured
    split at captured
    · cases captured
      exact tallied
    · obtain ⟨result, handled, captured⟩ := exists_of_bind_eq_ok captured
      have kept := tallied.handlePacket owned handled
      split at captured
      · cases captured
        exact kept
      · cases captured
        exact kept.frame rfl rfl rfl

end Libpcap.Tallied

/-! ## Expired connections -/

theorem purgeConn_removesIf (purged : purgeConn platform purgeAll capture slot = .ok after) :
    RemovesIf (isExpired purgeAll capture slot) slot capture after := by
  simp only [purgeConn, bind, Except.bind] at purged
  split at purged
  next => cases purged
  next =>
    cases expired : isExpired purgeAll capture slot with
    | false =>
      rw [expired] at purged
      cases purged
      exact ⟨rfl, rfl, rfl⟩
    | true =>
      rw [expired, if_pos rfl] at purged
      split at purged
      next =>
        -- no notification is pending, so the connection is freed now
        unfold pdPurgeConnection at purged
        split at purged
        next => cases purged
        next freed =>
          split at freed
          next => cases freed
          next =>
            cases freed
            cases purged
            exact ⟨rfl, rfl, rfl⟩
      next =>
        cases purged
        have same := (Notified.of_worked (pdNotifyConnectionUpdate_worked platform
          (capture.pd.setConn slot.data (expireConn (capture.pd.conn slot.data))) slot.tuple
          slot.data)).connections
        refine ⟨?_, rfl, rfl⟩
        show List.filter _ (pdNotifyConnectionUpdate platform _ _ _).connections = _
        rw [same]
        rfl

/-- The loop of `purge_expired_connections`. -/
theorem Libpcap.Tallied.purgeConns {slots : List ConnAndTuple} (tallied : capture.Tallied)
    (owned : Owned [] capture.pd) (distinct : (slots.map (·.data)).Nodup)
    (registered : ∀ slot ∈ slots, slot ∈ capture.pd.connections)
    (purged : slots.foldlM (purgeConn platform purgeAll) capture = .ok after) :
    after.Tallied := by
  induction slots generalizing capture with
  | nil =>
    cases purged
    exact tallied
  | cons slot slots ih =>
    rw [List.map_cons, List.nodup_cons] at distinct
    rw [List.forall_mem_cons] at registered
    obtain ⟨next, step, kept, _⟩ :=
      purgeConn_ok platform purgeAll owned (List.mem_map_of_mem registered.1)
    have removes := purgeConn_removesIf platform step
    rw [List.foldlM_cons, step] at purged
    refine ih (tallied.removesIf removes owned.custody.registered_nodup registered.1) kept
      distinct.2 (fun other inside => ?_) purged
    have different : other.data ≠ slot.data := fun same =>
      distinct.1 (same ▸ List.mem_map_of_mem inside)
    rw [removes.connections]
    split
    · exact List.mem_filter.mpr ⟨registered.2 other inside, bne_iff_ne.mpr different⟩
    · exact registered.2 other inside

theorem Libpcap.Tallied.purgeExpired (tallied : capture.Tallied) (owned : Owned [] capture.pd)
    (purged : purgeExpiredConnections platform purgeAll capture = .ok after) : after.Tallied :=
  tallied.purgeConns platform owned owned.custody.registered_nodup (fun _ member => member) purged

/-! ## Runs -/

theorem pdHousekeeping_connections (exported : Bool) (pd : Pcapdroid) :
    (pdHousekeeping platform exported pd).connections = pd.connections := by
  have kept : KeptByHousekeeping platform fun after => after.connections = pd.connections :=
    { periodicTask := fun exported same =>
        (periodicTask_periodicStep exported _).connections.trans same
      setMalwareDetection := fun _ same => same
      setFirewall := fun _ same => same
      setTlsDecryption := fun _ same => same
      checkBlacklistedConnCb := fun _ same =>
        (checkBlacklistedConnCb_touches platform _ _ _).connections.trans same
      checkBlockedConnCb := fun _ same =>
        (checkBlockedConnCb_touches platform _ _ _).connections.trans same }
  exact kept.pdHousekeeping exported rfl

theorem Libpcap.Tallied.pcapStep (tallied : capture.Tallied) (owned : Owned [] capture.pd)
    {event : PcapEvent} (step : pcapStep platform capture event = .ok after) : after.Tallied := by
  cases event with
  | packet hdr buffer parse dumped => exact tallied.capturePacket owned step
  | purgeExpired => exact tallied.purgeExpired platform owned step
  | refreshTime now =>
    cases step
    exact tallied.frame rfl rfl rfl
  | housekeeping exported =>
    simp only [Pcap.pcapStep, housekeeping_ok platform owned, bind, Except.bind] at step
    cases step
    exact tallied.frame (pdHousekeeping_connections platform exported capture.pd) rfl rfl
  | control request =>
    cases step
    exact tallied.frame (applyControl_view capture.pd request).1 rfl rfl

theorem runPcap_tallied (tallied : capture.Tallied) (owned : Owned [] capture.pd)
    (events : List PcapEvent) :
    ∃ after, runPcap platform capture events = .ok after ∧ Owned [] after.pd ∧ after.Tallied := by
  induction events generalizing capture with
  | nil => exact ⟨capture, rfl, owned, tallied⟩
  | cons event events ih =>
    obtain ⟨next, step, kept⟩ := pcapStep_ok platform owned event
    obtain ⟨after, rest, final⟩ := ih (tallied.pcapStep platform owned step) kept
    refine ⟨after, ?_, final⟩
    unfold runPcap
    rw [List.foldlM_cons, step]
    exact rest

/-! ## The direction of a packet -/

/-- A packet of a known connection is processed with the connection and the direction that
the table gives, whatever the header says. -/
theorem dispatchPacket_direction
    (unique : UniqueUpTo ConnAndTuple.tuple tupleSwapPeers capture.pd.connections) (hdr : PcapdHdr)
    (member : slot ∈ capture.pd.connections) (known : slot.tuple = if isTx then pkt.pkt.tuple else
      tupleSwapPeers pkt.pkt.tuple) (directed : pkt.pkt.tuple ≠ tupleSwapPeers pkt.pkt.tuple) :
    dispatchPacket platform capture hdr pkt =
      (processPacket platform capture hdr.ms (pkt.orient slot.tuple) isTx slot).map (·, true) := by
  have involutive := tupleSwapPeers_involutive
  have found : findConn capture.pd slot.tuple = some slot := by
    cases search : findConn capture.pd slot.tuple with
    | none => exact absurd rfl (findConn_eq_none.mp search slot member)
    | some other =>
      obtain ⟨inside, same⟩ := mem_of_findConn search
      rw [unique.eq_of_mem involutive inside member (.inl same)]
  have missing : findConn capture.pd (tupleSwapPeers slot.tuple) = none := by
    refine findConn_eq_none.mpr fun other inside swapped => directed ?_
    obtain rfl := unique.eq_of_mem involutive inside member (.inr swapped)
    rw [known] at swapped
    cases isTx with
    | true => exact swapped
    | false => exact swapped.symm
  have oriented : (if hdr.isTx then pkt.pkt.tuple else tupleSwapPeers pkt.pkt.tuple) =
      if hdr.isTx = isTx then slot.tuple else tupleSwapPeers slot.tuple := by
    rw [known]
    cases hdr.isTx <;> cases isTx <;> rfl
  rw [dispatchPacket, oriented]
  by_cases right : hdr.isTx = isTx
  · rw [if_pos right]
    simp only [found, right]
    rfl
  · have other : (!hdr.isTx) = isTx := by
      grind
    rw [if_neg right]
    simp only [missing, involutive slot.tuple, found, other]
    rfl

/-- No two entries of the table are for one connection, the counters are those of the table
and of the connections opened so far, and the direction in the header of a packet is not
used once its connection is known. -/
structure TableKept (capture : Libpcap) : Prop where
  unique : capture.pd.connections.Pairwise fun slot other =>
    slot.tuple ≠ other.tuple ∧ slot.tuple ≠ tupleSwapPeers other.tuple
  numConn : ∀ proto : CountedProto, (proto.numConn capture.stats).toNat =
    (capture.pd.connections.countP fun slot => proto.isOf slot.tuple) % 2 ^ 16
  numOpened : ∀ proto : CountedProto, (proto.numOpened capture.stats).toNat =
    capture.opened.countP proto.isOf % 2 ^ 32
  direction : ∀ (hdr : PcapdHdr) (pkt : ParsedPkt),
    (∃ slot ∈ capture.pd.connections, slot.tuple = pkt.pkt.tuple ∨
      slot.tuple = tupleSwapPeers pkt.pkt.tuple) →
    pkt.pkt.tuple ≠ tupleSwapPeers pkt.pkt.tuple →
    ∃ slot ∈ capture.pd.connections, ∃ isTx, ∀ flag,
      dispatchPacket platform capture { hdr with isTx := flag } pkt =
        (processPacket platform capture hdr.ms (pkt.orient slot.tuple) isTx slot).map (·, true)

theorem Libpcap.Tallied.tableKept (tallied : capture.Tallied) : TableKept platform capture where
  unique := tallied.unique
  numConn proto := by rw [Pcap.Tallied.numConn tallied, UInt16.toNat_ofNat']
  numOpened proto := by rw [Pcap.Tallied.numOpened tallied, UInt32.toNat_ofNat']
  direction hdr pkt registered directed := by
    obtain ⟨slot, member, sent | received⟩ := registered
    · refine ⟨slot, member, true, fun flag => ?_⟩
      exact dispatchPacket_direction platform tallied.unique { hdr with isTx := flag } member
        (by simpa using sent) directed
    · refine ⟨slot, member, false, fun flag => ?_⟩
      exact dispatchPacket_direction platform tallied.unique { hdr with isTx := flag } member
        (by simpa using received) directed

/-- The table of a root or PCAP-file capture is kept in every state of a run and after the
purge at its end. -/
theorem root_table_is_kept (config : Pcapdroid) (pcapFileCapture : Bool)
    (events : List PcapEvent) :
    ∃ reached, runPcap platform (startCapture config pcapFileCapture) events = .ok reached ∧
      TableKept platform reached ∧
      ∃ purged, purgeExpiredConnections platform true reached = .ok purged ∧
        TableKept platform purged := by
  have start : (startCapture config pcapFileCapture).Tallied := Tallied.start
  obtain ⟨reached, ran, owned, tallied⟩ :=
    runPcap_tallied platform start (startCapture_owned config pcapFileCapture) events
  obtain ⟨purged, cleaned, _⟩ := purgeExpiredConnections_ok platform true owned
  exact ⟨reached, ran, tallied.tableKept platform, purged, cleaned,
    (tallied.purgeExpired platform owned cleaned).tableKept platform⟩

end Callbacks

end PcapdroidFormal.Pcap
