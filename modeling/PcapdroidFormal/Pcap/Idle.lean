import PcapdroidFormal.Foundation.Runs
import PcapdroidFormal.Pcap.Clock

/-!
# Idle connections

`run_libpcap` with its purge timer.  A connection leaves the hash table when no packet of it
has come for the timeout of its protocol; the timer fires at the end of an iteration.
-/

namespace PcapdroidFormal.Pcap

open PcapdroidFormal.Core Foundation
open Vpn (Control applyControl pdRefreshTime countFragment periodicPurgeTimeoutMs)

variable {tuple : FiveTuple} {capture after : Libpcap}

/-! ## The loop -/

/-- The connection of a packet; a new one if neither direction is in the table. -/
def dispatchConn (pd : Pcapdroid) (isTx : Bool) (pkt : ZdtunPkt) : Option ConnId :=
  let tuple := if isTx then pkt.tuple else tupleSwapPeers pkt.tuple
  match findConn pd tuple, findConn pd (tupleSwapPeers tuple) with
  | some slot, _ => some slot.data
  | none, some slot => some slot.data
  | none, none => if pkt.isFragment && !pkt.isFirstFragment then none else some pd.newConnId

structure PcapdPacket where
  hdr : PcapdHdr
  buffer : Bytes
  parse : Bytes → Option ParsedPkt
  dumped : Bool

namespace PcapdPacket

variable (packet : PcapdPacket)

/-- An invalid datalink or an invalid length. -/
def isInvalid : Bool :=
  match getIpOffset packet.hdr.linktype with
  | none => true
  | some ipoffset => decide (packet.buffer.length < ipoffset)

/-- The connection of the packet, if it is handled. -/
def conn (pd : Pcapdroid) : Option ConnId := do
  let ipoffset ← getIpOffset packet.hdr.linktype
  if packet.buffer.length < ipoffset then none
  else
    let pkt ← packet.parse (packet.buffer.drop ipoffset)
    if unmatchedFragment pkt.pkt then none else dispatchConn pd packet.hdr.isTx pkt.pkt

end PcapdPacket

/-- `run_libpcap` between two iterations. -/
structure PcapLoop where
  capture : Libpcap
  nextPurgeMs : UInt64

namespace PcapLoop

def nowMs (loop : PcapLoop) : UInt64 := loop.capture.pd.nowMs

/-- The hash table. -/
def table (loop : PcapLoop) : List ConnAndTuple := loop.capture.pd.connections

end PcapLoop

/-- One iteration: the clock, the packet if there is one, and what `pcap_check_export`
returns. -/
structure PcapIteration where
  now : UInt64
  packet : Option PcapdPacket
  exported : Bool

/-- The iteration ends with the packet. -/
def PcapIteration.isSkipped (iteration : PcapIteration) : Bool :=
  iteration.packet.any PcapdPacket.isInvalid

section Callbacks

variable (platform : Platform)

/-- The start of an iteration. -/
def receive (capture : Libpcap) (iteration : PcapIteration) : Except MemoryError Libpcap :=
  let capture := capture.setPd (pdRefreshTime capture.pd iteration.now)
  match iteration.packet with
  | none => .ok capture
  | some packet =>
    capturePacket platform capture packet.hdr packet.buffer packet.parse packet.dumped

/-- An iteration before the purge timer is looked at. -/
def serve (capture : Libpcap) (iteration : PcapIteration) : Except MemoryError Libpcap := do
  let capture ← receive platform capture iteration
  if iteration.isSkipped then return capture
  else
    let pd ← housekeeping platform iteration.exported capture.pd
    return capture.setPd pd

/-- The end of an iteration. -/
def purgeTimer (loop : PcapLoop) : Except MemoryError PcapLoop :=
  if loop.nextPurgeMs ≤ loop.nowMs then do
    let capture ← purgeExpiredConnections platform false loop.capture
    return ⟨capture, capture.pd.nowMs + periodicPurgeTimeoutMs⟩
  else return loop

/-- One iteration of `run_libpcap`. -/
def iterate (loop : PcapLoop) (iteration : PcapIteration) : Except MemoryError PcapLoop :=
  if loop.capture.pd.running then do
    let capture ← serve platform loop.capture iteration
    if iteration.isSkipped then return ⟨capture, loop.nextPurgeMs⟩
    else purgeTimer platform ⟨capture, loop.nextPurgeMs⟩
  else return loop

/-- What happens to the loop; other threads make requests between the iterations. -/
inductive PcapLoopEvent where
  | iteration (iteration : PcapIteration)
  | control (request : Control)

def loopStep (loop : PcapLoop) : PcapLoopEvent → Except MemoryError PcapLoop
  | .iteration iteration => iterate platform loop iteration
  | .control request =>
    .ok ⟨loop.capture.setPd (applyControl loop.capture.pd request), loop.nextPurgeMs⟩

end Callbacks

/-- The start of `run_libpcap`. -/
def startLoop (config : Pcapdroid) (pcapFileCapture : Bool) (now : UInt64) : PcapLoop where
  capture := (startCapture config pcapFileCapture).setPd
    (pdRefreshTime (startCapture config pcapFileCapture).pd now)
  nextPurgeMs := now + periodicPurgeTimeoutMs

/-! ## Packets -/

/-- The other connections are as busy or idle as before. -/
structure Touched (busy : List ConnId) (before after : Libpcap) : Prop where
  nowMs : after.pd.nowMs = before.pd.nowMs
  status : ∀ id, id ∉ busy → (after.pd.conn id).status = (before.pd.conn id).status
  data : ∀ id, id ∉ busy → after.data id = before.data id
  table : ∀ slot : ConnAndTuple, slot.data ∉ busy →
    (slot ∈ after.pd.connections ↔ slot ∈ before.pd.connections)

namespace Touched

variable {busy : List ConnId} {first second third capture : Libpcap} {pd : Pcapdroid}

theorem refl (capture : Libpcap) : Touched busy capture capture :=
  ⟨rfl, fun _ _ => rfl, fun _ _ => rfl, fun _ _ => Iff.rfl⟩

theorem trans (earlier : Touched busy first second) (later : Touched busy second third) :
    Touched busy first third where
  nowMs := later.nowMs.trans earlier.nowMs
  status id other := (later.status id other).trans (earlier.status id other)
  data id other := (later.data id other).trans (earlier.data id other)
  table slot other := (later.table slot other).trans (earlier.table slot other)

theorem setPd (same : SameTimes capture.pd pd) (table : pd.connections = capture.pd.connections) :
    Touched busy capture (capture.setPd pd) :=
  ⟨same.nowMs, fun id _ => same.status id, fun _ _ => rfl,
    fun slot _ => by rw [Libpcap.setPd_pd, table]⟩

end Touched

theorem PcapData.seeFlags_lastUpdateMs (data : PcapData) (isTx : Bool) (flags : UInt8) :
    (data.seeFlags isTx flags).lastUpdateMs = data.lastUpdateMs := by
  cases isTx <;> rfl

theorem PcapData.tcpStatus_lastUpdateMs (data : PcapData) (status : ConnStatus)
    (pkt : ParsedPkt) : (data.tcpStatus status pkt).2.lastUpdateMs = data.lastUpdateMs := by
  rw [PcapData.tcpStatus]
  split_ifs <;> rfl

theorem PcapData.countDnsQuery_lastUpdateMs (data : PcapData) (pkt : ZdtunPkt) :
    (data.countDnsQuery pkt).1.lastUpdateMs = data.lastUpdateMs := by
  rw [PcapData.countDnsQuery]
  split <;> rfl

theorem updateConnectionStatus_touched (capture : Libpcap) (slot : ConnAndTuple)
    (pkt : ParsedPkt) (isTx : Bool) :
    Touched [slot.data] capture (updateConnectionStatus capture slot pkt isTx) ∧
      ((updateConnectionStatus capture slot pkt isTx).data slot.data).lastUpdateMs =
        (capture.data slot.data).lastUpdateMs := by
  have setStatus (capture : Libpcap) (status : ConnStatus) :
      Touched [slot.data] capture (capture.setStatus slot.data status) := by
    refine ⟨rfl, fun id other => ?_, fun _ _ => rfl, fun _ _ => Iff.rfl⟩
    have different : id ≠ slot.data := fun same => other (List.mem_singleton.mpr same)
    exact congrArg Conn.status (Pcapdroid.setConn_conn_other _ _ different)
  have setData (capture : Libpcap) (data : PcapData) :
      Touched [slot.data] capture (capture.setData slot.data data) :=
    ⟨rfl, fun _ _ => rfl, fun id other => if_neg fun same => other (List.mem_singleton.mpr same),
      fun _ _ => Iff.rfl⟩
  have own (capture : Libpcap) (data : PcapData) :
      (capture.setData slot.data data).data slot.data = data := if_pos rfl
  simp only [updateConnectionStatus]
  split
  · exact ⟨.refl capture, rfl⟩
  · split
    · refine ⟨(setData capture _).trans (setStatus _ _), ?_⟩
      refine (congrArg PcapData.lastUpdateMs (own capture _)).trans ?_
      rw [PcapData.tcpStatus_lastUpdateMs, PcapData.seeFlags_lastUpdateMs]
    · have connected := setStatus capture .connected
      split
      · have counted := connected.trans (setData (capture.setStatus slot.data .connected)
          ((capture.data slot.data).countDnsQuery pkt.pkt).1)
        have time : (((capture.setStatus slot.data .connected).setData slot.data
            ((capture.data slot.data).countDnsQuery pkt.pkt).1).data slot.data).lastUpdateMs =
            (capture.data slot.data).lastUpdateMs := by
          rw [own, PcapData.countDnsQuery_lastUpdateMs]
        split
        · refine ⟨counted.trans ⟨rfl, fun id other => ?_, fun _ _ => rfl, fun entry other => ?_⟩,
            time⟩
          · have different : id ≠ slot.data := fun same => other (List.mem_singleton.mpr same)
            exact congrArg Conn.status (Pcapdroid.setConn_conn_other _ _ different)
          · have different : entry.data ≠ slot.data := fun same => other (List.mem_singleton.mpr same)
            refine (List.mem_filter).trans ⟨And.left, fun member => ⟨member, ?_⟩⟩
            exact bne_iff_ne.mpr different
        · exact ⟨counted, time⟩
      · exact ⟨connected, rfl⟩

section Callbacks

variable {platform : Platform} {slot : ConnAndTuple} {slots : List ConnAndTuple} {pkt : ParsedPkt}
  {busy : List ConnId} {before : Libpcap} {hdr : PcapdHdr} {valid isTx : Bool} {ms : Nat}

theorem processPacket_touched
    (processed : processPacket platform capture ms pkt isTx slot = .ok after) :
    Touched [slot.data] capture after ∧ (after.data slot.data).lastUpdateMs = capture.pd.nowMs:= by
  obtain ⟨_, pinfo, rfl, rfl⟩ := processPacket_result processed
  have seen : Touched [slot.data] capture
      (processedCapture platform capture ms pkt isTx slot) := by
    have times := pdProcessPacket_sameTimes platform capture.pd pkt.pkt isTx slot.tuple slot.data ms
    have same := (pdProcessPacket_notified platform capture.pd pkt.pkt isTx slot.tuple slot.data
      ms).connections
    exact ⟨times.nowMs, fun id _ => times.status id,
      fun id other => if_neg fun same => other (List.mem_singleton.mpr same),
      fun entry _ => by rw [processedCapture, Libpcap.setPd_pd, same]⟩
  have time : ((processedCapture platform capture ms pkt isTx slot).data slot.data).lastUpdateMs =
      capture.pd.nowMs := congrArg PcapData.lastUpdateMs (if_pos rfl)
  obtain ⟨updated, kept⟩ := updateConnectionStatus_touched
    (processedCapture platform capture ms pkt isTx slot) slot pkt isTx
  refine ⟨(seen.trans updated).trans (.setPd (pdAccountStats_sameTimes platform _ _) ?_), ?_⟩
  · exact (pdAccountStats_notified platform _ _).1.connections
  · exact kept.trans time

theorem openConnection_touched {uid : BitVec 32}
    (opened : openConnection platform capture tuple uid = .ok (after, slot)) :
    slot.data = capture.pd.newConnId ∧ Touched [slot.data] capture after := by
  have table := (openConnection_connections platform opened).2
  have times := pdNewConnection_times platform capture.pd tuple uid.toInt
  obtain ⟨rfl, pd, proxied, created, rfl⟩ := openConnection_result opened
  rw [← created] at times
  refine ⟨rfl, times.1, fun id other => ?_, fun id other => ?_, fun entry other => ?_⟩
  · have different : id ≠ capture.pd.newConnId := fun same => other (List.mem_singleton.mpr same)
    exact (congrArg Conn.status (Pcapdroid.setConn_conn_other _ _ different)).trans
      (times.2 id different)
  · exact if_neg fun same => other (List.mem_singleton.mpr same)
  · grind

/-- A packet of this connection is handled. -/
def Handled (busy : Option ConnId) (before after : Libpcap) : Prop :=
  Touched busy.toList before after ∧
    ∀ id ∈ busy, (after.data id).lastUpdateMs = before.pd.nowMs

theorem Handled.none {after : Libpcap} (touched : Touched [] before after) :
    Handled none before after := ⟨touched, fun _ absurd => nomatch absurd⟩

/-- The end of `dispatchPacket`. -/
theorem processPacket_handled
    (result : (processPacket platform capture ms pkt isTx slot >>= fun capture =>
      pure (capture, true)) = .ok (after, valid)) : Handled (some slot.data) capture after := by
  obtain ⟨kept, processed, result⟩ := exists_of_bind_eq_ok result
  cases result
  obtain ⟨touched, time⟩ := processPacket_touched processed
  refine ⟨touched, fun id same => ?_⟩
  grind

theorem dispatchPacket_handled
    (dispatched : dispatchPacket platform capture hdr pkt = .ok (after, valid)) :
    Handled (dispatchConn capture.pd hdr.isTx pkt.pkt) capture after := by
  simp only [dispatchPacket] at dispatched
  simp only [dispatchConn]
  generalize (if hdr.isTx = true then pkt.pkt.tuple else tupleSwapPeers pkt.pkt.tuple) = tuple
    at dispatched ⊢
  cases first : findConn capture.pd tuple with
  | some slot =>
    rw [first] at dispatched
    exact processPacket_handled dispatched
  | none =>
    cases second : findConn capture.pd (tupleSwapPeers tuple) with
    | some slot =>
      rw [first, second] at dispatched
      exact processPacket_handled dispatched
    | none =>
      rw [first, second] at dispatched
      dsimp only at dispatched ⊢
      split at dispatched
      next fragment =>
        rw [if_pos fragment]
        cases dispatched
        exact .none (.setPd (.of_heap rfl rfl) rfl)
      next whole =>
        rw [if_neg whole]
        obtain ⟨created, opened, dispatched⟩ := exists_of_bind_eq_ok dispatched
        obtain ⟨fresh, created⟩ := openConnection_touched opened
        obtain ⟨touched, time⟩ := processPacket_handled dispatched
        rw [← fresh]
        refine ⟨created.trans touched, fun id same => (time id same).trans ?_⟩
        exact created.nowMs

theorem readTrailer_frame (capture : Libpcap) (hdr : PcapdHdr) (buffer : Bytes) (pkt : ZdtunPkt) :
    (readTrailer capture hdr buffer pkt).1.data = capture.data ∧
      (readTrailer capture hdr buffer pkt).2.isTx = hdr.isTx := by
  unfold readTrailer
  grind

theorem handlePacket_handled {parse : Bytes → Option ParsedPkt} {final : PcapdHdr} {buffer : Bytes}
    {ipoffset : Nat}
    (handled : handlePacket platform parse capture hdr buffer ipoffset = .ok (after, final, valid))
    : Handled (do
      let pkt ← parse (buffer.drop ipoffset)
      if unmatchedFragment pkt.pkt then none else dispatchConn capture.pd hdr.isTx pkt.pkt)
      capture after := by
  unfold handlePacket at handled
  cases parsed : parse (buffer.drop ipoffset) with
  | none =>
    rw [parsed] at handled
    cases handled
    exact .none (.refl capture)
  | some pkt =>
    rw [parsed] at handled
    have same := readTrailer_pd capture hdr buffer pkt.pkt
    obtain ⟨data, isTx⟩ := readTrailer_frame capture hdr buffer pkt.pkt
    dsimp only at handled
    generalize readTrailer capture hdr buffer pkt.pkt = start at same data isTx handled
    have started {busy : List ConnId} : Touched busy capture start.1 :=
      ⟨by rw [same], fun id _ => by rw [same], fun id _ => by rw [data],
        fun slot _ => by rw [same]⟩
    dsimp only [bind, Option.bind]
    split at handled
    next unmatched =>
      rw [if_pos unmatched]
      cases handled
      exact .none (started.trans (.setPd (.of_heap rfl rfl) rfl))
    next matched =>
      rw [if_neg matched]
      obtain ⟨result, dispatched, handled⟩ := exists_of_bind_eq_ok handled
      cases handled
      obtain ⟨touched, time⟩ := dispatchPacket_handled dispatched
      rw [same, isTx] at touched time
      exact ⟨started.trans touched, time⟩

theorem capturePacket_handled {packet : PcapdPacket}
    (captured : capturePacket platform capture packet.hdr packet.buffer packet.parse
      packet.dumped = .ok after) : Handled (packet.conn capture.pd) capture after := by
  unfold capturePacket at captured
  simp only [PcapdPacket.conn, bind, Option.bind]
  cases offset : getIpOffset packet.hdr.linktype with
  | none =>
    rw [offset] at captured
    cases captured
    exact .none (.refl capture)
  | some ipoffset =>
    rw [offset] at captured
    dsimp only at captured ⊢
    split at captured
    next short =>
      rw [if_pos short]
      cases captured
      exact .none (.refl capture)
    next long =>
      rw [if_neg long]
      obtain ⟨result, handled, captured⟩ := exists_of_bind_eq_ok captured
      obtain ⟨touched, time⟩ := handlePacket_handled handled
      split at captured
      · cases captured
        exact ⟨touched, time⟩
      · cases captured
        exact ⟨touched.trans (.setPd (.of_heap rfl rfl) rfl), time⟩

/-! ## Purging -/

/-- One iteration of `purge_expired_connections`. -/
theorem purgeConn_touched (purged : purgeConn platform false capture slot = .ok after) :
    (isExpired false capture slot = true ∧ Touched [slot.data] capture after ∧
        slot ∉ after.pd.connections) ∨
      isExpired false capture slot = false ∧ after = capture := by
  have table := (purgeConn_removesIf platform purged).connections
  cases expired : isExpired false capture slot with
  | false =>
    right
    simp only [purgeConn, expired, bind, Except.bind] at purged
    split at purged
    · cases purged
    · cases purged
      exact ⟨rfl, rfl⟩
  | true =>
    left
    rw [expired, if_pos rfl] at table
    have removed (entry : ConnAndTuple) :
        entry ∈ after.pd.connections ↔
          entry ∈ capture.pd.connections ∧ entry.data ≠ slot.data := by
      grind
    refine ⟨rfl, ?_, fun member => ((removed slot).mp member).2 rfl⟩
    have entries (entry : ConnAndTuple) (other : entry.data ∉ [slot.data]) :
        entry ∈ after.pd.connections ↔ entry ∈ capture.pd.connections :=
      (removed entry).trans (and_iff_left fun same => other (List.mem_singleton.mpr same))
    have others (id : ConnId) (other : id ∉ [slot.data]) :
        ((capture.pd.setConn slot.data (expireConn (capture.pd.conn slot.data))).conn id).status =
          (capture.pd.conn id).status :=
      congrArg Conn.status (Pcapdroid.setConn_conn_other _ _
        fun same => other (List.mem_singleton.mpr same))
    simp only [purgeConn, expired, if_true, bind, Except.bind] at purged
    split at purged
    next => cases purged
    next =>
      split at purged
      next =>
        unfold pdPurgeConnection at purged
        split at purged
        next => cases purged
        next freed =>
          split at freed
          next => cases freed
          next =>
            cases freed
            cases purged
            exact ⟨rfl, others, fun _ _ => rfl, entries⟩
      next =>
        cases purged
        have times := notify_sameTimes platform (capture.pd.setConn slot.data
          (expireConn (capture.pd.conn slot.data))) slot.tuple slot.data
        exact ⟨times.nowMs, fun id other => (times.status id).trans (others id other),
          fun _ _ => rfl, entries⟩

theorem Touched.mono {more : List ConnId} {after : Libpcap}
    (touched : Touched busy before after) (included : busy ⊆ more) : Touched more before after where
  nowMs := touched.nowMs
  status id other := touched.status id fun member => other (included member)
  data id other := touched.data id fun member => other (included member)
  table slot other := touched.table slot fun member => other (included member)

/-- The purge decides as it would for this connection alone. -/
theorem Touched.isExpired {after : Libpcap}
    (touched : Touched busy before after) (other : slot.data ∉ busy) :
    isExpired false after slot = isExpired false before slot := by
  rw [Pcap.isExpired, Pcap.isExpired, touched.data _ other, touched.status _ other, touched.nowMs]

/-- A connection that is visited by the purge leaves the table, or stays as it is. -/
def Judged (slot : ConnAndTuple) (before after : Libpcap) : Prop :=
  if isExpired false before slot then slot ∉ after.pd.connections
  else (after.pd.conn slot.data).status = (before.pd.conn slot.data).status ∧
    after.data slot.data = before.data slot.data ∧
    (slot ∈ after.pd.connections ↔ slot ∈ before.pd.connections)

theorem purgeConns_judged (distinct : (slots.map (·.data)).Nodup)
    (purged : slots.foldlM (purgeConn platform false) capture = .ok after) :
    Touched (slots.map (·.data)) capture after ∧ ∀ slot ∈ slots, Judged slot capture after := by
  induction slots generalizing capture with
  | nil =>
    cases purged
    exact ⟨.refl _, List.forall_mem_nil _⟩
  | cons head slots ih =>
    rw [List.foldlM_cons] at purged
    rw [List.map_cons, List.nodup_cons] at distinct
    obtain ⟨next, visited, purged⟩ := exists_of_bind_eq_ok purged
    obtain ⟨rest, judged⟩ := ih distinct.2 purged
    have first : Touched [head.data] capture next := by
      rcases purgeConn_touched visited with ⟨_, touched, _⟩ | ⟨_, rfl⟩
      · exact touched
      · exact .refl next
    refine ⟨(first.mono ?_).trans (rest.mono (List.subset_cons_self _ _)), ?_⟩
    · grind
    · refine List.forall_mem_cons.mpr ⟨?_, fun slot member => ?_⟩
      · rw [Judged]
        rcases purgeConn_touched visited with ⟨expired, _, gone⟩ | ⟨active, rfl⟩
        · rw [if_pos expired, rest.table head distinct.1]
          exact gone
        · rw [if_neg (by grind)]
          exact ⟨rest.status _ distinct.1, rest.data _ distinct.1, rest.table _ distinct.1⟩
      · have other : slot.data ∉ [head.data] := fun same =>
          distinct.1 (List.mem_singleton.mp same ▸ List.mem_map_of_mem member)
        have here := judged slot member
        rw [Judged, first.isExpired other, first.status _ other, first.data _ other,
          first.table _ other] at here
        exact here

/-- The purge adds nothing to the table. -/
theorem purgeConns_subset (purged : slots.foldlM (purgeConn platform false) capture = .ok after) :
    after.pd.connections ⊆ capture.pd.connections := by
  induction slots generalizing capture with
  | nil =>
    cases purged
    exact List.Subset.refl _
  | cons head slots ih =>
    rw [List.foldlM_cons] at purged
    obtain ⟨next, visited, purged⟩ := exists_of_bind_eq_ok purged
    refine List.Subset.trans (ih purged) ?_
    rw [(purgeConn_removesIf platform visited).connections]
    grind

end Callbacks

/-! ## Timeouts -/

/-- The seconds after which an idle connection is to be removed. -/
def timeoutSec (tuple : FiveTuple) (status : ConnStatus) : Nat :=
  if tuple.ipproto = ipprotoTcp then
    if status.isClosed then tcpClosedTimeoutSec.toNat else tcpTimeoutSec.toNat
  else if tuple.ipproto = ipprotoUdp then udpTimeoutSec.toNat
  else icmpTimeoutSec.toNat

def timeoutMs (tuple : FiveTuple) (status : ConnStatus) : Nat := 1000 * timeoutSec tuple status

/-- The timeout of a TCP or UDP connection is the one that the code uses. -/
theorem connTimeout_toNat (status : ConnStatus)
    (proto : tuple.ipproto = ipprotoTcp ∨ tuple.ipproto = ipprotoUdp) :
    (connTimeout tuple status).toNat = timeoutMs tuple status := by
  unfold connTimeout timeoutMs timeoutSec
  rcases proto with tcp | udp
  · rw [tcp, if_pos (beq_self_eq_true _), if_pos rfl]
    cases status.isClosed with
    | true => rfl
    | false => rfl
  · rw [udp, if_neg (by decide), if_pos (beq_self_eq_true _), if_neg (by decide), if_pos rfl]
    rfl

theorem timeoutMs_bounds (tuple : FiveTuple) (status : ConnStatus) :
    0 < timeoutMs tuple status ∧ timeoutMs tuple status ≤ 1000 * tcpTimeoutSec.toNat := by
  unfold timeoutMs timeoutSec
  split_ifs <;> decide

/-- The clock is not about to overflow. -/
def Early (now : UInt64) : Prop := now.toNat + 1000 * tcpTimeoutSec.toNat < 2 ^ 64

instance (now : UInt64) : Decidable (Early now) :=
  inferInstanceAs (Decidable (now.toNat + 1000 * tcpTimeoutSec.toNat < 2 ^ 64))

/-- The comparison of `purge_expired_connections`. -/
theorem isExpired_iff {capture : Libpcap} {slot : ConnAndTuple}
    (proto : slot.tuple.ipproto = ipprotoTcp ∨ slot.tuple.ipproto = ipprotoUdp)
    (early : Early (capture.data slot.data).lastUpdateMs) :
    isExpired false capture slot = true ↔
      (capture.data slot.data).lastUpdateMs.toNat +
        timeoutMs slot.tuple (capture.pd.conn slot.data).status ≤ capture.pd.nowMs.toNat := by
  have bound := (timeoutMs_bounds slot.tuple (capture.pd.conn slot.data).status).2
  have sum : ((capture.data slot.data).lastUpdateMs +
      connTimeout slot.tuple (capture.pd.conn slot.data).status).toNat =
      (capture.data slot.data).lastUpdateMs.toNat +
        timeoutMs slot.tuple (capture.pd.conn slot.data).status := by
    rw [UInt64.toNat_add, connTimeout_toNat _ proto]
    apply Nat.mod_eq_of_lt
    unfold Early at early
    omega
  rw [isExpired, Bool.false_or, decide_eq_true_iff, UInt64.le_iff_toNat_le, sum]

/-! ## Runs of the loop -/

/-- The connection of the packet of an iteration. -/
def PcapIteration.conn (iteration : PcapIteration) (pd : Pcapdroid) : Option ConnId :=
  iteration.packet.bind (·.conn pd)

/-- The clock goes forward. -/
def Timely (loop : PcapLoop) : PcapLoopEvent → Prop
  | .iteration iteration => loop.nowMs ≤ iteration.now ∧ Early iteration.now
  | .control _ => True

/-- No packet of the connection comes. -/
def Quiet (id : ConnId) (loop : PcapLoop) : PcapLoopEvent → Prop
  | .iteration iteration => id ∉ iteration.conn loop.capture.pd
  | .control _ => True

/-- The timer of the loop. -/
structure Clocked (loop : PcapLoop) : Prop where
  owned : Owned [] loop.capture.pd
  early : Early loop.nowMs
  next : loop.nextPurgeMs.toNat ≤ loop.nowMs.toNat + periodicPurgeTimeoutMs.toNat

section Callbacks

variable {platform : Platform} {iteration : PcapIteration} {event : PcapLoopEvent} {loop : PcapLoop}

theorem receive_handled (owned : Owned [] capture.pd)
    (received : receive platform capture iteration = .ok after) :
    Owned [] after.pd ∧ Handled (iteration.conn capture.pd)
      (capture.setPd (pdRefreshTime capture.pd iteration.now)) after := by
  have refreshed : Owned [] (capture.setPd (pdRefreshTime capture.pd iteration.now)).pd :=
    owned.of_view rfl
  unfold receive at received
  unfold PcapIteration.conn
  cases found : iteration.packet with
  | none =>
    rw [found] at received
    cases received
    exact ⟨refreshed, .none (.refl _)⟩
  | some packet =>
    rw [found] at received
    obtain ⟨result, captured, kept⟩ := capturePacket_ok platform refreshed packet.hdr
      packet.buffer packet.parse packet.dumped
    cases captured.symm.trans received
    exact ⟨kept, capturePacket_handled captured⟩

/-- An iteration up to the timer. -/
theorem serve_handled (owned : Owned [] capture.pd)
    (served : serve platform capture iteration = .ok after) :
    Owned [] after.pd ∧ Handled (iteration.conn capture.pd)
      (capture.setPd (pdRefreshTime capture.pd iteration.now)) after := by
  unfold serve at served
  obtain ⟨next, received, served⟩ := exists_of_bind_eq_ok served
  obtain ⟨kept, touched, time⟩ := receive_handled owned received
  dsimp only [bind, Except.bind] at served
  split at served
  · cases served
    exact ⟨kept, touched, time⟩
  · rw [housekeeping_ok platform kept] at served
    cases served
    refine ⟨kept.pdHousekeeping platform iteration.exported, touched.trans (.setPd ?_ ?_), time⟩
    · exact pdHousekeeping_sameTimes platform iteration.exported next.pd
    · exact pdHousekeeping_connections platform iteration.exported next.pd

/-! ### The timer -/

theorem Clocked.serve {after : Libpcap} (clocked : Clocked loop)
    (timely : Timely loop (.iteration iteration))
    (served : serve platform loop.capture iteration = .ok after) :
    Clocked ⟨after, loop.nextPurgeMs⟩ ∧ after.pd.nowMs = iteration.now := by
  obtain ⟨owned, touched, _⟩ := serve_handled clocked.owned served
  have now : after.pd.nowMs = iteration.now := touched.nowMs
  have forward := UInt64.le_iff_toNat_le.mp timely.1
  have next := clocked.next
  refine ⟨⟨owned, ?_, ?_⟩, now⟩
  · show Early after.pd.nowMs
    rw [now]
    exact timely.2
  · show loop.nextPurgeMs.toNat ≤ after.pd.nowMs.toNat + _
    rw [now]
    omega

/-- What the end of an iteration does. -/
theorem purgeTimer_cases {loop after : PcapLoop} (clocked : Clocked loop)
    (ended : purgeTimer platform loop = .ok after) :
    (loop.nextPurgeMs ≤ loop.nowMs ∧ Owned [] after.capture.pd ∧ after.nowMs = loop.nowMs ∧
        after.nextPurgeMs.toNat = loop.nowMs.toNat + periodicPurgeTimeoutMs.toNat ∧
        after.table ⊆ loop.table ∧ ∀ slot ∈ loop.table, Judged slot loop.capture after.capture) ∨
      ¬ loop.nextPurgeMs ≤ loop.nowMs ∧ after = loop := by
  unfold purgeTimer at ended
  split at ended
  next due =>
    left
    obtain ⟨capture, purged, owned, _⟩ := purgeExpiredConnections_ok platform false clocked.owned
    obtain ⟨touched, judged⟩ := purgeConns_judged clocked.owned.custody.registered_nodup purged
    rw [purged] at ended
    cases ended
    refine ⟨due, owned, touched.nowMs, ?_, purgeConns_subset purged, judged⟩
    have early := clocked.early
    unfold Early at early
    have long : periodicPurgeTimeoutMs.toNat ≤ 1000 * tcpTimeoutSec.toNat := by decide
    show (capture.pd.nowMs + periodicPurgeTimeoutMs).toNat = _
    rw [touched.nowMs, UInt64.toNat_add]
    exact Nat.mod_eq_of_lt (by unfold PcapLoop.nowMs at early; omega)
  next waiting =>
    cases ended
    exact .inr ⟨waiting, rfl⟩

theorem Clocked.purgeTimer {loop after : PcapLoop} (clocked : Clocked loop)
    (ended : purgeTimer platform loop = .ok after) :
    Clocked after ∧ after.nowMs = loop.nowMs ∧ after.table ⊆ loop.table := by
  rcases purgeTimer_cases clocked ended with ⟨_, owned, now, next, table, _⟩ | ⟨_, rfl⟩
  · refine ⟨⟨owned, ?_, ?_⟩, now, table⟩
    · rw [now]
      exact clocked.early
    · rw [next, now]
  · grind

/-- What an iteration does. -/
theorem iterate_cases {loop after : PcapLoop}
    (iterated : iterate platform loop iteration = .ok after) :
    (loop.capture.pd.running = false ∧ after = loop) ∨
      ∃ capture, serve platform loop.capture iteration = .ok capture ∧
        ((iteration.isSkipped = true ∧ after = ⟨capture, loop.nextPurgeMs⟩) ∨
          (iteration.isSkipped = false ∧
            purgeTimer platform ⟨capture, loop.nextPurgeMs⟩ = .ok after)) := by
  unfold iterate at iterated
  cases running : loop.capture.pd.running with
  | false =>
    rw [running] at iterated
    cases iterated
    exact .inl ⟨rfl, rfl⟩
  | true =>
    rw [running, if_pos rfl] at iterated
    right
    obtain ⟨capture, served, iterated⟩ := exists_of_bind_eq_ok iterated
    refine ⟨capture, served, ?_⟩
    cases skipped : iteration.isSkipped with
    | true =>
      rw [skipped] at iterated
      cases iterated
      exact .inl ⟨rfl, rfl⟩
    | false =>
      rw [skipped] at iterated
      exact .inr ⟨rfl, iterated⟩

theorem Clocked.control (clocked : Clocked loop) (request : Control) :
    Clocked ⟨loop.capture.setPd (applyControl loop.capture.pd request), loop.nextPurgeMs⟩ := by
  have now : (applyControl loop.capture.pd request).nowMs = loop.nowMs :=
    (applyControl_sameTimes loop.capture.pd request).nowMs
  refine ⟨applyControl_owned clocked.owned request, ?_, ?_⟩
  · show Early (applyControl loop.capture.pd request).nowMs
    rw [now]
    exact clocked.early
  · show _ ≤ (applyControl loop.capture.pd request).nowMs.toNat + _
    rw [now]
    exact clocked.next

theorem Clocked.loopStep {loop after : PcapLoop} (clocked : Clocked loop)
    (timely : Timely loop event) (stepped : loopStep platform loop event = .ok after) :
    Clocked after := by
  cases event with
  | control request =>
    cases stepped
    exact clocked.control request
  | iteration iteration =>
    obtain ⟨_, rfl⟩ | ⟨capture, served, ended⟩ := iterate_cases stepped
    · exact clocked
    · have kept := (clocked.serve timely served).1
      obtain ⟨_, rfl⟩ | ⟨_, timer⟩ := ended
      · exact kept
      · exact (kept.purgeTimer timer).1

/-! ### An idle connection -/

/-- Since this time no packet of the connection has come. -/
structure IdleSince (slot : ConnAndTuple) (status : ConnStatus) (time : UInt64)
    (loop : PcapLoop) : Prop where
  clocked : Clocked loop
  since : time.toNat ≤ loop.nowMs.toNat
  lastUpdate : slot ∈ loop.table → (loop.capture.data slot.data).lastUpdateMs = time
  lastStatus : slot ∈ loop.table → (loop.capture.pd.conn slot.data).status = status
  next : slot ∈ loop.table → loop.nextPurgeMs.toNat <
    time.toNat + timeoutMs slot.tuple status + periodicPurgeTimeoutMs.toNat
  stays : loop.nowMs.toNat < time.toNat + timeoutMs slot.tuple status → slot ∈ loop.table

namespace IdleSince

variable {slot : ConnAndTuple} {status : ConnStatus} {time : UInt64} {loop after : PcapLoop}

section

variable (idle : IdleSince slot status time loop)
include idle

/-- The purge decides by the time of the last packet. -/
theorem isExpired_iff (proto : slot.tuple.ipproto = ipprotoTcp ∨ slot.tuple.ipproto = ipprotoUdp)
    (member : slot ∈ loop.table) : isExpired false loop.capture slot = true ↔
      time.toNat + timeoutMs slot.tuple status ≤ loop.nowMs.toNat := by
  have early : Early (loop.capture.data slot.data).lastUpdateMs := by
    have now := idle.clocked.early
    have since := idle.since
    rw [idle.lastUpdate member]
    unfold Early at now ⊢
    omega
  rw [Pcap.isExpired_iff proto early, idle.lastUpdate member, idle.lastStatus member]
  rfl

theorem serve {capture : Libpcap} (timely : Timely loop (.iteration iteration))
    (quiet : Quiet slot.data loop (.iteration iteration))
    (served : serve platform loop.capture iteration = .ok capture) :
    IdleSince slot status time ⟨capture, loop.nextPurgeMs⟩ := by
  obtain ⟨clocked, now⟩ := idle.clocked.serve timely served
  obtain ⟨_, touched, _⟩ := serve_handled idle.clocked.owned served
  have other : slot.data ∉ (iteration.conn loop.capture.pd).toList := fun member =>
    quiet (Option.mem_toList.mp member)
  have table : slot ∈ capture.pd.connections ↔ slot ∈ loop.table := touched.table slot other
  have forward := UInt64.le_iff_toNat_le.mp timely.1
  have since := idle.since
  refine ⟨clocked, ?_, fun member => ?_, fun member => ?_, fun member => ?_, fun early => ?_⟩
  · show _ ≤ capture.pd.nowMs.toNat
    rw [now]
    omega
  · exact (congrArg PcapData.lastUpdateMs (touched.data _ other)).trans
      (idle.lastUpdate (table.mp member))
  · exact (touched.status _ other).trans (idle.lastStatus (table.mp member))
  · exact idle.next (table.mp member)
  · refine table.mpr (idle.stays ?_)
    have late : capture.pd.nowMs.toNat < _ := early
    rw [now] at late
    omega

variable (proto : slot.tuple.ipproto = ipprotoTcp ∨ slot.tuple.ipproto = ipprotoUdp)
include proto

theorem purgeTimer (ended : purgeTimer platform loop = .ok after) :
    IdleSince slot status time after := by
  obtain ⟨clocked, now, table⟩ := idle.clocked.purgeTimer ended
  rcases purgeTimer_cases idle.clocked ended with ⟨_, _, _, next, _, judged⟩ | ⟨_, rfl⟩
  · -- a connection that stays in the table was not expired
    have active (member : slot ∈ after.table) :
        isExpired false loop.capture slot = false := by
      have here := judged slot (table member)
      cases expired : isExpired false loop.capture slot with
      | false => rfl
      | true =>
        rw [Judged, if_pos expired] at here
        exact absurd member here
    have kept (waits : isExpired false loop.capture slot = false) (member : slot ∈ loop.table) := by
      have here := judged slot member
      rw [Judged, if_neg (by grind)] at here
      exact here
    refine ⟨clocked, ?_, fun member => ?_, fun member => ?_, fun member => ?_, fun early => ?_⟩
    · rw [now]
      exact idle.since
    · exact (congrArg PcapData.lastUpdateMs (kept (active member) (table member)).2.1).trans
        (idle.lastUpdate (table member))
    · exact (kept (active member) (table member)).1.trans (idle.lastStatus (table member))
    · have waits : ¬ isExpired false loop.capture slot = true := by
        grind
      rw [idle.isExpired_iff proto (table member)] at waits
      rw [next]
      omega
    · rw [now] at early
      have member := idle.stays early
      have waits : isExpired false loop.capture slot = false := by
        rw [← Bool.not_eq_true, idle.isExpired_iff proto member]
        omega
      exact (kept waits member).2.2.mpr member
  · exact idle

theorem loopStep (timely : Timely loop event) (quiet : Quiet slot.data loop event)
    (stepped : loopStep platform loop event = .ok after) : IdleSince slot status time after := by
  cases event with
  | control request =>
    cases stepped
    have times := applyControl_sameTimes loop.capture.pd request
    have table : (applyControl loop.capture.pd request).connections = loop.table :=
      (applyControl_view loop.capture.pd request).1
    have member : slot ∈ (applyControl loop.capture.pd request).connections ↔
        slot ∈ loop.table := by rw [table]
    refine ⟨idle.clocked.control request, ?_, fun inside => ?_, fun inside => ?_,
      fun inside => ?_, fun early => ?_⟩
    · exact le_of_le_of_eq idle.since (congrArg UInt64.toNat times.nowMs.symm)
    · exact idle.lastUpdate (member.mp inside)
    · exact (times.status slot.data).trans (idle.lastStatus (member.mp inside))
    · exact idle.next (member.mp inside)
    · exact member.mpr (idle.stays (lt_of_eq_of_lt (congrArg UInt64.toNat times.nowMs.symm) early))
  | iteration iteration =>
    obtain ⟨_, rfl⟩ | ⟨capture, served, ended⟩ := iterate_cases stepped
    · exact idle
    · have kept := idle.serve timely quiet served
      obtain ⟨_, rfl⟩ | ⟨_, timer⟩ := ended
      · exact kept
      · exact kept.purgeTimer proto timer

end

/-- The iteration that handles the last packet. -/
theorem start (clocked : Clocked loop)
    (proto : slot.tuple.ipproto = ipprotoTcp ∨ slot.tuple.ipproto = ipprotoUdp)
    (timely : Timely loop (.iteration iteration)) (running : loop.capture.pd.running = true)
    (handled : slot.data ∈ iteration.conn loop.capture.pd)
    (iterated : iterate platform loop iteration = .ok after) (member : slot ∈ after.table) :
    IdleSince slot (after.capture.pd.conn slot.data).status iteration.now after := by
  obtain ⟨stopped, _⟩ | ⟨capture, served, ended⟩ := iterate_cases iterated
  · grind
  · obtain ⟨kept, now⟩ := clocked.serve timely served
    obtain ⟨_, _, time⟩ := serve_handled clocked.owned served
    have forward := UInt64.le_iff_toNat_le.mp timely.1
    have positive := (timeoutMs_bounds slot.tuple (capture.pd.conn slot.data).status).1
    have idle (inside : slot ∈ capture.pd.connections) :
        IdleSince slot (capture.pd.conn slot.data).status iteration.now
          ⟨capture, loop.nextPurgeMs⟩ := by
      have next := clocked.next
      refine ⟨kept, (congrArg UInt64.toNat now).symm.le, fun _ => time _ handled, fun _ => rfl,
        fun _ => ?_, fun _ => inside⟩
      grind
    obtain ⟨_, rfl⟩ | ⟨_, timer⟩ := ended
    · exact idle member
    · have inside := (kept.purgeTimer timer).2.2 member
      have final := (idle inside).purgeTimer proto timer
      rw [final.lastStatus member]
      exact final

end IdleSince

/-! ### Steps succeed -/

theorem serve_ok {capture : Libpcap} (owned : Owned [] capture.pd) (iteration : PcapIteration) :
    ∃ after, serve platform capture iteration = .ok after := by
  have refreshed : Owned [] (capture.setPd (pdRefreshTime capture.pd iteration.now)).pd :=
    owned.of_view rfl
  have received : ∃ next, receive platform capture iteration = .ok next := by
    unfold receive
    cases iteration.packet with
    | none => exact ⟨_, rfl⟩
    | some packet =>
      obtain ⟨next, captured, _⟩ := capturePacket_ok platform refreshed packet.hdr packet.buffer
        packet.parse packet.dumped
      exact ⟨next, captured⟩
  obtain ⟨next, received⟩ := received
  obtain ⟨kept, _⟩ := receive_handled owned received
  unfold serve
  rw [received]
  dsimp only [bind, Except.bind]
  split
  · exact ⟨_, rfl⟩
  · rw [housekeeping_ok platform kept]
    exact ⟨_, rfl⟩

theorem purgeTimer_ok (clocked : Clocked loop) : ∃ after, purgeTimer platform loop = .ok after := by
  unfold purgeTimer
  split
  · obtain ⟨capture, purged, _⟩ := purgeExpiredConnections_ok platform false clocked.owned
    rw [purged]
    exact ⟨_, rfl⟩
  · exact ⟨_, rfl⟩

namespace IdleSince

variable {slot : ConnAndTuple} {status : ConnStatus} {time : UInt64} {loop : PcapLoop}

variable (idle : IdleSince slot status time loop)
include idle

variable (proto : slot.tuple.ipproto = ipprotoTcp ∨ slot.tuple.ipproto = ipprotoUdp)
include proto

/-- `purge_expired_connections` removes the connection just when its timeout is over. -/
theorem purge_iff (member : slot ∈ loop.table) :
    ∃ purged, purgeExpiredConnections platform false loop.capture = .ok purged ∧
      (slot ∉ purged.pd.connections ↔
        time.toNat + timeoutMs slot.tuple status ≤ loop.nowMs.toNat) := by
  obtain ⟨purged, result, _⟩ := purgeExpiredConnections_ok platform false idle.clocked.owned
  refine ⟨purged, result, ?_⟩
  have judged := (purgeConns_judged idle.clocked.owned.custody.registered_nodup result).2 slot member
  rw [← idle.isExpired_iff proto member]
  rw [Judged] at judged
  split at judged
  next expired => exact iff_of_true judged expired
  next active => exact iff_of_false (fun gone => gone (judged.2.2.mpr member)) active

/-- The timer has fired when a purge period has gone by behind the timeout. -/
theorem purged_in_time (timely : Timely loop (.iteration iteration))
    (quiet : Quiet slot.data loop (.iteration iteration)) (running : loop.capture.pd.running = true)
    (served : iteration.isSkipped = false)
    (late : time.toNat + timeoutMs slot.tuple status + periodicPurgeTimeoutMs.toNat ≤
      iteration.now.toNat) :
    ∃ after, iterate platform loop iteration = .ok after ∧ slot ∉ after.table := by
  obtain ⟨capture, result⟩ := serve_ok idle.clocked.owned iteration
  have kept := idle.serve timely quiet result
  have now : capture.pd.nowMs = iteration.now := (idle.clocked.serve timely result).2
  obtain ⟨after, timer⟩ := purgeTimer_ok kept.clocked
  refine ⟨after, ?_, fun member => ?_⟩
  · rw [iterate, running, if_pos rfl, result]
    dsimp only [bind, Except.bind]
    rw [served, if_neg Bool.false_ne_true]
    exact timer
  · have inside := (kept.clocked.purgeTimer timer).2.2 member
    have next : loop.nextPurgeMs.toNat < _ := kept.next inside
    have clock : capture.pd.nowMs.toNat = iteration.now.toNat := by rw [now]
    rcases purgeTimer_cases kept.clocked timer with ⟨_, _, _, _, _, judged⟩ | ⟨waiting, _⟩
    · have here := judged slot inside
      have expired : isExpired false capture slot = true := by
        refine (kept.isExpired_iff proto inside).mpr ?_
        show _ ≤ capture.pd.nowMs.toNat
        omega
      rw [Judged, if_pos expired] at here
      exact here member
    · refine waiting (UInt64.le_iff_toNat_le.mpr ?_)
      show loop.nextPurgeMs.toNat ≤ capture.pd.nowMs.toNat
      omega

end IdleSince

variable (platform)

/-- The steps of the loop that cause no memory error. -/
def loopStep? (loop : PcapLoop) (event : PcapLoopEvent) : Option PcapLoop :=
  (loopStep platform loop event).toOption

theorem loopStep_of_some {loop after : PcapLoop} {event : PcapLoopEvent}
    (stepped : loopStep? platform loop event = some after) :
    loopStep platform loop event = .ok after := by
  unfold loopStep? at stepped
  cases result : loopStep platform loop event with
  | error error =>
    rw [result] at stepped
    cases stepped
  | ok next =>
    rw [result] at stepped
    cases stepped
    rfl

theorem startLoop_clocked (config : Pcapdroid) (pcapFileCapture : Bool) {start : UInt64}
    (early : Early start) : Clocked (startLoop config pcapFileCapture start) := by
  refine ⟨(startCapture_owned config pcapFileCapture).of_view rfl, early, ?_⟩
  have sum := Nat.mod_le (start.toNat + periodicPurgeTimeoutMs.toNat) (2 ^ 64)
  rw [← UInt64.toNat_add] at sum
  exact sum

/-- A TCP or UDP connection lives for the timeout of its protocol.  The iteration at
`iteration.now` handles its last packet.  From then on `purge_expired_connections` removes it
just when the timeout is over, it stays in the table until then, and it is gone at the end of
any iteration, with a valid packet or none, that comes one purge period later. -/
theorem idle_connections_are_purged {config : Pcapdroid} {pcapFileCapture : Bool}
    {start : UInt64} (early : Early start) {events rest : List PcapLoopEvent}
    {before active now : PcapLoop}
    (ran : Path (loopStep? platform) Timely (startLoop config pcapFileCapture start) events before)
    {iteration : PcapIteration} (timely : Timely before (.iteration iteration))
    (running : before.capture.pd.running = true)
    (iterated : iterate platform before iteration = .ok active)
    {slot : ConnAndTuple} (handled : slot.data ∈ iteration.conn before.capture.pd)
    (member : slot ∈ active.table)
    (proto : slot.tuple.ipproto = ipprotoTcp ∨ slot.tuple.ipproto = ipprotoUdp)
    (waited : Path (loopStep? platform)
      (fun loop event => Timely loop event ∧ Quiet slot.data loop event) active rest now) :
    let deadline := iteration.now.toNat +
      timeoutMs slot.tuple (active.capture.pd.conn slot.data).status
    (∀ next served, Timely now (.iteration next) → Quiet slot.data now (.iteration next) →
      serve platform now.capture next = .ok served → slot ∈ served.pd.connections →
      ∃ purged, purgeExpiredConnections platform false served = .ok purged ∧
        (slot ∉ purged.pd.connections ↔ deadline ≤ next.now.toNat)) ∧
    (now.nowMs.toNat < deadline → slot ∈ now.table) ∧
    (∀ next, Timely now (.iteration next) → Quiet slot.data now (.iteration next) →
      now.capture.pd.running = true → next.isSkipped = false →
      deadline + periodicPurgeTimeoutMs.toNat ≤ next.now.toNat →
      ∃ after, iterate platform now next = .ok after ∧ slot ∉ after.table) := by
  have clocked : Clocked before := ran.invariant
    (fun kept guard stepped => kept.loopStep guard (loopStep_of_some platform stepped))
    (startLoop_clocked config pcapFileCapture early)
  have idle := waited.invariant
    (fun kept guard stepped => IdleSince.loopStep kept proto guard.1 guard.2
      (loopStep_of_some platform stepped))
    (IdleSince.start clocked proto timely running handled iterated member)
  refine ⟨?_, idle.stays, ?_⟩
  · intro next served timely quiet result inside
    have kept := idle.serve timely quiet result
    have clock : served.pd.nowMs = next.now := (idle.clocked.serve timely result).2
    obtain ⟨purged, succeeded, removed⟩ := @IdleSince.purge_iff platform _ _ _ _ kept proto inside
    rw [PcapLoop.nowMs, clock] at removed
    exact ⟨purged, succeeded, removed⟩
  · intro next timely quiet running valid late
    exact idle.purged_in_time proto timely quiet running valid late

end Callbacks

/-- A packet of a connection, as pcapd sends it. -/
def plainPacket (tuple : FiveTuple) : PcapdPacket where
  hdr := ⟨0, uidUnknown32, .raw, true⟩
  buffer := []
  parse _ := some ⟨⟨tuple, false, false, false, false, [], []⟩, 0⟩
  dumped := true

def udpTuple : FiveTuple := ⟨0x0200000a, 0x08080808, 0x3930, ntohs 123, 4, ipprotoUdp⟩

def icmpTuple : FiveTuple := ⟨0x0200000a, 0x08080808, 7, 0, 4, ipprotoIcmp⟩

/-- An iteration at this time. -/
def iterationAt (now : UInt64) (packet : Option PcapdPacket) : PcapIteration := ⟨now, packet, false⟩

/-- A UDP connection whose only packet comes after one second is gone 35 seconds later. -/
theorem udp_connection_is_purged :
    ∃ active, iterate .inert (startLoop .initial false 0)
        (iterationAt 1000 (some (plainPacket udpTuple))) = .ok active ∧
      ⟨udpTuple, 0⟩ ∈ active.table ∧
      ∃ after, iterate .inert active (iterationAt 36000 none) = .ok after ∧
        ⟨udpTuple, 0⟩ ∉ after.table := by
  have evaluated : ((iterate .inert (startLoop .initial false 0)
      (iterationAt 1000 (some (plainPacket udpTuple)))).toOption.map fun loop =>
        (loop.table, loop.capture.pd.running, loop.nowMs)) =
      some ([⟨udpTuple, 0⟩], true, 1000) := by
    decide +kernel
  obtain ⟨active, result, seen⟩ := Option.map_eq_some_iff.mp evaluated
  obtain ⟨table, rest⟩ := Prod.mk.inj seen
  obtain ⟨running, now⟩ := Prod.mk.inj rest
  have iterated : iterate .inert (startLoop .initial false 0)
      (iterationAt 1000 (some (plainPacket udpTuple))) = .ok active :=
    @loopStep_of_some .inert _ _ (.iteration _) result
  have member : ⟨udpTuple, 0⟩ ∈ active.table := by
    rw [table]
    exact List.mem_singleton_self _
  have timely : Timely active (.iteration (iterationAt 36000 none)) := by
    refine ⟨?_, by decide⟩
    rw [now]
    decide
  have timeout (status : ConnStatus) : timeoutMs udpTuple status = 30000 := by
    unfold timeoutMs timeoutSec
    rw [if_neg (by decide)]
    decide
  refine ⟨active, iterated, member, ?_⟩
  refine (idle_connections_are_purged .inert (by decide) (.done _) ⟨by decide, by decide⟩ rfl
    iterated rfl member (.inr rfl) (.done _)).2.2 _ timely ?_ running rfl ?_
  · exact fun absurd => nomatch absurd
  · rw [timeout]
    decide

/-- An ICMP connection leaves the table about a second after its packet, four seconds early.  A
packet with an unknown datalink keeps a UDP connection in the table, although its timeout and a
purge period are over. -/
theorem idle_connections_leave_early_or_late :
    (timeoutMs icmpTuple .connected = 5000 ∧
      ((do
        let loop ← iterate .inert (startLoop .initial false 0)
          (iterationAt 4000 (some (plainPacket icmpTuple)))
        iterate .inert loop (iterationAt 5005 none)).toOption.map PcapLoop.table) = some []) ∧
    (timeoutMs udpTuple .connected = 30000 ∧
      ((do
        let loop ← iterate .inert (startLoop .initial false 0)
          (iterationAt 1000 (some (plainPacket udpTuple)))
        iterate .inert loop (iterationAt 90000 (some { plainPacket udpTuple with
          hdr := ⟨0, uidUnknown32, .other 7, true⟩ }))).toOption.map PcapLoop.table) =
        some [⟨udpTuple, 0⟩]) := by
  decide +kernel

end PcapdroidFormal.Pcap
