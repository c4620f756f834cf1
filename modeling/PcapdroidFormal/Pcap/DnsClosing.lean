import Mathlib.Data.Nat.Bitwise
import PcapdroidFormal.Foundation.Runs
import PcapdroidFormal.Pcap.PacketLoop

/-!
# DNS connections of the root capture

`update_connection_status` closes a DNS connection as soon as all its queries are answered.  It
counts the queries in a byte of the connection, and tells queries from responses by a bit of
the flags that it reads without `ntohs`: on a little-endian machine that is not the QR bit but
the RA bit.
-/

namespace PcapdroidFormal.Pcap

open PcapdroidFormal.Core Foundation
open Vpn (dnsFlags dnsFlagsMask)

/-! ## Queries and responses -/

/-- The flags of a DNS header, in network order. -/
def headerFlags (l7 : Bytes) : Nat := Bytes.ofBigEndian ((l7.drop 2).take 2)

/-- The QR bit: responses have it. -/
def isResponse (l7 : Bytes) : Bool := decide (headerFlags l7 &&& 0x8000 ≠ 0)

/-- The RA bit: the server answers recursive queries. -/
def recursionAvailable (l7 : Bytes) : Bool := decide (headerFlags l7 &&& 0x0080 ≠ 0)

/-- The queries of a connection that wait for a response. -/
structure DnsLedger where
  outstanding : Nat
  answered : Bool
  deriving DecidableEq, Repr

namespace DnsLedger

def empty : DnsLedger := ⟨0, false⟩

/-- A response answers one query, if there is one.  All is over when the last one is
answered. -/
def step (ledger : DnsLedger) (packet : ParsedPkt × Bool) : DnsLedger :=
  if ledger.answered then ledger
  else if isResponse packet.1.pkt.l7 then
    if ledger.outstanding = 0 then ledger
    else ⟨ledger.outstanding - 1, ledger.outstanding - 1 == 0⟩
  else ⟨ledger.outstanding + 1, false⟩

/-- A packet with a whole DNS header, and no more queries than the byte can count. -/
structure Regular (ledger : DnsLedger) (packet : ParsedPkt × Bool) : Prop where
  whole : packet.1.pkt.isFragment = false
  header : sizeofDnsPacket ≤ packet.1.pkt.l7.length
  few : isResponse packet.1.pkt.l7 = false → ledger.outstanding < 255

/-- The RA bit is set in the responses and only there, and no response comes without a query. -/
structure Counted (ledger : DnsLedger) (packet : ParsedPkt × Bool) : Prop where
  flags : recursionAvailable packet.1.pkt.l7 = isResponse packet.1.pkt.l7
  asked : isResponse packet.1.pkt.l7 = true → 0 < ledger.outstanding

/-- What is asked of the packets until the last response. -/
def Guard (ledger : DnsLedger) (packet : ParsedPkt × Bool) : Prop :=
  ledger.answered = true ∨ (ledger.Regular packet ∧ ledger.Counted packet)

end DnsLedger

/-! ## The bit that is tested -/

theorem and_two_pow_ne_zero (value bit : Nat) :
    value &&& 2 ^ bit ≠ 0 ↔ value / 2 ^ bit % 2 = 1 := by
  rw [Nat.and_two_pow, Nat.testBit_eq_decide_div_mod_eq]
  grind

/-- The code takes the packets with the RA bit for responses. -/
theorem dnsFlags_and_mask {l7 : Bytes} (header : sizeofDnsPacket ≤ l7.length) :
    dnsFlags l7 &&& dnsFlagsMask = 0 ↔ recursionAvailable l7 = false := by
  obtain ⟨second, third, flags⟩ : ∃ second third, (l7.drop 2).take 2 = [second, third] := by
    have length : ((l7.drop 2).take 2).length = 2 := by
      have twelve : sizeofDnsPacket = 12 := rfl
      grind
    exact List.length_eq_two.mp length
  have secondBound := second.toNat_lt
  have thirdBound := third.toNat_lt
  have raw : dnsFlags l7 = second.toNat + 256 * third.toNat := by
    rw [dnsFlags, flags]
    rfl
  have swapped : headerFlags l7 = third.toNat + 256 * second.toNat := by
    rw [headerFlags, flags]
    rfl
  have code := and_two_pow_ne_zero (dnsFlags l7) 15
  have bit := and_two_pow_ne_zero (headerFlags l7) 7
  have same : dnsFlags l7 / 2 ^ 15 % 2 = 1 ↔ headerFlags l7 / 2 ^ 7 % 2 = 1 := by
    have high : dnsFlags l7 / 2 ^ 15 = third.toNat / 128 := by
      grind
    have low : headerFlags l7 / 2 ^ 7 % 2 = third.toNat / 128 % 2 := by
      have even : 256 * second.toNat = 128 * (2 * second.toNat) := by omega
      rw [swapped, show (2 : Nat) ^ 7 = 128 from rfl, even, Nat.add_mul_div_left _ _ (by decide),
        Nat.add_mul_mod_self_left]
    rw [high, low]
  rw [recursionAvailable, decide_eq_false_iff_not, not_not, ← not_iff_not]
  exact code.trans (same.trans bit.symm)

/-! ## The connection -/

/-- The connection is in the table, with its queries counted. -/
structure CountsQueries (capture : Libpcap) (slot : ConnAndTuple) (outstanding : Nat) : Prop where
  isOpen : (capture.pd.conn slot.data).status.isClosed = false
  kept : (capture.pd.conn slot.data).toPurge = false
  inTable : slot ∈ capture.pd.connections
  counted : (capture.data slot.data).ackOrQueries.toNat = outstanding

structure Removed (capture : Libpcap) (slot : ConnAndTuple) : Prop where
  isClosed : (capture.pd.conn slot.data).status = .closed
  toPurge : (capture.pd.conn slot.data).toPurge = true
  notInTable : ∀ other ∈ capture.pd.connections, other.data ≠ slot.data

/-- The connection is as the ledger says. -/
def Follows (capture : Libpcap) (slot : ConnAndTuple) (ledger : DnsLedger) : Prop :=
  if ledger.answered then Removed capture slot
  else CountsQueries capture slot ledger.outstanding

section Steps

variable {capture : Libpcap} {slot : ConnAndTuple} {packet : ParsedPkt × Bool} {outstanding : Nat}

/-- Closed connections do not change. -/
theorem seePacket_removed (removed : Removed capture slot) :
    seePacket slot capture packet = capture := by
  have closed : (capture.pd.conn slot.data).status.isClosed = true := by
    rw [removed.isClosed]
    rfl
  unfold seePacket updateConnectionStatus
  grind

section

variable (counts : CountsQueries capture slot outstanding)
include counts

/-- A packet of an open connection is counted. -/
theorem seePacket_counted (udp : slot.tuple.ipproto = ipprotoUdp)
    (port : slot.tuple.dstPort = ntohs 53) (whole : packet.1.pkt.isFragment = false)
    (header : sizeofDnsPacket ≤ packet.1.pkt.l7.length) : seePacket slot capture packet =
      let opened := capture.setStatus slot.data .connected
      let counted := (capture.data slot.data).countDnsQuery packet.1.pkt
      let updated := opened.setData slot.data counted.1
      if counted.2 then
        (updated.setPd (updated.pd.setConn slot.data
          ((updated.pd.conn slot.data).close .closed))).removeConnection slot
      else updated := by
  have notTcp : (slot.tuple.ipproto == ipprotoTcp) = false := by
    rw [udp]
    rfl
  have isDns : isDnsPacket slot.tuple packet.1.pkt = true := by
    rw [isDnsPacket, udp, port, decide_eq_true header]
    rfl
  unfold seePacket updateConnectionStatus
  dsimp only
  rw [counts.isOpen, whole, Bool.or_false, if_neg Bool.false_ne_true, notTcp,
    if_neg Bool.false_ne_true, isDns, if_pos rfl]

/-- The connection before the count is looked at. -/
theorem CountsQueries.update {after : Nat} {data : PcapData}
    (count : data.ackOrQueries.toNat = after) :
    CountsQueries ((capture.setStatus slot.data .connected).setData slot.data data) slot after := by
  have conn : ((capture.setStatus slot.data .connected).setData slot.data data).pd.conn slot.data =
      { capture.pd.conn slot.data with status := .connected } :=
    capture.pd.setConn_conn_self slot.data _
  have stored : ((capture.setStatus slot.data .connected).setData slot.data data).data slot.data =
      data := if_pos rfl
  refine ⟨?_, ?_, counts.inTable, ?_⟩
  · rw [conn]
    rfl
  · rw [conn]
    exact counts.kept
  · rw [stored, count]

variable (udp : slot.tuple.ipproto = ipprotoUdp)
include udp

variable (port : slot.tuple.dstPort = ntohs 53)
include port

variable (whole : packet.1.pkt.isFragment = false)
include whole

variable (header : sizeofDnsPacket ≤ packet.1.pkt.l7.length)
include header

/-- A query is counted. -/
theorem seePacket_query (query : recursionAvailable packet.1.pkt.l7 = false)
    (few : outstanding < 255) :
    CountsQueries (seePacket slot capture packet) slot (outstanding + 1) := by
  have flags := (dnsFlags_and_mask header).mpr query
  have count : ((capture.data slot.data).ackOrQueries + 1).toNat = outstanding + 1 := by
    rw [UInt8.toNat_add, counts.counted]
    grind
  rw [seePacket_counted counts udp port whole header, PcapData.countDnsQuery, if_pos flags]
  exact counts.update count

/-- A response ends the wait for one query, or the connection. -/
theorem seePacket_response (response : recursionAvailable packet.1.pkt.l7 = true)
    (asked : 0 < outstanding) :
    if outstanding - 1 = 0 then Removed (seePacket slot capture packet) slot
    else CountsQueries (seePacket slot capture packet) slot (outstanding - 1) := by
  have flags : ¬ dnsFlags packet.1.pkt.l7 &&& dnsFlagsMask = 0 := fun query =>
    absurd ((dnsFlags_and_mask header).mp query) (by rw [response]; decide)
  have count : ((capture.data slot.data).ackOrQueries - 1).toNat = outstanding - 1 := by
    have bound := (capture.data slot.data).ackOrQueries.toNat_lt
    rw [counts.counted] at bound
    rw [UInt8.toNat_sub, counts.counted]
    grind
  have last : ((capture.data slot.data).ackOrQueries - 1 == 0) = decide (outstanding - 1 = 0) := by
    rw [Bool.eq_iff_iff, beq_iff_eq, decide_eq_true_iff, ← count, ← UInt8.toNat_inj]
    rfl
  rw [seePacket_counted counts udp port whole header, PcapData.countDnsQuery, if_neg flags]
  dsimp only
  rw [last]
  by_cases zero : outstanding - 1 = 0
  · rw [if_pos zero, decide_eq_true zero, if_pos rfl]
    generalize (capture.setStatus slot.data .connected).setData slot.data
      { capture.data slot.data with ackOrQueries := (capture.data slot.data).ackOrQueries - 1 } =
        updated
    have conn : ((updated.pd.setConn slot.data
        ((updated.pd.conn slot.data).close .closed)).deactivate slot.data).conn slot.data =
          (updated.pd.conn slot.data).close .closed :=
      updated.pd.setConn_conn_self slot.data _
    refine ⟨congrArg Conn.status conn, congrArg Conn.toPurge conn, ?_⟩
    intro other member same
    have kept := (List.mem_filter.mp member).2
    grind
  · rw [if_neg zero, decide_eq_false zero, if_neg Bool.false_ne_true]
    exact counts.update count

end

/-- A packet that is counted right. -/
theorem Follows.seePacket {ledger : DnsLedger} (follows : Follows capture slot ledger)
    (udp : slot.tuple.ipproto = ipprotoUdp) (port : slot.tuple.dstPort = ntohs 53)
    (guard : ledger.Guard packet) :
    Follows (seePacket slot capture packet) slot (ledger.step packet) := by
  unfold Follows at follows ⊢
  rcases guard with answered | ⟨regular, counted⟩
  · rw [if_pos answered] at follows
    rw [DnsLedger.step, if_pos answered, if_pos answered, seePacket_removed follows]
    exact follows
  · cases answered : ledger.answered with
    | true =>
      rw [if_pos answered] at follows
      rw [DnsLedger.step, if_pos answered, if_pos answered, seePacket_removed follows]
      exact follows
    | false =>
      rw [answered, if_neg Bool.false_ne_true] at follows
      rw [DnsLedger.step, answered, if_neg Bool.false_ne_true]
      cases response : isResponse packet.1.pkt.l7 with
      | true =>
        have asked := counted.asked response
        have after := seePacket_response follows udp port regular.whole regular.header
          (counted.flags.trans response) asked
        grind
      | false =>
        rw [if_neg Bool.false_ne_true, if_neg Bool.false_ne_true]
        exact seePacket_query follows udp port regular.whole regular.header
          (counted.flags.trans response) (regular.few response)

end Steps

/-- While the packets are counted right, the connection is closed, marked to be purged and
removed from the table just with the response that answers the last query. -/
theorem dns_connection_is_closed {capture : Libpcap} {slot : ConnAndTuple}
    (udp : slot.tuple.ipproto = ipprotoUdp) (port : slot.tuple.dstPort = ntohs 53)
    (fresh : CountsQueries capture slot 0) {packets : List (ParsedPkt × Bool)}
    (guarded : Guarded DnsLedger.step DnsLedger.Guard .empty packets) :
    ∀ first second, packets = first ++ second →
      if (run DnsLedger.step .empty first).answered then
        Removed (run (seePacket slot) capture first) slot
      else
        CountsQueries (run (seePacket slot) capture first) slot
          (run DnsLedger.step .empty first).outstanding := by
  intro first second split
  rw [split] at guarded
  have kept := guarded.of_append
  have start : Follows capture slot .empty := fresh
  clear split guarded second fresh
  show Follows _ slot _
  generalize DnsLedger.empty = ledger at start kept ⊢
  -- The ledger and the connection take their steps together.
  induction first generalizing capture ledger with
  | nil => exact start
  | cons packet first ih =>
    obtain ⟨guard, rest⟩ := kept
    exact ih _ (start.seePacket udp port guard) rest

/-- A connection to port 53, in an otherwise empty table. -/
def resolverSlot : ConnAndTuple :=
  ⟨⟨0x0200000a, 0x08080808, 0x3930, ntohs 53, 4, ipprotoUdp⟩, 0⟩

def resolverCapture : Libpcap :=
  ⟨Pcapdroid.initial.activate resolverSlot, fun _ => .zeroed, false, false, .zeroed, []⟩

/-- A DNS header with these flags. -/
def dnsPacket (high low : UInt8) (isTx : Bool) : ParsedPkt × Bool :=
  (⟨⟨resolverSlot.tuple, false, false, false, false, [], [0, 7, high, low, 0, 1, 0, 0, 0, 0, 0, 0]⟩,
    0⟩, isTx)

/-- Two queries and their responses, by a recursive resolver. -/
def resolverPackets : List (ParsedPkt × Bool) :=
  [dnsPacket 0x01 0x00 true, dnsPacket 0x01 0x00 true, dnsPacket 0x81 0x80 false,
    dnsPacket 0x81 0x80 false]

theorem resolver_connection_is_closed :
    Guarded DnsLedger.step DnsLedger.Guard .empty resolverPackets ∧
      Removed (run (seePacket resolverSlot) resolverCapture resolverPackets) resolverSlot := by
  have fresh : CountsQueries resolverCapture resolverSlot 0 :=
    ⟨rfl, rfl, List.mem_singleton_self _, rfl⟩
  have guarded : Guarded DnsLedger.step DnsLedger.Guard .empty resolverPackets := by
    refine ⟨Or.inr ⟨⟨rfl, by decide, by decide⟩, ⟨by decide, by decide⟩⟩,
      Or.inr ⟨⟨rfl, by decide, by decide⟩, ⟨by decide, by decide⟩⟩,
      Or.inr ⟨⟨rfl, by decide, by decide⟩, ⟨by decide, by decide⟩⟩,
      Or.inr ⟨⟨rfl, by decide, by decide⟩, ⟨by decide, by decide⟩⟩, trivial⟩
  exact ⟨guarded, dns_connection_is_closed rfl rfl fresh guarded resolverPackets [] rfl⟩

/-- The response of a server that is not recursive is counted as a query, and a response without
a query wraps the count. -/
theorem dns_connection_stays_open :
    ((run DnsLedger.step .empty [dnsPacket 0x01 0x00 true, dnsPacket 0x84 0x00 false]).answered =
        true ∧
      ((run (seePacket resolverSlot) resolverCapture
        [dnsPacket 0x01 0x00 true, dnsPacket 0x84 0x00 false]).pd.conn 0).status = .connected) ∧
    ((run DnsLedger.step .empty [dnsPacket 0x81 0x80 false, dnsPacket 0x01 0x00 true,
        dnsPacket 0x81 0x80 false]).answered = true ∧
      ((run (seePacket resolverSlot) resolverCapture [dnsPacket 0x81 0x80 false,
        dnsPacket 0x01 0x00 true, dnsPacket 0x81 0x80 false]).pd.conn 0).status = .connected) := by
  decide +kernel

end PcapdroidFormal.Pcap
