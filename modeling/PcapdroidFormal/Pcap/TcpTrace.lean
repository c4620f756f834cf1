import Mathlib.Data.Nat.Bitwise
import PcapdroidFormal.Foundation.Runs
import PcapdroidFormal.Pcap.PacketLoop

/-!
# The status of TCP connections

`update_connection_status` keeps the flags that each direction has carried, and a byte that
says that both peers have sent FIN.  Here is the status that the whole sequence of packets
stands for, and the proof that the code computes it packet by packet.
-/

namespace PcapdroidFormal.Pcap

open PcapdroidFormal.Core Foundation

variable {bound bit : Nat} {data : PcapData} {flag : UInt8} {slot : ConnAndTuple}
  {packet : ParsedPkt × Bool}

/-! ## The status of a sequence -/

section Trace

variable (packets : List (ParsedPkt × Bool))

def hasFlag (flag : UInt8) (packet : ParsedPkt × Bool) : Bool := packet.1.thFlags &&& flag != 0

def carried (isTx : Bool) (flag : UInt8) : Bool :=
  packets.any fun packet => packet.2 == isTx && hasFlag flag packet

def bothCarried (flag : UInt8) : Bool := carried packets true flag && carried packets false flag

def firstIndex (bound : Nat) (property : Nat → Bool) : Nat := (List.range bound).findIdx property

/-- The first packet with RST; here and below the length stands for a packet that never comes. -/
def firstReset : Nat :=
  firstIndex packets.length fun index => packets[index]?.any (hasFlag thRst)

/-- The first packet by which both directions have carried FIN. -/
def lastFin : Nat :=
  firstIndex packets.length fun index => bothCarried (packets.take (index + 1)) thFin

/-- The first packet with ACK behind it. -/
def lastAck : Nat :=
  firstIndex packets.length fun index =>
    decide (lastFin packets < index) && packets[index]?.any (hasFlag thAck)

/-- A packet with payload, or the end of the handshake. -/
def establishes (index : Nat) : Bool :=
  packets[index]?.any (fun packet => !packet.1.pkt.l7.isEmpty) ||
    (bothCarried (packets.take (index + 1)) thSyn && bothCarried (packets.take (index + 1)) thAck)

/-- The connection was established before both peers have sent FIN. -/
def established : Bool := (List.range (lastFin packets)).any (establishes packets)

/-- The status after a sequence of packets. -/
def traceStatus : ConnStatus :=
  if firstReset packets < packets.length ∧ firstReset packets ≤ lastAck packets then .reset
  else if lastAck packets < packets.length ∧ lastAck packets < firstReset packets then .closed
  else if established packets then .connected
  else .connecting

end Trace

def statusValue : ConnStatus → Nat
  | .new => 0
  | .connecting => 1
  | .connected => 2
  | .closed => 3
  | .error => 4
  | .socketError => 5
  | .clientError => 6
  | .reset => 7
  | .unreachable => 8
  | .socks5Error => 9

/-! ## Indices -/

theorem firstIndex_le (bound : Nat) (property : Nat → Bool) : firstIndex bound property ≤ bound := by
  have length := @List.findIdx_le_length _ property (List.range bound)
  rwa [List.length_range] at length

/-- One more index. -/
theorem firstIndex_succ (bound : Nat) (property : Nat → Bool) :
    firstIndex (bound + 1) property =
      if firstIndex bound property < bound then firstIndex bound property
      else if property bound then bound else bound + 1 := by
  rw [firstIndex, List.range_succ, List.findIdx_append, List.length_range]
  show (if firstIndex bound property < bound then firstIndex bound property else _) = _
  grind

/-- One more index, behind indices where nothing has changed. -/
theorem firstIndex_extend {before after : Nat → Bool}
    (same : ∀ index < bound, after index = before index) :
    firstIndex (bound + 1) after =
      if firstIndex bound before < bound then firstIndex bound before
      else if after bound then bound else bound + 1 := by
  have unchanged : firstIndex bound after = firstIndex bound before := by
    induction bound with
    | zero => rfl
    | succ bound ih =>
      rw [firstIndex_succ, firstIndex_succ, same bound (Nat.lt_succ_self bound),
        ih fun index small => same index (Nat.lt_succ_of_lt small)]
  rw [firstIndex_succ, unchanged]

theorem firstIndex_none {property : Nat → Bool}
    (none : ∀ index < bound, property index = false) : firstIndex bound property = bound := by
  induction bound with
  | zero => rfl
  | succ bound ih =>
    rw [firstIndex_succ, ih fun index small => none index (Nat.lt_succ_of_lt small),
      if_neg (Nat.lt_irrefl _), none bound (Nat.lt_succ_self bound), if_neg Bool.false_ne_true]

/-! ## One more packet -/

section Snoc

variable {packets : List (ParsedPkt × Bool)} {packet : ParsedPkt × Bool}

theorem carried_snoc (isTx : Bool) (flag : UInt8) :
    carried (packets ++ [packet]) isTx flag =
      (carried packets isTx flag || (packet.2 == isTx && hasFlag flag packet)) := by
  simp [carried]

theorem firstReset_snoc :
    firstReset (packets ++ [packet]) =
      if firstReset packets < packets.length then firstReset packets
      else if hasFlag thRst packet then packets.length else packets.length + 1 := by
  have last : (packets ++ [packet])[packets.length]? = some packet := by simp
  rw [firstReset, List.length_append, List.length_singleton,
    firstIndex_extend (fun index small => by rw [List.getElem?_append_left small]), last]
  rfl

theorem take_snoc {index : Nat} (small : index < packets.length) :
    (packets ++ [packet]).take (index + 1) = packets.take (index + 1) :=
  List.take_append_of_le_length small

theorem take_snoc_length :
    (packets ++ [packet]).take (packets.length + 1) = packets ++ [packet] :=
  List.take_of_length_le (by simp)

theorem lastFin_snoc :
    lastFin (packets ++ [packet]) =
      if lastFin packets < packets.length then lastFin packets
      else if bothCarried (packets ++ [packet]) thFin then packets.length
      else packets.length + 1 := by
  rw [lastFin, List.length_append, List.length_singleton,
    firstIndex_extend (fun index small => by rw [take_snoc small]), take_snoc_length]
  rfl

theorem lastFin_le : lastFin packets ≤ packets.length := firstIndex_le _ _

/-- Both peers have sent FIN before. -/
theorem lastAck_snoc (fin : lastFin packets < packets.length) :
    lastAck (packets ++ [packet]) =
      if lastAck packets < packets.length then lastAck packets
      else if hasFlag thAck packet then packets.length else packets.length + 1 := by
  have last : (packets ++ [packet])[packets.length]? = some packet := by simp
  have sameFin : lastFin (packets ++ [packet]) = lastFin packets := by
    rw [lastFin_snoc, if_pos fin]
  rw [lastAck, List.length_append, List.length_singleton, sameFin,
    firstIndex_extend (fun index small => by rw [List.getElem?_append_left small]), last,
    decide_eq_true fin, Bool.true_and]
  rfl

/-- Nothing can be acknowledged before both peers have sent FIN. -/
theorem lastAck_eq (fin : packets.length ≤ lastFin packets + 1) :
    lastAck packets = packets.length := by
  refine firstIndex_none fun index small => ?_
  grind

theorem lastAck_le : lastAck packets ≤ packets.length := firstIndex_le _ _

theorem lastFin_lt_of_lastAck (ack : lastAck packets < packets.length) :
    lastFin packets < packets.length := by
  by_contra none
  have absent := @lastAck_eq packets (by omega)
  omega

theorem establishes_snoc {index : Nat} (small : index < packets.length) :
    establishes (packets ++ [packet]) index = establishes packets index := by
  rw [establishes, establishes, List.getElem?_append_left small, take_snoc small]

/-- Up to the last FIN, nothing has changed. -/
theorem any_establishes_snoc (small : bound ≤ packets.length) :
    (List.range bound).any (establishes (packets ++ [packet])) =
      (List.range bound).any (establishes packets) := by
  rw [Bool.eq_iff_iff, List.any_eq_true, List.any_eq_true]
  constructor
  · rintro ⟨index, member, found⟩
    have below := List.mem_range.mp member
    exact ⟨index, member, by rwa [establishes_snoc (by omega)] at found⟩
  · rintro ⟨index, member, found⟩
    have below := List.mem_range.mp member
    exact ⟨index, member, by rwa [establishes_snoc (by omega)]⟩

end Snoc

/-! ## Flags -/

/-- A flag is one bit of the byte. -/
theorem and_flag_eq_testBit (flags flag : UInt8) (single : flag.toNat = 2 ^ bit) :
    (flags &&& flag != 0) = flags.toNat.testBit bit := by
  have positive := Nat.two_pow_pos bit
  have value : (flags &&& flag).toNat = (flags.toNat.testBit bit).toNat * 2 ^ bit := by
    rw [UInt8.toNat_and, single, Nat.and_two_pow]
  rw [Bool.eq_iff_iff, bne_iff_ne, Ne, ← UInt8.toNat_inj, value]
  grind

/-- SYN and ACK at once. -/
theorem and_synAck_eq (flags : UInt8) :
    (flags &&& (thSyn ||| thAck) == thSyn ||| thAck) =
      ((flags &&& thSyn != 0) && (flags &&& thAck != 0)) := by
  have all : ∀ value : Fin 256, (UInt8.ofNat value &&& (thSyn ||| thAck) == thSyn ||| thAck) =
      ((UInt8.ofNat value &&& thSyn != 0) && (UInt8.ofNat value &&& thAck != 0)) := by
    decide +kernel
  have here := all ⟨flags.toNat, flags.toNat_lt⟩
  rwa [UInt8.ofNat_toNat] at here

/-- The flags that a direction has carried. -/
def PcapData.tcpFlags (data : PcapData) (isTx : Bool) : UInt8 :=
  if isTx then data.cliFlags else data.srvFlags

theorem PcapData.seeFlags_tcpFlags (data : PcapData) (isTx dir : Bool) (flags : UInt8) :
    (data.seeFlags isTx flags).tcpFlags dir =
      if isTx = dir then data.tcpFlags dir ||| flags else data.tcpFlags dir := by
  cases isTx <;> cases dir <;> rfl

theorem PcapData.seeFlags_ackOrQueries (data : PcapData) (isTx : Bool) (flags : UInt8) :
    (data.seeFlags isTx flags).ackOrQueries = data.ackOrQueries := by
  cases isTx <;> rfl

/-- The flags of a direction are those its packets have carried. -/
def FlagsOf (packets : List (ParsedPkt × Bool)) (data : PcapData) : Prop :=
  ∀ isTx bit, (data.tcpFlags isTx).toNat.testBit bit =
    packets.any fun packet => packet.2 == isTx && packet.1.thFlags.toNat.testBit bit

theorem FlagsOf.carried {packets : List (ParsedPkt × Bool)}
    (flags : FlagsOf packets data) (single : flag.toNat = 2 ^ bit)
    (isTx : Bool) : (data.tcpFlags isTx).toNat.testBit bit = carried packets isTx flag := by
  rw [flags, Pcap.carried]
  simp only [hasFlag, and_flag_eq_testBit _ _ single]

theorem FlagsOf.seenFlags {packets : List (ParsedPkt × Bool)}
    (flags : FlagsOf packets data) (single : flag.toNat = 2 ^ bit) :
    (data.seenFlags &&& flag != 0) = bothCarried packets flag := by
  rw [and_flag_eq_testBit _ _ single, PcapData.seenFlags, UInt8.toNat_and, Nat.testBit_and]
  exact congrArg₂ _ (flags.carried single true) (flags.carried single false)

theorem FlagsOf.see {packets : List (ParsedPkt × Bool)}
    (flags : FlagsOf packets data) (packet : ParsedPkt × Bool) :
    FlagsOf (packets ++ [packet]) (data.seeFlags packet.2 packet.1.thFlags) := by
  intro isTx bit
  rw [PcapData.seeFlags_tcpFlags, List.any_append, ← flags]
  by_cases same : packet.2 = isTx
  · simp [same]
  · simp [same]

/-! ## The machine of a connection -/

/-- `update_connection_status` on the status and the data of a TCP connection. -/
def tcpStep (state : ConnStatus × PcapData) (packet : ParsedPkt × Bool) : ConnStatus × PcapData :=
  if state.1.isClosed then state
  else (state.2.seeFlags packet.2 packet.1.thFlags).tcpStatus state.1 packet.1

def tcpView (slot : ConnAndTuple) (capture : Libpcap) : ConnStatus × PcapData :=
  ((capture.pd.conn slot.data).status, capture.data slot.data)

theorem tcpView_seePacket (tcp : slot.tuple.ipproto = ipprotoTcp) (capture : Libpcap)
    (whole : packet.1.pkt.isFragment = false) :
    tcpView slot (seePacket slot capture packet) = tcpStep (tcpView slot capture) packet := by
  simp only [seePacket, updateConnectionStatus, tcpStep, whole, Bool.or_false, tcp,
    beq_self_eq_true, if_true]
  cases closed : (capture.pd.conn slot.data).status.isClosed with
  | true => rw [if_pos rfl, if_pos (by exact closed)]
  | false =>
    rw [if_neg Bool.false_ne_true, if_neg (by rw [tcpView, closed]; exact Bool.false_ne_true)]
    refine Prod.ext ?_ ?_
    · exact congrArg Conn.status (Pcapdroid.setConn_conn_self _ _ _)
    · exact if_pos rfl

theorem tcpView_run (tcp : slot.tuple.ipproto = ipprotoTcp)
    (capture : Libpcap) {packets : List (ParsedPkt × Bool)}
    (whole : ∀ packet ∈ packets, packet.1.pkt.isFragment = false) :
    tcpView slot (run (seePacket slot) capture packets) =
      run tcpStep (tcpView slot capture) packets := by
  induction packets generalizing capture with
  | nil => rfl
  | cons packet packets ih =>
    obtain ⟨first, rest⟩ := List.forall_mem_cons.mp whole
    rw [run_cons, run_cons, ih _ rest, tcpView_seePacket tcp capture first]

/-- The status follows the sequence: while the connection is open, the data of the connection
says what has been seen. -/
structure OpenAfter (packets : List (ParsedPkt × Bool)) (state : ConnStatus × PcapData) :
    Prop where
  noReset : firstReset packets = packets.length
  noAck : lastAck packets = packets.length
  flags : FlagsOf packets state.2
  waiting : state.2.ackOrQueries = if lastFin packets < packets.length then 1 else 0
  status : state.1 = if established packets then .connected
    else if packets.isEmpty then .new else .connecting

/-- Where a sequence of packets leads. -/
def After (packets : List (ParsedPkt × Bool)) (state : ConnStatus × PcapData) : Prop :=
  if firstReset packets < packets.length ∧ firstReset packets ≤ lastAck packets then
    state.1 = .reset
  else if lastAck packets < packets.length ∧ lastAck packets < firstReset packets then
    state.1 = .closed
  else OpenAfter packets state

section Step

variable {packets : List (ParsedPkt × Bool)} {state : ConnStatus × PcapData}

theorem firstReset_le : firstReset packets ≤ packets.length := firstIndex_le _ _

theorem bothCarried_take {count : Nat}
    (both : bothCarried (packets.take count) flag = true) : bothCarried packets flag = true := by
  simp only [bothCarried, carried, Bool.and_eq_true, List.any_eq_true] at both ⊢
  grind

/-- Until both peers have sent FIN, no packet is the last FIN. -/
theorem lastFin_eq (fin : bothCarried packets thFin = false) : lastFin packets = packets.length := by
  refine firstIndex_none fun index _ => ?_
  rw [← Bool.not_eq_true]
  intro both
  rw [bothCarried_take both] at fin
  exact Bool.noConfusion fin

theorem bothCarried_snoc (packet : ParsedPkt × Bool)
    (both : bothCarried packets flag = true) : bothCarried (packets ++ [packet]) flag = true := by
  rw [bothCarried, Bool.and_eq_true] at both ⊢
  rw [carried_snoc, carried_snoc, both.1, both.2]
  exact ⟨rfl, rfl⟩

/-- One packet has one direction. -/
theorem not_bothCarried_singleton (packet : ParsedPkt × Bool) (flag : UInt8) :
    bothCarried [packet] flag = false := by
  obtain ⟨pkt, isTx⟩ := packet
  cases isTx with
  | true => simp [bothCarried, carried]
  | false => simp [bothCarried, carried]

theorem ne_nil_of_bothCarried_snoc (both : bothCarried (packets ++ [packet]) flag = true) :
    packets ≠ [] := by
  rintro rfl
  rw [List.nil_append, not_bothCarried_singleton] at both
  exact Bool.noConfusion both

/-- A connection that is not closed is open. -/
theorem After.isOpen (after : After packets state) (running : state.1.isClosed = false) :
    OpenAfter packets state := by
  rw [After] at after
  split at after
  next =>
    rw [after] at running
    cases running
  next =>
    split at after
    next =>
      rw [after] at running
      cases running
    next => exact after

theorem OpenAfter.after (isOpen : OpenAfter packets state) : After packets state := by
  have reset := isOpen.noReset
  have ack := isOpen.noAck
  rw [After, if_neg (by omega), if_neg (by omega)]
  exact isOpen

/-- An open connection is not closed. -/
theorem OpenAfter.running (isOpen : OpenAfter packets state) : state.1.isClosed = false := by
  rw [isOpen.status]
  cases established packets with
  | true => rfl
  | false => cases packets <;> rfl

/-- Once closed, always closed. -/
theorem After.closed_snoc (after : After packets state) (closed : state.1.isClosed = true)
    (packet : ParsedPkt × Bool) : After (packets ++ [packet]) state := by
  have length : (packets ++ [packet]).length = packets.length + 1 := by simp
  have resetBound := @firstReset_le packets
  have ackBound := @lastAck_le packets
  rw [After] at after ⊢
  rw [length, firstReset_snoc]
  split at after
  next reset =>
    -- the reset stays the first one, and no acknowledgment before it can appear
    have later : firstReset packets ≤ lastAck (packets ++ [packet]) := by
      by_cases fin : lastFin packets < packets.length
      · rw [lastAck_snoc fin]
        split_ifs <;> omega
      · have none : lastFin (packets ++ [packet]) + 1 ≥ (packets ++ [packet]).length := by
          rw [lastFin_snoc, if_neg fin, length]
          split_ifs <;> omega
        rw [lastAck_eq none, length]
        omega
    grind
  next noReset =>
    split at after
    next ack =>
      have same : lastAck (packets ++ [packet]) = lastAck packets := by
        rw [lastAck_snoc (lastFin_lt_of_lastAck ack.1), if_pos ack.1]
      grind
    next =>
      rw [after.running] at closed
      exact Bool.noConfusion closed

variable {packet : ParsedPkt × Bool}

section

variable (isOpen : OpenAfter packets state)
include isOpen

theorem OpenAfter.firstReset_snoc : firstReset (packets ++ [packet]) =
      if hasFlag thRst packet then packets.length else packets.length + 1 := by
  rw [Pcap.firstReset_snoc, if_neg (by rw [isOpen.noReset]; exact Nat.lt_irrefl _)]

/-- No packet so far was the acknowledgment. -/
theorem OpenAfter.lastAck_snoc : lastAck (packets ++ [packet]) =
      if lastFin packets < packets.length ∧ hasFlag thAck packet = true then packets.length
      else packets.length + 1 := by
  have length : (packets ++ [packet]).length = packets.length + 1 := by simp
  by_cases fin : lastFin packets < packets.length
  · rw [Pcap.lastAck_snoc fin, if_neg (by rw [isOpen.noAck]; exact Nat.lt_irrefl _)]
    simp only [fin, true_and]
  · have late : (packets ++ [packet]).length ≤ lastFin (packets ++ [packet]) + 1 := by
      rw [lastFin_snoc, if_neg fin, length]
      split_ifs <;> omega
    rw [lastAck_eq late, if_neg (fun both => fin both.1), length]

theorem After.reset (rst : hasFlag thRst packet = true) :
    After (packets ++ [packet]) (.reset, data) := by
  have first : firstReset (packets ++ [packet]) = packets.length := by
    rw [isOpen.firstReset_snoc, if_pos rst]
  have length : (packets ++ [packet]).length = packets.length + 1 := by simp
  have late : packets.length ≤ lastAck (packets ++ [packet]) := by
    rw [isOpen.lastAck_snoc]
    split_ifs <;> omega
  rw [After, if_pos ⟨by omega, by omega⟩]

variable (rst : hasFlag thRst packet = false)
include rst

theorem After.close (fin : lastFin packets < packets.length) (ack : hasFlag thAck packet = true) :
    After (packets ++ [packet]) (.closed, data) := by
  have first : firstReset (packets ++ [packet]) = packets.length + 1 := by
    rw [isOpen.firstReset_snoc, rst, if_neg Bool.false_ne_true]
  have last : lastAck (packets ++ [packet]) = packets.length := by
    rw [isOpen.lastAck_snoc, if_pos ⟨fin, ack⟩]
  have length : (packets ++ [packet]).length = packets.length + 1 := by simp
  rw [After, if_neg (by omega), if_pos ⟨by omega, by omega⟩]

/-- The packet closes nothing; the flags have been seen. -/
theorem OpenAfter.stay (ack : ¬ (lastFin packets < packets.length ∧ hasFlag thAck packet = true))
    {status : ConnStatus} (flags : FlagsOf (packets ++ [packet]) data)
    (waiting : data.ackOrQueries = if bothCarried (packets ++ [packet]) thFin then 1 else 0)
    (next : status = if established (packets ++ [packet]) then .connected else .connecting) :
    OpenAfter (packets ++ [packet]) (status, data) := by
  have length : (packets ++ [packet]).length = packets.length + 1 := by simp
  refine ⟨?_, ?_, flags, ?_, ?_⟩
  · rw [isOpen.firstReset_snoc, rst, if_neg Bool.false_ne_true, length]
  · rw [isOpen.lastAck_snoc, if_neg ack, length]
  · rw [show data.ackOrQueries = _ from waiting, lastFin_snoc, length]
    by_cases fin : lastFin packets < packets.length
    · have both : bothCarried (packets ++ [packet]) thFin = true := by
        by_contra none
        have absent := lastFin_eq (Bool.eq_false_of_not_eq_true fun both =>
          none (bothCarried_snoc packet both))
        omega
      grind
    · grind
  · grind

end

/-- Behind the last FIN, nothing is established. -/
theorem established_of_fin (both : bothCarried (packets ++ [packet]) thFin = true) :
    established (packets ++ [packet]) = established packets := by
  have bound := @lastFin_le packets
  rw [established, established, lastFin_snoc, if_pos both]
  by_cases fin : lastFin packets < packets.length
  · rw [if_pos fin, any_establishes_snoc bound]
  · have absent : lastFin packets = packets.length := by omega
    rw [if_neg fin, any_establishes_snoc le_rfl, absent]

theorem bothCarried_of_snoc {flag : UInt8}
    (none : bothCarried (packets ++ [packet]) flag = false) : bothCarried packets flag = false :=
  Bool.eq_false_of_not_eq_true fun both => by
    rw [bothCarried_snoc packet both] at none
    exact Bool.noConfusion none

/-- Before it, one packet may be enough. -/
theorem established_snoc (none : bothCarried (packets ++ [packet]) thFin = false) :
    established (packets ++ [packet]) =
      (established packets || (!packet.1.pkt.l7.isEmpty ||
        (bothCarried (packets ++ [packet]) thSyn && bothCarried (packets ++ [packet]) thAck))) := by
  have before := bothCarried_of_snoc none
  have last : (packets ++ [packet])[packets.length]? = some packet := by simp
  rw [established, established, lastFin_eq none, lastFin_eq before, List.length_append,
    List.length_singleton, List.range_succ, List.any_append, any_establishes_snoc le_rfl,
    List.any_cons, List.any_nil, Bool.or_false, establishes, last, take_snoc_length]
  rfl

/-- What the code reads of the flags. -/
theorem FlagsOf.tcpStatus_eq (flags : FlagsOf packets data)
    (status : ConnStatus) (packet : ParsedPkt × Bool) :
    data.tcpStatus status packet.1 =
      if hasFlag thRst packet then (.reset, data)
      else if bothCarried packets thFin then
        if data.ackOrQueries = 0 then (status, { data with ackOrQueries := 1 })
        else if hasFlag thAck packet then (.closed, data) else (status, data)
      else if status = .new ∨ status = .connecting then
        if !packet.1.pkt.l7.isEmpty || (bothCarried packets thSyn && bothCarried packets thAck) then
          (.connected, data)
        else (.connecting, data)
      else (status, data) := by
  rw [← flags.seenFlags (show thFin.toNat = 2 ^ 0 from rfl),
    ← flags.seenFlags (show thSyn.toNat = 2 ^ 1 from rfl),
    ← flags.seenFlags (show thAck.toNat = 2 ^ 4 from rfl), ← and_synAck_eq]
  rfl

section

variable (isOpen : OpenAfter packets state)
include isOpen

/-- A packet by which both peers have sent FIN. -/
theorem OpenAfter.finish (flags : FlagsOf (packets ++ [packet]) data)
    (waiting : data.ackOrQueries = if lastFin packets < packets.length then 1 else 0)
    (rst : hasFlag thRst packet = false) (both : bothCarried (packets ++ [packet]) thFin = true) :
    After (packets ++ [packet])
      (if data.ackOrQueries = 0 then (state.1, { data with ackOrQueries := 1 })
        else if hasFlag thAck packet then (.closed, data) else (state.1, data)) := by
  have kept : state.1 = if established (packets ++ [packet]) then .connected
      else .connecting := by
    have filled : packets.isEmpty = false :=
      List.isEmpty_eq_false_iff.mpr (ne_nil_of_bothCarried_snoc both)
    rw [isOpen.status, established_of_fin both, filled, if_neg Bool.false_ne_true]
  by_cases fin : lastFin packets < packets.length
  · rw [if_pos fin] at waiting
    rw [if_neg (by rw [waiting]; decide)]
    cases ack : hasFlag thAck packet with
    | true => exact After.close isOpen rst fin ack
    | false =>
      refine (isOpen.stay rst ?_ flags ?_ kept).after
      · grind
      · grind
  · rw [if_neg fin] at waiting
    rw [if_pos waiting]
    have sameFlags : FlagsOf (packets ++ [packet]) { data with ackOrQueries := 1 } := flags
    exact (isOpen.stay rst (fun absurd => fin absurd.1) sameFlags
      (by rw [both, if_pos rfl]) kept).after

/-- A packet by which one of the peers has not sent FIN. -/
theorem OpenAfter.establish (flags : FlagsOf (packets ++ [packet]) data)
    (waiting : data.ackOrQueries = if lastFin packets < packets.length then 1 else 0)
    (rst : hasFlag thRst packet = false) (none : bothCarried (packets ++ [packet]) thFin = false) :
    After (packets ++ [packet]) (if state.1 = .new ∨ state.1 = .connecting then
        if !packet.1.pkt.l7.isEmpty || (bothCarried (packets ++ [packet]) thSyn &&
            bothCarried (packets ++ [packet]) thAck) then (.connected, data)
        else (.connecting, data)
      else (state.1, data)) := by
  have fin : ¬ lastFin packets < packets.length := by
    rw [lastFin_eq (bothCarried_of_snoc none)]
    exact Nat.lt_irrefl _
  have waits : data.ackOrQueries = if bothCarried (packets ++ [packet]) thFin then 1 else 0 := by
    grind
  have stays : ∀ {status : ConnStatus},
      status = (if established (packets ++ [packet]) then .connected else .connecting) →
      After (packets ++ [packet]) (status, data) := fun next =>
    (isOpen.stay rst (fun absurd => fin absurd.1) flags waits next).after
  have status := isOpen.status
  rw [established_snoc none] at stays
  cases done : established packets with
  | true =>
    grind
  | false =>
    have early : state.1 = .new ∨ state.1 = .connecting := by
      grind
    grind

/-- One packet on an open connection. -/
theorem OpenAfter.step (packet : ParsedPkt × Bool) : After (packets ++ [packet])
      ((state.2.seeFlags packet.2 packet.1.thFlags).tcpStatus state.1 packet.1) := by
  have flags := isOpen.flags.see packet
  have waiting := isOpen.waiting
  rw [← PcapData.seeFlags_ackOrQueries _ packet.2 packet.1.thFlags] at waiting
  rw [flags.tcpStatus_eq]
  cases rst : hasFlag thRst packet with
  | true => exact After.reset isOpen rst
  | false =>
    cases both : bothCarried (packets ++ [packet]) thFin with
    | true => exact isOpen.finish flags waiting rst both
    | false => exact isOpen.establish flags waiting rst both

end

/-- One packet. -/
theorem After.step (after : After packets state) (packet : ParsedPkt × Bool) :
    After (packets ++ [packet]) (tcpStep state packet) := by
  rw [tcpStep]
  split
  next closed => exact after.closed_snoc closed packet
  next running => exact (after.isOpen (Bool.eq_false_of_not_eq_true running)).step packet

end Step

/-- A connection that has seen nothing. -/
theorem after_nil : After [] (.new, PcapData.zeroed) := by
  refine OpenAfter.after ⟨rfl, rfl, fun isTx bit => ?_, rfl, rfl⟩
  rw [List.any_nil]
  cases isTx with
  | true => exact Nat.zero_testBit bit
  | false => exact Nat.zero_testBit bit

variable (state : ConnStatus × PcapData) (packets : List (ParsedPkt × Bool))

/-- A whole sequence. -/
theorem after_run :
    After packets (run tcpStep (.new, PcapData.zeroed) packets) := by
  induction packets using List.reverseRecOn with
  | nil => exact after_nil
  | append_singleton packets packet ih =>
    rw [run_append]
    exact ih.step packet

theorem After.traceStatus {packets : List (ParsedPkt × Bool)} {state : ConnStatus × PcapData}
    (after : After packets state) (some : packets ≠ []) : state.1 = traceStatus packets := by
  rw [After] at after
  rw [Pcap.traceStatus]
  split at after
  next reset => rw [if_pos reset, after]
  next noReset =>
    rw [if_neg noReset]
    split at after
    next closed => rw [if_pos closed, after]
    next notClosed =>
      rw [if_neg notClosed, after.status, List.isEmpty_eq_false_iff.mpr some,
        if_neg Bool.false_ne_true]

/-! ## The order of the statuses -/

theorem statusValue_lt_closed {status : ConnStatus} (running : status.isClosed = false) :
    statusValue status < statusValue .closed := by
  cases status with
  | new | connecting | connected => decide
  | closed | error | socketError | clientError | reset | unreachable | socks5Error =>
    cases running

theorem tcpStep_monotone (packet : ParsedPkt × Bool) :
    statusValue state.1 ≤ statusValue (tcpStep state packet).1 := by
  rw [tcpStep]
  split
  next => exact le_rfl
  next running =>
    have below := statusValue_lt_closed (Bool.eq_false_of_not_eq_true running)
    have toReset : statusValue state.1 ≤ statusValue .reset := below.le.trans (by decide)
    have early : state.1 = .new ∨ state.1 = .connecting →
        statusValue state.1 ≤ statusValue .connecting := by
      rintro (is | is)
      · rw [is]
        decide
      · rw [is]
    rw [PcapData.tcpStatus]
    split_ifs with rst fin first ack opening whole
    · exact toReset
    · exact le_rfl
    · exact below.le
    · exact le_rfl
    · exact (early opening).trans (show 1 ≤ 2 by decide)
    · exact early opening
    · exact le_rfl

theorem tcpStep_of_closed {state : ConnStatus × PcapData} (closed : state.1.isClosed = true)
    (packet : ParsedPkt × Bool) : tcpStep state packet = state := if_pos closed

/-- The status of a run only grows, and stays when the connection is closed. -/
theorem run_tcpStep_status :
    statusValue state.1 ≤ statusValue (run tcpStep state packets).1 ∧
      (state.1.isClosed = true → (run tcpStep state packets).1 = state.1) := by
  induction packets generalizing state with
  | nil => exact ⟨le_rfl, fun _ => rfl⟩
  | cons packet packets ih =>
    obtain ⟨grows, stays⟩ := ih (tcpStep state packet)
    refine ⟨(tcpStep_monotone state packet).trans grows, fun closed => ?_⟩
    rw [run_cons, tcpStep_of_closed closed packet] at *
    exact stays closed

def statusAfter (slot : ConnAndTuple) (capture : Libpcap) (packets : List (ParsedPkt × Bool)) :
    ConnStatus :=
  ((run (seePacket slot) capture packets).pd.conn slot.data).status

/-- The capture has just opened the connection. -/
structure NewTcp (slot : ConnAndTuple) (capture : Libpcap) : Prop where
  tcp : slot.tuple.ipproto = ipprotoTcp
  status : (capture.pd.conn slot.data).status = .new
  zeroed : capture.data slot.data = .zeroed

theorem NewTcp.statusAfter {capture : Libpcap} (new : NewTcp slot capture)
    {packets : List (ParsedPkt × Bool)}
    (whole : ∀ packet ∈ packets, packet.1.pkt.isFragment = false) :
    statusAfter slot capture packets = (run tcpStep (.new, PcapData.zeroed) packets).1 := by
  have view := tcpView_run new.tcp capture whole
  have start : tcpView slot capture = (.new, PcapData.zeroed) := Prod.ext new.status new.zeroed
  rw [start] at view
  exact congrArg Prod.fst view

/-- The status of a new TCP connection, after any sequence of packets that are not fragments,
is the one that the sequence stands for.  On the way it only grows, and a connection that is
closed or reset stays as it is. -/
theorem tcp_status_is_traced {slot : ConnAndTuple} {capture : Libpcap} (new : NewTcp slot capture)
    {packets : List (ParsedPkt × Bool)} (some : 1 ≤ packets.length)
    (whole : ∀ packet ∈ packets, packet.1.pkt.isFragment = false) :
    statusAfter slot capture packets = traceStatus packets ∧
      ∀ first second, packets = first ++ second →
        statusValue (statusAfter slot capture first) ≤
            statusValue (statusAfter slot capture packets) ∧
          (statusAfter slot capture first = .closed ∨ statusAfter slot capture first = .reset →
            statusAfter slot capture packets = statusAfter slot capture first) := by
  refine ⟨?_, fun first second split => ?_⟩
  · rw [new.statusAfter whole]
    exact (after_run packets).traceStatus (List.ne_nil_of_length_pos some)
  · subst split
    have wholeFirst : ∀ packet ∈ first, packet.1.pkt.isFragment = false := fun packet member =>
      whole packet (List.mem_append_left second member)
    rw [new.statusAfter whole, new.statusAfter wholeFirst, run_append]
    obtain ⟨grows, stays⟩ := run_tcpStep_status (run tcpStep (.new, .zeroed) first) second
    refine ⟨grows, fun ended => stays ?_⟩
    obtain closed | reset := ended
    · rw [closed]
      rfl
    · rw [reset]
      rfl

/-- A connection to port 443. -/
def serverSlot : ConnAndTuple := ⟨⟨0x0200000a, 0x08080808, 0x3930, ntohs 443, 4, ipprotoTcp⟩, 0⟩

def serverCapture : Libpcap :=
  ⟨Pcapdroid.initial.activate serverSlot, fun _ => .zeroed, false, false, .zeroed, []⟩

/-- A packet with these flags and without payload. -/
def tcpPacket (flags : UInt8) (isTx : Bool) : ParsedPkt × Bool :=
  (⟨⟨serverSlot.tuple, false, false, false, false, [], []⟩, flags⟩, isTx)

/-- A handshake, FIN in both directions, the last ACK and a late RST. -/
def serverPackets : List (ParsedPkt × Bool) :=
  [tcpPacket thSyn true, tcpPacket (thSyn ||| thAck) false, tcpPacket thAck true,
    tcpPacket (thFin ||| thAck) true, tcpPacket (thFin ||| thAck) false, tcpPacket thAck true,
    tcpPacket thRst false]

theorem server_status_is_traced :
    statusAfter serverSlot serverCapture serverPackets = .closed ∧
      traceStatus serverPackets = .closed := by
  have new : NewTcp serverSlot serverCapture := ⟨rfl, rfl, rfl⟩
  have traced : statusAfter serverSlot serverCapture serverPackets = traceStatus serverPackets :=
    (tcp_status_is_traced new (by decide) (by decide)).1
  have value : traceStatus serverPackets = .closed := by decide
  exact ⟨traced.trans value, value⟩

end PcapdroidFormal.Pcap
