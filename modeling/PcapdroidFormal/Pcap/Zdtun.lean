import PcapdroidFormal.Pcap.PacketLoop

/-!
# Parsing packets

A model of `zdtun_parse_pkt`.  The packet ends where its IP header says, or at
the end of the buffer if that comes first; what follows it is not looked at.
-/

namespace PcapdroidFormal.Pcap

open PcapdroidFormal.Core Foundation

variable {buf : Bytes} {offset : Nat}

def ipv4HeaderLen : Nat := 20
def ipv6HeaderLen : Nat := 40
def tcpHeaderLen : Nat := 20
def udpHeaderLen : Nat := 8
def icmpHeaderLen : Nat := 8

def ipprotoIcmpv6 : UInt8 := 58

def icmpEchoReply : UInt8 := 0
def icmpEcho : UInt8 := 8
def icmpv6Echo : UInt8 := 128
def icmpv6EchoReply : UInt8 := 129

/-! ## Fields -/

def byteAt (buf : Bytes) (offset : Nat) : UInt8 := buf.getD offset 0

def field (buf : Bytes) (offset width : Nat) : Nat :=
  Bytes.ofLittleEndian ((buf.drop offset).take width)

/-- `ntohs` of a field. -/
def netShort (buf : Bytes) (offset : Nat) : Nat :=
  Bytes.ofLittleEndian ((buf.drop offset).take 2).reverse

theorem byteAt_append (rest : Bytes) (inside : offset < buf.length) :
    byteAt (buf ++ rest) offset = byteAt buf offset :=
  List.getD_append buf rest 0 offset inside

theorem slice_append {width : Nat} (rest : Bytes) (inside : offset + width ≤ buf.length) :
    ((buf ++ rest).drop offset).take width = (buf.drop offset).take width := by
  grind

theorem field_append {width : Nat} (rest : Bytes) (inside : offset + width ≤ buf.length) :
    field (buf ++ rest) offset width = field buf offset width := by
  unfold field
  rw [slice_append rest inside]

theorem netShort_append (rest : Bytes)
    (inside : offset + 2 ≤ buf.length) : netShort (buf ++ rest) offset = netShort buf offset := by
  unfold netShort
  rw [slice_append rest inside]

/-! ## Headers -/

structure IpHeader where
  ipver : UInt8
  ipproto : UInt8
  hdrLen : Nat
  pktLen : Nat
  srcIp : ZdtunIp
  dstIp : ZdtunIp
  isFragment : Bool
  isFirstFragment : Bool
  moreFragments : Bool
  deriving DecidableEq, Repr

def ipFragOffset : Nat := 0x1FFF
def ipMoreFragments : Nat := 0x2000

/-- The IPv4 part of `zdtun_parse_pkt`. -/
def parseIpv4 (buf : Bytes) : Option IpHeader :=
  let hdrLen := (byteAt buf 0 &&& 0x0F).toNat * 4
  let totLen := netShort buf 2
  let fragOff := netShort buf 6
  if buf.length < hdrLen then none
  else if totLen < hdrLen then none
  else some {
    ipver := 4
    ipproto := byteAt buf 9
    hdrLen := hdrLen
    pktLen := min buf.length totLen
    srcIp := BitVec.ofNat 128 (field buf 12 4)
    dstIp := BitVec.ofNat 128 (field buf 16 4)
    isFragment := fragOff &&& ipFragOffset != 0 || fragOff &&& ipMoreFragments != 0
    isFirstFragment := fragOff &&& ipFragOffset == 0 && fragOff &&& ipMoreFragments != 0
    moreFragments := fragOff &&& ipMoreFragments != 0 }

def isUpperLayer (proto : UInt8) : Bool :=
  proto == ipprotoTcp || proto == ipprotoUdp || proto == ipprotoIcmp || proto == ipprotoIcmpv6

/-- The IPv6 part of `zdtun_parse_pkt`; there are no extension headers. -/
def parseIpv6 (buf : Bytes) : Option IpHeader :=
  let nexthdr := byteAt buf 6
  if buf.length < ipv6HeaderLen then none
  else if !isUpperLayer nexthdr then none
  else some {
    ipver := 6
    ipproto := if nexthdr = ipprotoIcmpv6 then ipprotoIcmp else nexthdr
    hdrLen := ipv6HeaderLen
    pktLen := min buf.length (netShort buf 4 + ipv6HeaderLen)
    srcIp := BitVec.ofNat 128 (field buf 8 16)
    dstIp := BitVec.ofNat 128 (field buf 24 16)
    isFragment := false
    isFirstFragment := false
    moreFragments := false }

/-- The first part of `zdtun_parse_pkt`. -/
def parseIp (buf : Bytes) : Option IpHeader :=
  if buf.length < ipv4HeaderLen then none
  else if byteAt buf 0 >>> 4 = 4 then parseIpv4 buf
  else if byteAt buf 0 >>> 4 = 6 then parseIpv6 buf
  else none

/-- The length of the packet in its IP header. -/
def ipLength (buf : Bytes) : Nat :=
  if byteAt buf 0 >>> 4 = 4 then netShort buf 2 else netShort buf 4 + ipv6HeaderLen

/-- What `zdtun_parse_pkt` takes from the header of the transport protocol. -/
structure L4Header where
  hdrLen : Nat
  srcPort : UInt16
  dstPort : UInt16
  thFlags : UInt8
  deriving DecidableEq, Repr

def portAt (buf : Bytes) (offset : Nat) : UInt16 := UInt16.ofNat (field buf offset 2)

/-- The second part of `zdtun_parse_pkt`; the ID of an ICMP echo takes the place of a port. -/
def parseL4 (buf : Bytes) (ip : IpHeader) : Option L4Header :=
  let l4 := ip.hdrLen
  if ip.ipproto = ipprotoTcp then
    let thOff := (byteAt buf (l4 + 12) >>> 4).toNat * 4
    if ip.pktLen < l4 + tcpHeaderLen then none
    else if ip.pktLen < l4 + thOff then none
    else some ⟨thOff, portAt buf l4, portAt buf (l4 + 2), byteAt buf (l4 + 13)⟩
  else if ip.ipproto = ipprotoUdp then
    if ip.pktLen < l4 + udpHeaderLen then none
    else some ⟨udpHeaderLen, portAt buf l4, portAt buf (l4 + 2), 0⟩
  else if ip.ipproto = ipprotoIcmp then
    if ip.pktLen < l4 + icmpHeaderLen then none
    else if byteAt buf l4 = icmpEcho ∨ byteAt buf l4 = icmpv6Echo then
      some ⟨icmpHeaderLen, portAt buf (l4 + 4), 0, 0⟩
    else if byteAt buf l4 = icmpEchoReply ∨ byteAt buf l4 = icmpv6EchoReply then
      some ⟨icmpHeaderLen, 0, portAt buf (l4 + 4), 0⟩
    else none
  else none

/-! ## Packets -/

structure FragPorts where
  sport : UInt16
  dport : UInt16
  deriving DecidableEq, Repr

/-- `id2ports`: the ports of fragmented packets, by the ID of the IP header. -/
abbrev Id2Ports := UInt16 → FragPorts

def Id2Ports.set (id2ports : Id2Ports) (id : UInt16) (ports : FragPorts) : Id2Ports :=
  fun other => if other = id then ports else id2ports other

/-- The `zdtun_pkt_t` of a packet. -/
def assemblePkt (buf : Bytes) (ip : IpHeader) (l4 : L4Header) : ParsedPkt where
  pkt :=
    { tuple := ⟨ip.srcIp, ip.dstIp, l4.srcPort, l4.dstPort, ip.ipver, ip.ipproto⟩
      isFragment := ip.isFragment
      isFirstFragment := ip.isFirstFragment
      thSyn := l4.thFlags &&& thSyn != 0
      thAck := l4.thFlags &&& thAck != 0
      buf := buf.take ip.pktLen
      l7 := (buf.take ip.pktLen).drop (ip.hdrLen + l4.hdrLen) }
  thFlags := l4.thFlags

/-- `zdtun_parse_pkt`.  A fragment gets its ports from the first one. -/
def zdtunParsePkt (id2ports : Id2Ports) (buf : Bytes) : Option ParsedPkt × Id2Ports :=
  match parseIp buf with
  | none => (none, id2ports)
  | some ip =>
    let ipId := portAt buf 4
    if ip.isFragment && !ip.isFirstFragment then
      let ports := id2ports ipId
      (some (assemblePkt buf ip ⟨0, ports.sport, ports.dport, 0⟩),
        if ip.moreFragments then id2ports else id2ports.set ipId ⟨0, 0⟩)
    else
      match parseL4 buf ip with
      | none => (none, id2ports)
      | some l4 =>
        (some (assemblePkt buf ip l4),
          if ip.isFirstFragment then id2ports.set ipId ⟨l4.srcPort, l4.dstPort⟩
          else id2ports)

/-! ## Data behind a packet -/

structure WholePacket (packet : Bytes) (ip : IpHeader) : Prop where
  header : parseIp packet = some ip
  length : ipLength packet = packet.length

namespace WholePacket

variable {packet : Bytes} {ip : IpHeader}

theorem of_accepted {id2ports : Id2Ports} {parsed : ParsedPkt}
    (accepted : (zdtunParsePkt id2ports packet).1 = some parsed)
    (length : ipLength packet = packet.length) : ∃ ip, WholePacket packet ip := by
  cases header : parseIp packet with
  | none =>
    simp only [zdtunParsePkt, header] at accepted
    cases accepted
  | some ip => exact ⟨ip, header, length⟩

variable (whole : WholePacket packet ip)
include whole

/-- The IP header and the packet lie within its bytes. -/
theorem bounds :
    ipv4HeaderLen ≤ packet.length ∧ ip.hdrLen ≤ packet.length ∧ ip.pktLen = packet.length := by
  obtain ⟨header, length⟩ := whole
  unfold parseIp at header
  unfold ipLength at length
  split at header
  · cases header
  next long =>
    refine ⟨Nat.not_lt.mp long, ?_⟩
    split at header
    next ipv4 =>
      rw [if_pos ipv4] at length
      simp only [parseIpv4] at header
      grind
    next other =>
      rw [if_neg other] at length
      split at header
      · simp only [parseIpv6] at header
        grind
      · cases header

/-- Data behind the packet does not change its IP header. -/
theorem parseIp_append (rest : Bytes) : parseIp (packet ++ rest) = some ip := by
  obtain ⟨long, _, _⟩ := whole.bounds
  obtain ⟨header, length⟩ := whole
  have version : byteAt (packet ++ rest) 0 = byteAt packet 0 :=
    byteAt_append rest (Nat.lt_of_lt_of_le (by decide) long)
  have longer : ¬(packet ++ rest).length < ipv4HeaderLen := by
    grind
  have short : packet.length ≤ (packet ++ rest).length := by
    grind
  unfold ipLength at length
  unfold parseIp at header ⊢
  rw [if_neg (Nat.not_lt.mpr long)] at header
  rw [if_neg longer, version]
  unfold ipv4HeaderLen at long
  split at header
  next ipv4 =>
    rw [if_pos ipv4] at length ⊢
    simp only [parseIpv4] at header ⊢
    rw [version, netShort_append rest (by omega), netShort_append rest (by omega),
      byteAt_append rest (by omega), field_append rest (by omega), field_append rest (by omega)]
    split at header
    · cases header
    next => grind
  next other =>
    rw [if_neg other] at length ⊢
    split at header
    next ipv6 =>
      rw [if_pos ipv6]
      simp only [parseIpv6] at header ⊢
      split at header
      · cases header
      next inside =>
        unfold ipv6HeaderLen at inside
        rw [if_neg (by unfold ipv6HeaderLen; omega), byteAt_append rest (by omega),
          netShort_append rest (by omega), field_append rest (by omega),
          field_append rest (by omega)]
        grind
    · cases header

/-- Data behind the packet does not change its transport header. -/
theorem parseL4_append (rest : Bytes) : parseL4 (packet ++ rest) ip = parseL4 packet ip := by
  obtain ⟨_, _, length⟩ := whole.bounds
  have port {offset : Nat} (inside : offset + 2 ≤ packet.length) :
      portAt (packet ++ rest) offset = portAt packet offset :=
    congrArg UInt16.ofNat (field_append rest inside)
  simp only [parseL4, length, tcpHeaderLen, udpHeaderLen, icmpHeaderLen]
  split
  next =>
    split
    next => rfl
    next inside =>
      rw [byteAt_append rest (by omega), port (by omega), port (by omega),
        byteAt_append rest (by omega)]
  next =>
    split
    next =>
      grind
    next =>
      split
      next =>
        split
        next => rfl
        next inside => rw [byteAt_append rest (by omega), port (by omega)]
      next => rfl

theorem take_append (rest : Bytes) : (packet ++ rest).take ip.pktLen = packet.take ip.pktLen := by
  obtain ⟨_, _, length⟩ := whole.bounds
  grind

/-- `zdtun_parse_pkt` does not look at data behind the packet. -/
theorem zdtunParsePkt_append (rest : Bytes) (id2ports : Id2Ports) :
    zdtunParsePkt id2ports (packet ++ rest) = zdtunParsePkt id2ports packet := by
  have long : 20 ≤ packet.length := whole.bounds.1
  have ipId : portAt (packet ++ rest) 4 = portAt packet 4 :=
    congrArg UInt16.ofNat (field_append rest (by omega))
  have assembled : assemblePkt (packet ++ rest) ip = assemblePkt packet ip := by
    funext l4
    simp only [assemblePkt, whole.take_append rest]
  simp only [zdtunParsePkt, whole.parseIp_append rest, whole.header, whole.parseL4_append rest,
    ipId, assembled]

/-- The bytes of the parsed packet are those of the whole packet. -/
theorem parsed_buf {id2ports : Id2Ports} {parsed : ParsedPkt}
    (accepted : (zdtunParsePkt id2ports packet).1 = some parsed) : parsed.pkt.buf = packet := by
  have bytes : packet.take ip.pktLen = packet := by
    rw [whole.bounds.2.2, List.take_length]
  simp only [zdtunParsePkt, whole.header] at accepted
  split at accepted
  · cases accepted
    exact bytes
  · split at accepted
    · cases accepted
    · cases accepted
      exact bytes

end WholePacket

end PcapdroidFormal.Pcap
