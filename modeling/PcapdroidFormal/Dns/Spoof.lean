import PcapdroidFormal.Dns.Reply

/-!
# Spoofed DNS replies

`spoof_dns_reply` answers a blocked DNS request with an address of zeros.  It looks for the end
of the question in the payload of the request, and then fills a buffer of its own.  The payload
and the buffer are allocations: the reads of the payload are recorded, and a write that leaves
the buffer is an outcome of its own.
-/

namespace PcapdroidFormal.Dns

open PcapdroidFormal.Core (FiveTuple sizeofDnsPacket ntohs)
open Foundation

/-- `zdtun_iphdr_len`, `zdtun_make_iphdr` and `zdtun_l3_checksum`, for a connection. -/
structure IpHelpers where
  iphdrLen : Nat
  makeIphdr : Nat → Bytes
  l3Checksum : Bytes → Nat
  length_makeIphdr : ∀ l3Len, (makeIphdr l3Len).length = iphdrLen

/-! ## The question -/

/-- The loop that looks for the end of the name, with the offsets it reads. -/
def questionLength (l7 : Memory) : Nat → Nat → Nat × List Nat
  | 0, qlen => (qlen, [])
  | remaining + 1, qlen =>
    if 5 ≤ remaining + 1 then
      if l7.byte (sizeofDnsPacket + qlen) = 0 then (qlen, [sizeofDnsPacket + qlen])
      else
        let (found, reads) := questionLength l7 remaining (qlen + 1)
        (found, (sizeofDnsPacket + qlen) :: reads)
    else (qlen, [])

/-- Compare bytes one after another, up to the first that differs. -/
def expectBytes (l7 : Memory) : List (Nat × UInt8) → Bool × List Nat
  | [] => (true, [])
  | (offset, value) :: rest =>
    if l7.byte offset = value then
      let (same, reads) := expectBytes l7 rest
      (same, offset :: reads)
    else (false, [offset])

/-- The end of the name, the high byte of the type and the class. -/
def questionChecks (qlen : Nat) : List (Nat × UInt8) :=
  [(sizeofDnsPacket + qlen, 0), (sizeofDnsPacket + (qlen + 1), 0),
    (sizeofDnsPacket + (qlen + 3), 0), (sizeofDnsPacket + (qlen + 4), 1)]

/-! ## The reply -/

def udpHeaderLen : Nat := 8

/-- `alen`. -/
def addressLength (qtype : UInt8) : Nat := if qtype = 0x01 then 4 else 16

def messageLength (qlen : Nat) (qtype : UInt8) : Nat :=
  sizeofDnsPacket + qlen + 5 + 12 + addressLength qtype

/-- The ports and the length of `struct udphdr`; the ports stay as the tuple has them. -/
def udpFields (tuple : FiveTuple) (l3Len : Nat) : List Bytes :=
  [Bytes.littleEndian 2 tuple.dstPort.toNat, Bytes.littleEndian 2 tuple.srcPort.toNat,
    Bytes.bigEndian 2 l3Len]

/-- `dns_packet_t` and the queries, as they follow each other in the buffer. -/
def questionFields (l7 : Memory) (qlen : Nat) : List Bytes :=
  [l7.slice 0 2, Bytes.bigEndian 2 0x8180, l7.slice 4 2, l7.slice 4 2, [0, 0], [0, 0],
    l7.slice sizeofDnsPacket (qlen + 5)]

/-- The answer: a pointer to the name, the type, the class, the TTL and the address. -/
def answerFields (qtype : UInt8) : List Bytes :=
  [[0xc0, 0x0c], [0x00, qtype], [0x00, 0x01], Bytes.bigEndian 4 10,
    [0x00, UInt8.ofNat (addressLength qtype)], List.replicate (addressLength qtype) 0]

/-- The second step of `spoof_dns_reply`, up to the call of `write`. -/
def fillReply (helpers : IpHelpers) (tuple : FiveTuple) (l7 : Memory) (qlen : Nat)
    (qtype : UInt8) : Option Memory :=
  let iplen := helpers.iphdrLen
  let l3Len := udpHeaderLen + messageLength qlen qtype
  let buf : Memory := ⟨iplen + l3Len, fun _ => 0⟩
  (buf.writeFields 0 [helpers.makeIphdr l3Len]).bind fun buf =>
    (buf.writeFields iplen (udpFields tuple l3Len)).bind fun buf =>
      (buf.writeFields (iplen + udpHeaderLen)
          (questionFields l7 qlen ++ answerFields qtype)).bind fun buf =>
        (buf.write? (iplen + 6) [0, 0]).bind fun buf =>
          buf.write? (iplen + 6)
            (Bytes.littleEndian 2 (helpers.l3Checksum (buf.slice 0 buf.size)))

/-- How a call ends: it returns false, it leaves its buffer, or it writes a datagram to the
tunnel and returns true. -/
inductive SpoofOutcome where
  | refused
  | outOfBuffer
  | written (datagram : Bytes)
  deriving DecidableEq, Repr

/-- A call, with the offsets of the payload that it reads. -/
structure SpoofRun where
  reads : List Nat
  outcome : SpoofOutcome
  deriving DecidableEq, Repr

def sendReply (helpers : IpHelpers) (tuple : FiveTuple) (l7 : Memory) (qlen : Nat)
    (qtype : UInt8) : SpoofOutcome :=
  match fillReply helpers tuple l7 qlen qtype with
  | none => .outOfBuffer
  | some buf => .written (buf.slice 0 buf.size)

def copiedOffsets (qlen : Nat) : List Nat :=
  [0, 1, 4, 5] ++ List.range' sizeofDnsPacket (qlen + 5)

def spoofDnsReply (helpers : IpHelpers) (tuple : FiveTuple) (l7 : Memory) : SpoofRun :=
  if l7.size < sizeofDnsPacket + 5 then ⟨[], .refused⟩
  else if ntohsAt l7 4 ≠ 1 then ⟨[4, 5], .refused⟩
  else
    let (qlen, scanned) := questionLength l7 (l7.size - sizeofDnsPacket) 0
    let (valid, checked) := expectBytes l7 (questionChecks qlen)
    let reads := [4, 5] ++ scanned ++ checked
    if !valid then ⟨reads, .refused⟩
    else
      let qtype := l7.byte (sizeofDnsPacket + (qlen + 2))
      let reads := reads ++ [sizeofDnsPacket + (qlen + 2)]
      if qtype ≠ 0x01 ∧ qtype ≠ 0x1c then ⟨reads, .refused⟩
      else ⟨reads ++ copiedOffsets qlen, sendReply helpers tuple l7 qlen qtype⟩

/-! ## The end of the question -/

/-- The bytes of the payload behind the first `qlen` ones of the queries. -/
def QueriesAhead (l7 : Memory) (qlen : Nat) (bytes : Bytes) : Prop :=
  Cursor.Ahead l7 ⟨sizeofDnsPacket + qlen, bytes.length, []⟩ bytes

variable {l7 : Memory} {qlen : Nat}

theorem queriesAhead_zero (large : sizeofDnsPacket ≤ l7.size) :
    QueriesAhead l7 0 (l7.slice sizeofDnsPacket (l7.size - sizeofDnsPacket)) := by
  constructor
  · rfl
  · show sizeofDnsPacket + 0 + (l7.slice sizeofDnsPacket (l7.size - sizeofDnsPacket)).length = _
    rw [Memory.slice_length]
    omega
  · simp

theorem QueriesAhead.byte {first : UInt8} {rest : Bytes}
    (ahead : QueriesAhead l7 qlen (first :: rest)) : l7.byte (sizeofDnsPacket + qlen) = first :=
  Cursor.Ahead.byte ahead

theorem QueriesAhead.skip {front rest : Bytes} (ahead : QueriesAhead l7 qlen (front ++ rest)) :
    QueriesAhead l7 (qlen + front.length) rest := by
  have behind := Cursor.Ahead.advance ahead
  have moved : sizeofDnsPacket + (qlen + front.length) = sizeofDnsPacket + qlen + front.length :=
    (Nat.add_assoc _ _ _).symm
  unfold QueriesAhead
  rw [moved]
  exact ⟨rfl, behind.atEnd, behind.content⟩

/-- The loop stops at the first zero byte if the type and the class are behind it. -/
theorem questionLength_found {name rest : Bytes} (ahead : QueriesAhead l7 qlen (name ++ 0 :: rest))
    (plain : (0 : UInt8) ∉ name) (room : 4 ≤ rest.length) :
    questionLength l7 (name ++ 0 :: rest).length qlen =
      (qlen + name.length, List.range' (sizeofDnsPacket + qlen) (name.length + 1)) := by
  induction name generalizing qlen with
  | nil =>
    have enough : 5 ≤ rest.length + 1 := by omega
    rw [List.nil_append, List.length_cons, questionLength, if_pos enough, ahead.byte, if_pos rfl]
    rfl
  | cons first name ih =>
    rw [List.mem_cons, not_or] at plain
    have enough : 5 ≤ (name ++ 0 :: rest).length + 1 := by
      grind
    have tail : questionLength l7 (name ++ 0 :: rest).length (qlen + 1) = _ :=
      ih (@QueriesAhead.skip l7 qlen [first] _ ahead) plain.2
    rw [List.cons_append, List.length_cons, questionLength, if_pos enough, ahead.byte,
      if_neg (Ne.symm plain.1), tail, List.length_cons, @List.range'_succ (sizeofDnsPacket + qlen)]
    grind

/-- The loop stops four bytes before the end if there is no zero byte before. -/
theorem questionLength_cut {name tail : Bytes} (ahead : QueriesAhead l7 qlen (name ++ tail))
    (plain : (0 : UInt8) ∉ name) (four : tail.length = 4) :
    questionLength l7 (name ++ tail).length qlen =
      (qlen + name.length, List.range' (sizeofDnsPacket + qlen) name.length) := by
  induction name generalizing qlen with
  | nil =>
    rw [List.nil_append, four, questionLength, if_neg (by decide)]
    rfl
  | cons first name ih =>
    rw [List.mem_cons, not_or] at plain
    have enough : 5 ≤ (name ++ tail).length + 1 := by
      grind
    have rest : questionLength l7 (name ++ tail).length (qlen + 1) = _ :=
      ih (@QueriesAhead.skip l7 qlen [first] _ ahead) plain.2
    rw [List.cons_append, List.length_cons, questionLength, if_pos enough, ahead.byte,
      if_neg (Ne.symm plain.1), rest, List.length_cons, @List.range'_succ (sizeofDnsPacket + qlen)]
    grind

/-! ## The buffer -/

theorem length_udpFields (tuple : FiveTuple) (l3Len : Nat) :
    (udpFields tuple l3Len).flatten.length = 6 := by
  simp [udpFields]

theorem length_messageFields (l7 : Memory) (qlen : Nat) (qtype : UInt8) :
    (questionFields l7 qlen ++ answerFields qtype).flatten.length = messageLength qlen qtype := by
  simp [questionFields, answerFields, messageLength, sizeofDnsPacket]
  omega

/-- The datagram that the buffer holds at the end. -/
def replyDatagram (helpers : IpHelpers) (tuple : FiveTuple) (l7 : Memory) (qlen : Nat)
    (qtype : UInt8) (checksum : Nat) : Bytes :=
  let l3Len := udpHeaderLen + messageLength qlen qtype
  helpers.makeIphdr l3Len ++ ((udpFields tuple l3Len).flatten ++ (Bytes.littleEndian 2 checksum ++
    (questionFields l7 qlen ++ answerFields qtype).flatten))

/-- The buffer is never left, and filled up to its end. -/
theorem sendReply_eq (helpers : IpHelpers) (tuple : FiveTuple) (l7 : Memory) (qlen : Nat)
    (qtype : UInt8) :
    ∃ checksum, sendReply helpers tuple l7 qlen qtype =
      .written (replyDatagram helpers tuple l7 qlen qtype checksum) := by
  have udpLength := length_udpFields tuple (udpHeaderLen + messageLength qlen qtype)
  have length := length_messageFields l7 qlen qtype
  have ipLength := helpers.length_makeIphdr (udpHeaderLen + messageLength qlen qtype)
  unfold sendReply fillReply replyDatagram
  dsimp only
  generalize questionFields l7 qlen ++ answerFields qtype = fields at length ⊢
  generalize udpFields tuple (udpHeaderLen + messageLength qlen qtype) = udp at udpLength ⊢
  generalize helpers.makeIphdr (udpHeaderLen + messageLength qlen qtype) = ip at ipLength ⊢
  rw [← length, ← ipLength]
  generalize memory : (⟨ip.length + (udpHeaderLen + fields.flatten.length), fun _ => 0⟩ : Memory) =
    buf
  have size : buf.size = ip.length + (8 + fields.flatten.length) := by rw [← memory]; rfl
  have header : buf.writeFields 0 [ip] = some (buf.store 0 ip) := by
    rw [Memory.writeFields_eq_some (by grind), List.flatten_singleton]
  have udpWritten : (buf.store 0 ip).writeFields ip.length udp =
      some (buf.store 0 (ip ++ udp.flatten)) := by
    have joined := buf.store_store_append 0 ip udp.flatten
    rw [Nat.zero_add] at joined
    rw [Memory.writeFields_eq_some (by rw [Memory.store_size]; omega), joined]
  have message : (buf.store 0 (ip ++ udp.flatten)).writeFields (ip.length + udpHeaderLen) fields =
      some ((buf.store 0 (ip ++ udp.flatten)).store (ip.length + udpHeaderLen) fields.flatten) :=
    Memory.writeFields_eq_some (by rw [Memory.store_size, size, udpHeaderLen]; omega)
  generalize filled :
    (buf.store 0 (ip ++ udp.flatten)).store (ip.length + udpHeaderLen) fields.flatten = memory
    at message
  have sameSize : memory.size = buf.size := by
    rw [← filled]
    rfl
  have checksumField (other : Memory) (field : Bytes) (fits : other.size = buf.size)
      (two : field.length = 2) :
      other.write? (ip.length + 6) field = some (other.store (ip.length + 6) field) :=
    Memory.write?_eq_some (by omega)
  rw [header, Option.bind_some, udpWritten, Option.bind_some, message, Option.bind_some,
    checksumField memory [0, 0] sameSize rfl, Option.bind_some,
    checksumField (memory.store (ip.length + 6) [0, 0]) _ sameSize (Bytes.littleEndian_length _ _)]
  generalize helpers.l3Checksum _ = checksum
  refine ⟨checksum, congrArg SpoofOutcome.written ?_⟩
  have front : (ip ++ udp.flatten).length = ip.length + 6 := by grind
  have before : (memory.store (ip.length + 6) [0, 0]).slice 0 (ip ++ udp.flatten).length =
      ip ++ udp.flatten := by
    rw [Memory.slice_store_of_disjoint _ (Or.inl (by omega)), ← filled,
      Memory.slice_store_of_disjoint _ (Or.inl (by rw [udpHeaderLen]; omega)),
      Memory.slice_store_self]
  have behind : (memory.store (ip.length + 6) [0, 0]).slice
      ((ip ++ udp.flatten).length + (Bytes.littleEndian 2 checksum).length)
      fields.flatten.length = fields.flatten := by
    rw [front, Bytes.littleEndian_length, Memory.slice_store_of_disjoint _ (Or.inr (by simp)),
      ← filled]
    exact Memory.slice_store_self _ _ _
  have whole := Memory.slice_store_between (memory.store (ip.length + 6) [0, 0]) before behind
  rw [front, Bytes.littleEndian_length, List.append_assoc] at whole
  have total : memory.size = ip.length + 6 + (2 + fields.flatten.length) := by
    omega
  rw [Memory.store_size, Memory.store_size, total]
  exact whole

end PcapdroidFormal.Dns
