import PcapdroidFormal.Dns.Bounds

/-!
# What a spoofed reply says

A decoder for UDP datagrams and DNS messages, and what it makes of the datagram that
`spoof_dns_reply` writes.  The name of a question is taken up to its first zero byte, as the
code does.
-/

namespace PcapdroidFormal.Dns

open PcapdroidFormal.Core (FiveTuple sizeofDnsPacket ntohs)
open Foundation

/-- `VPN_BUFFER_SIZE`, the most that `run_vpn` reads of a packet. -/
def vpnBufferSize : Nat := 32768

/-! ## Decoding -/

structure UdpDatagram where
  sourcePort : Nat
  destinationPort : Nat
  length : Nat
  payload : Bytes
  deriving DecidableEq, Repr

def decodeUdp (bytes : Bytes) : Option UdpDatagram :=
  if bytes.length < udpHeaderLen then none
  else some ⟨Bytes.ofBigEndian (bytes.take 2), Bytes.ofBigEndian ((bytes.drop 2).take 2),
    Bytes.ofBigEndian ((bytes.drop 4).take 2), bytes.drop udpHeaderLen⟩

structure DecodedQuestion where
  name : Bytes
  qtype : Nat
  qclass : Nat
  deriving DecidableEq, Repr

/-- The name of a record: an offset of the message, or bytes up to a zero byte. -/
inductive DecodedName where
  | pointer (offset : Nat)
  | plain (name : Bytes)
  deriving DecidableEq, Repr

structure DecodedRecord where
  name : DecodedName
  type : Nat
  «class» : Nat
  ttl : Nat
  rdata : Bytes
  deriving DecidableEq, Repr

structure DecodedMessage where
  id : Nat
  flags : Nat
  questions : List DecodedQuestion
  answers : List DecodedRecord
  authority : List DecodedRecord
  additional : List DecodedRecord
  deriving DecidableEq, Repr

/-- A number of some bytes, and what is behind it. -/
def takeNumber (width : Nat) (bytes : Bytes) : Option (Nat × Bytes) :=
  if bytes.length < width then none
  else some (Bytes.ofBigEndian (bytes.take width), bytes.drop width)

def takeName : Bytes → Option (Bytes × Bytes)
  | [] => none
  | byte :: rest =>
    if byte = 0 then some ([], rest)
    else (takeName rest).map fun found => (byte :: found.1, found.2)

def decodeQuestion (bytes : Bytes) : Option (DecodedQuestion × Bytes) := do
  let (name, bytes) ← takeName bytes
  let (qtype, bytes) ← takeNumber 2 bytes
  let (qclass, bytes) ← takeNumber 2 bytes
  return (⟨name, qtype, qclass⟩, bytes)

/-- A byte of `0xc0` or more starts a pointer of 14 bits. -/
def decodeName (bytes : Bytes) : Option (DecodedName × Bytes) :=
  if 0xc0 ≤ bytes.headD 0 then
    (takeNumber 2 bytes).map fun found => (.pointer (found.1 % 2 ^ 14), found.2)
  else (takeName bytes).map fun found => (.plain found.1, found.2)

def decodeRecord (bytes : Bytes) : Option (DecodedRecord × Bytes) := do
  let (name, bytes) ← decodeName bytes
  let (type, bytes) ← takeNumber 2 bytes
  let (cls, bytes) ← takeNumber 2 bytes
  let (ttl, bytes) ← takeNumber 4 bytes
  let (length, bytes) ← takeNumber 2 bytes
  if bytes.length < length then none
  else return (⟨name, type, cls, ttl, bytes.take length⟩, bytes.drop length)

def decodeMany {α : Type} (decode : Bytes → Option (α × Bytes)) :
    Nat → Bytes → Option (List α × Bytes)
  | 0, bytes => some ([], bytes)
  | count + 1, bytes => do
      let (first, bytes) ← decode bytes
      let (others, bytes) ← decodeMany decode count bytes
      return (first :: others, bytes)

/-- A message without bytes behind its last record. -/
def decodeMessage (bytes : Bytes) : Option DecodedMessage := do
  let (id, bytes) ← takeNumber 2 bytes
  let (flags, bytes) ← takeNumber 2 bytes
  let (qdcount, bytes) ← takeNumber 2 bytes
  let (ancount, bytes) ← takeNumber 2 bytes
  let (nscount, bytes) ← takeNumber 2 bytes
  let (arcount, bytes) ← takeNumber 2 bytes
  let (questions, bytes) ← decodeMany decodeQuestion qdcount bytes
  let (answers, bytes) ← decodeMany decodeRecord ancount bytes
  let (authority, bytes) ← decodeMany decodeRecord nscount bytes
  let (additional, bytes) ← decodeMany decodeRecord arcount bytes
  if bytes.isEmpty then return ⟨id, flags, questions, answers, authority, additional⟩ else none

theorem takeNumber_append {field rest : Bytes} {width : Nat} (length : field.length = width) :
    takeNumber width (field ++ rest) = some (Bytes.ofBigEndian field, rest) := by
  have enough : ¬ (field ++ rest).length < width := by
    grind
  rw [takeNumber, if_neg enough, List.take_left' length, List.drop_left' length]

theorem takeNumber_bind {Result : Type} {field rest : Bytes} {width : Nat}
    (length : field.length = width) {next : Nat × Bytes → Option Result} :
    (takeNumber width (field ++ rest) >>= next) = next (Bytes.ofBigEndian field, rest) := by
  rw [takeNumber_append length]
  rfl

theorem takeName_append {name : Bytes} (plain : (0 : UInt8) ∉ name) (rest : Bytes) :
    takeName (name ++ 0 :: rest) = some (name, rest) := by
  induction name with
  | nil => rw [List.nil_append, takeName, if_pos rfl]
  | cons byte name ih =>
    rw [List.mem_cons, not_or] at plain
    rw [List.cons_append, takeName, if_neg (Ne.symm plain.1), ih plain.2, Option.map_some]

/-- The number of a port, as the network order of its bytes gives it. -/
theorem ofBigEndian_port (port : UInt16) :
    Bytes.ofBigEndian (Bytes.littleEndian 2 port.toNat) = (ntohs port).toNat := by
  have bound := port.toNat_lt
  have bytes : Bytes.ofBigEndian (Bytes.littleEndian 2 port.toNat) =
      port.toNat / 256 + 256 * (port.toNat % 256) := by
    simp only [Bytes.ofBigEndian, Bytes.littleEndian, List.reverse_cons, List.reverse_nil,
      List.nil_append, List.cons_append, Bytes.ofLittleEndian, UInt8.toNat_ofNat']
    omega
  have swapped : (ntohs port).toNat = port.toNat / 256 ||| (port.toNat % 256) <<< 8 := by
    have low : port.toNat <<< 8 % 2 ^ 16 = (port.toNat % 256) <<< 8 := by
      omega
    have high : port.toNat >>> 8 = port.toNat / 256 := Nat.shiftRight_eq_div_pow _ _
    exact congrArg₂ (· ||| ·) high low
  have small : port.toNat / 256 < 2 ^ 8 := by omega
  rw [bytes, swapped, Nat.or_comm, ← Nat.shiftLeft_add_eq_or_of_lt small, Nat.shiftLeft_eq]
  omega

/-! ## The reply -/

section Question

variable {l7 : Memory} {name rest : Bytes} {qtype qclass : UInt16}

/-- The payload has a header, and a question with its type and class behind it. -/
structure Asks (l7 : Memory) (name : Bytes) (qtype qclass : UInt16) (rest : Bytes) : Prop where
  header : sizeofDnsPacket ≤ l7.size
  plain : (0 : UInt8) ∉ name
  question : queriesOf l7 = name ++ 0 ::
    (Bytes.bigEndian 2 qtype.toNat ++ (Bytes.bigEndian 2 qclass.toNat ++ rest))

def highByte (value : UInt16) : UInt8 := UInt8.ofNat (value.toNat / 256 % 256)

def lowByte (value : UInt16) : UInt8 := UInt8.ofNat (value.toNat % 256)

theorem bigEndian_two (value : UInt16) :
    Bytes.bigEndian 2 value.toNat = [highByte value, lowByte value] := rfl

/-- A number of one byte. -/
theorem eq_ofNat_iff (value : UInt16) (low : UInt8) :
    highByte value = 0 ∧ lowByte value = low ↔ value.toNat = low.toNat := by
  have bound := value.toNat_lt
  have lowBound := low.toNat_lt
  have high : highByte value = 0 ↔ value.toNat / 256 % 256 = 0 := by
    rw [← UInt8.toNat_inj, highByte, UInt8.toNat_ofNat', UInt8.toNat_zero]
    omega
  have lowValue : lowByte value = low ↔ value.toNat % 256 = low.toNat := by
    rw [← UInt8.toNat_inj, lowByte, UInt8.toNat_ofNat']
    omega
  rw [high, lowValue]
  omega

section

variable (asks : Asks l7 name qtype qclass rest)
include asks

theorem Asks.ahead : QueriesAhead l7 name.length
      (0 :: highByte qtype :: lowByte qtype :: highByte qclass :: lowByte qclass :: rest) := by
  have start : QueriesAhead l7 0 (queriesOf l7) := queriesAhead_zero asks.header
  rw [asks.question] at start
  have behind := start.skip
  rw [Nat.zero_add, bigEndian_two, bigEndian_two] at behind
  exact behind

theorem Asks.size : l7.size = sizeofDnsPacket + name.length + 5 + rest.length := by
  have length : (queriesOf l7).length = l7.size - sizeofDnsPacket := Memory.slice_length _ _ _
  rw [asks.question] at length
  simp only [List.length_append, List.length_cons, Bytes.bigEndian_length] at length
  omega

/-- What the request is refused for. -/
theorem Asks.outcome (helpers : IpHelpers) (tuple : FiveTuple) :
    (spoofDnsReply helpers tuple l7).outcome =
      if ntohsAt l7 4 = 1 ∧ qclass = 1 ∧ (qtype = 1 ∨ qtype = 28) then
        sendReply helpers tuple l7 name.length (lowByte qtype)
      else .refused := by
  have size := asks.size
  have ahead := asks.ahead
  have start : QueriesAhead l7 0 (queriesOf l7) := queriesAhead_zero asks.header
  have length : (queriesOf l7).length = l7.size - sizeofDnsPacket := Memory.slice_length _ _ _
  have found : (questionLength l7 (l7.size - sizeofDnsPacket) 0).1 = name.length := by
    rw [← length, asks.question]
    rw [asks.question] at start
    rw [questionLength_found start asks.plain (by simp; omega), Nat.zero_add]
  have byte₀ : l7.byte (sizeofDnsPacket + name.length) = 0 := ahead.byte
  have byte₁ : l7.byte (sizeofDnsPacket + (name.length + 1)) = highByte qtype :=
    (@QueriesAhead.skip l7 _ [0] _ ahead).byte
  have byte₂ : l7.byte (sizeofDnsPacket + (name.length + 2)) = lowByte qtype :=
    (@QueriesAhead.skip l7 _ [0, highByte qtype] _ ahead).byte
  have byte₃ : l7.byte (sizeofDnsPacket + (name.length + 3)) = highByte qclass :=
    (@QueriesAhead.skip l7 _ [0, highByte qtype, lowByte qtype] _ ahead).byte
  have byte₄ : l7.byte (sizeofDnsPacket + (name.length + 4)) = lowByte qclass :=
    (@QueriesAhead.skip l7 _ [0, highByte qtype, lowByte qtype, highByte qclass] _ ahead).byte
  have valid : (expectBytes l7 (questionChecks name.length)).1 = true ↔
      highByte qtype = 0 ∧ qclass = 1 := by
    have asked : qclass = 1 ↔ highByte qclass = 0 ∧ lowByte qclass = 1 := by
      rw [eq_ofNat_iff, ← UInt16.toNat_inj]
      rfl
    simp only [questionChecks, expectBytes, byte₀, byte₁, byte₃, byte₄, if_true]
    grind
  have type (number : UInt16) (low : UInt8) (same : low.toNat = number.toNat) :
      qtype = number ↔ highByte qtype = 0 ∧ lowByte qtype = low := by
    rw [eq_ofNat_iff, same, UInt16.toNat_inj]
  have address := type 1 1 rfl
  have address6 := type 28 0x1c rfl
  unfold spoofDnsReply
  by_cases single : ntohsAt l7 4 = 1
  · rw [if_neg (not_not.mpr single)]
    by_cases accepted : highByte qtype = 0 ∧ qclass = 1
    · have passed := valid.mpr accepted
      by_cases known : lowByte qtype = 0x01 ∨ lowByte qtype = 0x1c
      · grind
      · grind
    · have failed : (expectBytes l7 (questionChecks name.length)).1 = false :=
        Bool.eq_false_iff.mpr fun passed => accepted (valid.mp passed)
      grind
  · grind

end

/-- The reply to a question. -/
def replyMessage (id : Nat) (name : Bytes) (qtype : UInt16) : DecodedMessage where
  id := id
  flags := 0x8180
  questions := [⟨name, qtype.toNat, 1⟩]
  answers := [⟨.pointer sizeofDnsPacket, qtype.toNat, 1, 10,
    List.replicate (if qtype = 1 then 4 else 16) 0⟩]
  authority := []
  additional := []

/-- The answer is decoded as it is meant. -/
theorem decodeRecord_answer {low : UInt8} (known : low = 0x01 ∨ low = 0x1c) :
    decodeRecord (answerFields low).flatten =
      some (⟨.pointer sizeofDnsPacket, low.toNat, 1, 10,
        List.replicate (addressLength low) 0⟩, []) := by
  rcases known with rfl | rfl
  · decide
  · decide

theorem ofBigEndian_two (value : UInt16) :
    Bytes.ofBigEndian (Bytes.bigEndian 2 value.toNat) = value.toNat :=
  Bytes.ofBigEndian_of_lt (show value.toNat < 256 ^ 2 from value.toNat_lt)

theorem decodeQuestion_append {name : Bytes} (plain : (0 : UInt8) ∉ name) (qtype qclass : UInt16)
    (rest : Bytes) :
    decodeQuestion (name ++ 0 :: (Bytes.bigEndian 2 qtype.toNat ++
        (Bytes.bigEndian 2 qclass.toNat ++ rest))) =
      some (⟨name, qtype.toNat, qclass.toNat⟩, rest) := by
  have width (value : Nat) : (Bytes.bigEndian 2 value).length = 2 := Bytes.bigEndian_length _ _
  simp only [decodeQuestion, takeName_append plain, takeNumber_append (width _),
    Option.bind_eq_bind, Option.bind_some, ofBigEndian_two]
  rfl

/-- The question is copied byte by byte. -/
theorem Asks.copied (asks : Asks l7 name qtype qclass rest) :
    l7.slice sizeofDnsPacket (name.length + 5) =
      name ++ 0 :: (Bytes.bigEndian 2 qtype.toNat ++ Bytes.bigEndian 2 qclass.toNat) := by
  have start : QueriesAhead l7 0 (queriesOf l7) := queriesAhead_zero asks.header
  have split : queriesOf l7 = (name ++ 0 :: (Bytes.bigEndian 2 qtype.toNat ++
      Bytes.bigEndian 2 qclass.toNat)) ++ rest := by
    rw [asks.question, List.append_assoc, List.cons_append, List.append_assoc]
  rw [split] at start
  have front := Cursor.Ahead.front start
  have length : (name ++ 0 :: (Bytes.bigEndian 2 qtype.toNat ++
      Bytes.bigEndian 2 qclass.toNat)).length = name.length + 5 := by simp
  grind

/-- A message without further records is its header, its questions and its answers. -/
theorem decodeMessage_append {id flags qdcount ancount nscount arcount body behind : Bytes}
    {questions : List DecodedQuestion} {answers : List DecodedRecord}
    (widths : ∀ field ∈ [id, flags, qdcount, ancount, nscount, arcount], field.length = 2)
    (asked : decodeMany decodeQuestion (Bytes.ofBigEndian qdcount) body =
      some (questions, behind))
    (answered : decodeMany decodeRecord (Bytes.ofBigEndian ancount) behind = some (answers, []))
    (noAuthority : Bytes.ofBigEndian nscount = 0) (noAdditional : Bytes.ofBigEndian arcount = 0) :
    decodeMessage (id ++ (flags ++ (qdcount ++ (ancount ++ (nscount ++ (arcount ++ body)))))) =
      some ⟨Bytes.ofBigEndian id, Bytes.ofBigEndian flags, questions, answers, [], []⟩ := by
  simp only [List.forall_mem_cons] at widths
  obtain ⟨ofId, ofFlags, ofQdcount, ofAncount, ofNscount, ofArcount, -⟩ := widths
  apply (takeNumber_bind ofId).trans
  apply (takeNumber_bind ofFlags).trans
  apply (takeNumber_bind ofQdcount).trans
  apply (takeNumber_bind ofAncount).trans
  apply (takeNumber_bind ofNscount).trans
  apply (takeNumber_bind ofArcount).trans
  dsimp only
  rw [asked, Option.bind_eq_bind, Option.bind_some]
  rw [answered, noAuthority, noAdditional]
  rfl

/-- The message of the reply is decoded as it is meant. -/
theorem Asks.decode (asks : Asks l7 name qtype 1 rest) (single : ntohsAt l7 4 = 1)
    (known : qtype = 1 ∨ qtype = 28) :
    decodeMessage (questionFields l7 name.length ++ answerFields (lowByte qtype)).flatten =
      some (replyMessage (ntohsAt l7 0) name qtype) := by
  have low : (lowByte qtype).toNat = qtype.toNat ∧
      addressLength (lowByte qtype) = (if qtype = 1 then 4 else 16) ∧
      (lowByte qtype = 0x01 ∨ lowByte qtype = 0x1c) := by
    rcases known with rfl | rfl
    · exact ⟨rfl, rfl, Or.inl rfl⟩
    · exact ⟨rfl, rfl, Or.inr rfl⟩
  have answer := decodeRecord_answer low.2.2
  rw [low.1, low.2.1] at answer
  have question := decodeQuestion_append asks.plain qtype 1
  have one : Bytes.ofBigEndian (l7.slice 4 2) = 1 := single
  have message : (questionFields l7 name.length ++ answerFields (lowByte qtype)).flatten =
      l7.slice 0 2 ++ (Bytes.bigEndian 2 0x8180 ++ (l7.slice 4 2 ++ (l7.slice 4 2 ++
        ([0, 0] ++ ([0, 0] ++ (name ++ 0 :: (Bytes.bigEndian 2 qtype.toNat ++
          (Bytes.bigEndian 2 (1 : UInt16).toNat ++
            (answerFields (lowByte qtype)).flatten)))))))) := by
    simp only [questionFields, asks.copied, List.flatten_cons, List.append_assoc,
      List.cons_append, List.nil_append]
  rw [message]
  apply decodeMessage_append
  · simp
  · rw [one, decodeMany, question]
    rfl
  · rw [one, decodeMany, answer]
    rfl
  · rfl
  · rfl

end Question

/-- The datagram of the reply is decoded as it is meant. -/
theorem decodeUdp_reply {helpers : IpHelpers} {tuple : FiveTuple} {l7 : Memory} {name : Bytes}
    {low : UInt8} (checksum : Nat) (fits : udpHeaderLen + messageLength name.length low < 65536) :
    let datagram := replyDatagram helpers tuple l7 name.length low checksum
    datagram.length = helpers.iphdrLen + (udpHeaderLen + messageLength name.length low) ∧
      datagram.take helpers.iphdrLen =
        helpers.makeIphdr (udpHeaderLen + messageLength name.length low) ∧
      decodeUdp (datagram.drop helpers.iphdrLen) =
        some ⟨(ntohs tuple.dstPort).toNat, (ntohs tuple.srcPort).toNat,
          udpHeaderLen + messageLength name.length low,
          (questionFields l7 name.length ++ answerFields low).flatten⟩ := by
  have header := helpers.length_makeIphdr (udpHeaderLen + messageLength name.length low)
  have message := length_messageFields l7 name.length low
  have udp : (udpFields tuple (udpHeaderLen + messageLength name.length low)).flatten =
      Bytes.littleEndian 2 tuple.dstPort.toNat ++ (Bytes.littleEndian 2 tuple.srcPort.toNat ++
        Bytes.bigEndian 2 (udpHeaderLen + messageLength name.length low)) := by
    rw [udpFields, List.flatten_cons, List.flatten_cons, List.flatten_singleton]
  have width (value : Nat) : (Bytes.littleEndian 2 value).length = 2 := Bytes.littleEndian_length _ _
  have length := Bytes.ofBigEndian_of_lt (show _ < 256 ^ 2 from fits)
  dsimp only [replyDatagram]
  generalize (questionFields l7 name.length ++ answerFields low).flatten = fields at message ⊢
  generalize helpers.makeIphdr (udpHeaderLen + messageLength name.length low) = ip at header ⊢
  rw [udp]
  rw [← message] at length ⊢
  have eight : udpHeaderLen = 8 := rfl
  refine ⟨?_, List.take_left' header, ?_⟩
  · simp only [List.length_append, Bytes.littleEndian_length, Bytes.bigEndian_length, header]
    omega
  · rw [List.drop_left' header]
    simp only [List.append_assoc]
    have behind (first rest : Bytes) (two : first.length = 2) (count : Nat) :
        (first ++ rest).drop (count + 2) = rest.drop count := by
      rw [Nat.add_comm, ← List.drop_drop, List.drop_left' two]
    generalize portsSplit : Bytes.littleEndian 2 tuple.dstPort.toNat ++
      (Bytes.littleEndian 2 tuple.srcPort.toNat ++
        (Bytes.bigEndian 2 (udpHeaderLen + fields.length) ++
          (Bytes.littleEndian 2 checksum ++ fields))) = bytes
    have enough : ¬ bytes.length < udpHeaderLen := by
      rw [← portsSplit]
      simp only [List.length_append, Bytes.littleEndian_length, Bytes.bigEndian_length]
      omega
    have source : bytes.take 2 = Bytes.littleEndian 2 tuple.dstPort.toNat := by
      grind
    have destination : (bytes.drop 2).take 2 = Bytes.littleEndian 2 tuple.srcPort.toNat := by
      grind
    have lengthField : (bytes.drop 4).take 2 =
        Bytes.bigEndian 2 (udpHeaderLen + fields.length) := by
      rw [← portsSplit, behind _ _ (width _) 2, behind _ _ (width _) 0, List.drop_zero,
        List.take_left' (Bytes.bigEndian_length _ _)]
    have payload : bytes.drop udpHeaderLen = fields := by
      rw [← portsSplit, eight, behind _ _ (width _) 6, behind _ _ (width _) 4,
        behind _ _ (Bytes.bigEndian_length _ _) 2, behind _ _ (width _) 0, List.drop_zero]
    rw [decodeUdp, if_neg enough, source, destination, lengthField, payload, length,
      ofBigEndian_port, ofBigEndian_port]

/-- A request whose question lies inside of the payload is answered just if it is a single
question for an address, and the reply says so. -/
theorem spoofed_reply_answers (helpers : IpHelpers) (tuple : FiveTuple) {l7 : Memory}
    (small : l7.size + 28 ≤ vpnBufferSize) {name rest : Bytes} {qtype qclass : UInt16}
    (asks : Asks l7 name qtype qclass rest) :
    ((∃ datagram, (spoofDnsReply helpers tuple l7).outcome = .written datagram) ↔
        ntohsAt l7 4 = 1 ∧ qclass = 1 ∧ (qtype = 1 ∨ qtype = 28)) ∧
      ((¬ ∃ datagram, (spoofDnsReply helpers tuple l7).outcome = .written datagram) →
        (spoofDnsReply helpers tuple l7).outcome = .refused) ∧
      ∀ datagram, (spoofDnsReply helpers tuple l7).outcome = .written datagram →
        datagram.take helpers.iphdrLen =
            helpers.makeIphdr (datagram.length - helpers.iphdrLen) ∧
          ∃ udp, decodeUdp (datagram.drop helpers.iphdrLen) = some udp ∧
            udp.sourcePort = (ntohs tuple.dstPort).toNat ∧
            udp.destinationPort = (ntohs tuple.srcPort).toNat ∧
            udp.length = datagram.length - helpers.iphdrLen ∧
            (udp.payload.drop sizeofDnsPacket).take (name.length + 5) =
              l7.slice sizeofDnsPacket (name.length + 5) ∧
            decodeMessage udp.payload = some (replyMessage (ntohsAt l7 0) name qtype) := by
  have outcome := asks.outcome helpers tuple
  by_cases asked : ntohsAt l7 4 = 1 ∧ qclass = 1 ∧ (qtype = 1 ∨ qtype = 28)
  · obtain ⟨checksum, sent⟩ := sendReply_eq helpers tuple l7 name.length (lowByte qtype)
    rw [if_pos asked, sent] at outcome
    obtain ⟨single, rfl, known⟩ := asked
    have fits : udpHeaderLen + messageLength name.length (lowByte qtype) < 65536 := by
      have size := asks.size
      have address : addressLength (lowByte qtype) ≤ 16 := by
        unfold addressLength
        split <;> decide
      have buffer : vpnBufferSize = 32768 := rfl
      rw [messageLength, udpHeaderLen]
      omega
    obtain ⟨length, header, decoded⟩ := @decodeUdp_reply helpers tuple l7 name _ checksum fits
    have l3Len : (replyDatagram helpers tuple l7 name.length (lowByte qtype) checksum).length -
        helpers.iphdrLen = udpHeaderLen + messageLength name.length (lowByte qtype) := by
      rw [length, Nat.add_sub_cancel_left]
    refine ⟨iff_of_true ⟨_, outcome⟩ ⟨single, rfl, known⟩, fun none => absurd ⟨_, outcome⟩ none, ?_⟩
    intro datagram written
    obtain rfl := SpoofOutcome.written.inj (outcome.symm.trans written)
    refine ⟨by rw [header, l3Len], _, decoded, rfl, rfl, l3Len.symm, ?_, asks.decode single known⟩
    have split : (questionFields l7 name.length ++ answerFields (lowByte qtype)).flatten =
        (l7.slice 0 2 ++ (Bytes.bigEndian 2 0x8180 ++ (l7.slice 4 2 ++ (l7.slice 4 2 ++
          ([0, 0] ++ [0, 0]))))) ++ (l7.slice sizeofDnsPacket (name.length + 5) ++
            (answerFields (lowByte qtype)).flatten) := by
      simp only [questionFields, List.flatten_cons, List.append_assoc, List.cons_append,
        List.nil_append]
    have twelve : (l7.slice 0 2 ++ (Bytes.bigEndian 2 0x8180 ++ (l7.slice 4 2 ++ (l7.slice 4 2 ++
        ([0, 0] ++ [0, 0]))))).length = sizeofDnsPacket := by
      rfl
    rw [split, List.drop_left' twelve, List.take_left' (l7.slice_length _ _)]
  · rw [if_neg asked] at outcome
    have refused : ¬ ∃ datagram, (spoofDnsReply helpers tuple l7).outcome = .written datagram := by
      rintro ⟨datagram, written⟩
      exact absurd (outcome.symm.trans written) (by rintro ⟨⟩)
    refine ⟨iff_of_false refused asked, fun _ => outcome, ?_⟩
    intro datagram written
    exact absurd ⟨datagram, written⟩ refused

/-- A request for the address of `a.b`. -/
def shortRequest : Bytes :=
  [0, 7, 1, 0, 0, 1, 0, 0, 0, 0, 0, 0] ++ [1, 97, 1, 98, 0, 0, 1, 0, 1]

theorem short_request_is_answered :
    (payloadOf shortRequest).size + 28 ≤ vpnBufferSize ∧
      Asks (payloadOf shortRequest) [1, 97, 1, 98] 1 1 [] ∧
      ∃ datagram, (spoofDnsReply zeroHelpers dnsTuple (payloadOf shortRequest)).outcome =
        .written datagram := by
  have small : (payloadOf shortRequest).size + 28 ≤ vpnBufferSize := by decide
  have asks : Asks (payloadOf shortRequest) [1, 97, 1, 98] 1 1 [] :=
    ⟨by decide, by decide, by decide⟩
  exact ⟨small, asks,
    (spoofed_reply_answers zeroHelpers dnsTuple small asks).1.mpr ⟨by decide, rfl, Or.inl rfl⟩⟩

end PcapdroidFormal.Dns
