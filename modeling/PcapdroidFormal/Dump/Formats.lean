import PcapdroidFormal.Foundation.Framing
import PcapdroidFormal.Dump.Dumper

/-!
# The capture file formats

PCAP records and PCAPNG blocks as self-delimiting formats, independent of the
dumper that writes them.  A decoder reads the fields of a record in file
order; a reader of a capture only needs the decoded packet.
-/

namespace PcapdroidFormal.Dump

open Foundation

/-- What a reader of a capture learns about a packet. -/
structure DecodedPacket where
  tv : Timeval
  origLen : Nat
  data : Bytes
  deriving DecidableEq, Repr

/-! ## PCAP -/

structure PcapRecord where
  tsSec : Nat
  tsUsec : Nat
  origLen : Nat
  data : Bytes
  deriving DecidableEq, Repr

namespace PcapRecord

def encode (record : PcapRecord) : Bytes :=
  Bytes.littleEndian 4 record.tsSec ++ (Bytes.littleEndian 4 record.tsUsec ++
    (Bytes.littleEndian 4 record.data.length ++ (Bytes.littleEndian 4 record.origLen ++
      record.data)))

def decode : Decoder PcapRecord := fun input => do
  let (tsSec, input) ← Decoder.littleEndian 4 input
  let (tsUsec, input) ← Decoder.littleEndian 4 input
  let (inclLen, input) ← Decoder.littleEndian 4 input
  let (origLen, input) ← Decoder.littleEndian 4 input
  let (data, input) ← Decoder.takeBytes inclLen input
  some (⟨tsSec, tsUsec, origLen, data⟩, input)

/-- Every header field fits its 32 bits. -/
structure Fits (record : PcapRecord) : Prop where
  tsSec : record.tsSec < 2 ^ 32
  tsUsec : record.tsUsec < 2 ^ 32
  inclLen : record.data.length < 2 ^ 32
  origLen : record.origLen < 2 ^ 32

theorem encode_length (record : PcapRecord) :
    record.encode.length = sizeofPcapRec + record.data.length := by
  simp only [encode, List.length_append, Bytes.littleEndian_length, sizeofPcapRec]
  omega

theorem decode_encode (record : PcapRecord) (rest : Bytes) (fits : record.Fits) :
    decode (record.encode ++ rest) = some (record, rest) := by
  obtain ⟨sec, usec, incl, orig⟩ := fits
  simp only [decode, encode, List.append_assoc, Option.bind_eq_bind,
    Decoder.word_append _ sec, Decoder.word_append _ usec,
    Decoder.word_append _ incl, Decoder.word_append _ orig,
    Decoder.takeBytes_append rest rfl, Option.bind_some]

def packet (record : PcapRecord) : DecodedPacket :=
  ⟨⟨record.tsSec, record.tsUsec⟩, record.origLen, record.data⟩

end PcapRecord

def pcapFormat : Format PcapRecord where
  Fits := PcapRecord.Fits
  encode := PcapRecord.encode
  decode := PcapRecord.decode
  encode_ne_nil record empty := by
    have length := record.encode_length
    rw [empty] at length
    simp only [List.length_nil, sizeofPcapRec] at length
    omega
  decode_encode := PcapRecord.decode_encode

/-! ## PCAPNG -/

/-- One block of a PCAPNG file, with both copies of its length. -/
structure PcapngBlock where
  type : Nat
  totalLength : Nat
  body : Bytes
  trailingLength : Nat
  deriving DecidableEq, Repr

namespace PcapngBlock

def encode (block : PcapngBlock) : Bytes :=
  Bytes.littleEndian 4 block.type ++ (Bytes.littleEndian 4 block.totalLength ++
    (block.body ++ Bytes.littleEndian 4 block.trailingLength))

/-- The leading length delimits the block. -/
def decode : Decoder PcapngBlock := fun input => do
  let (type, input) ← Decoder.littleEndian 4 input
  let (totalLength, input) ← Decoder.littleEndian 4 input
  let (body, input) ← Decoder.takeBytes (totalLength - 12) input
  let (trailingLength, input) ← Decoder.littleEndian 4 input
  some (⟨type, totalLength, body, trailingLength⟩, input)

structure Fits (block : PcapngBlock) : Prop where
  type : block.type < 2 ^ 32
  totalLength : block.totalLength < 2 ^ 32
  body : block.totalLength = block.body.length + 12
  trailingLength : block.trailingLength < 2 ^ 32

theorem encode_length (block : PcapngBlock) : block.encode.length = block.body.length + 12 := by
  simp only [encode, List.length_append, Bytes.littleEndian_length]
  omega

theorem decode_encode (block : PcapngBlock) (rest : Bytes) (fits : block.Fits) :
    decode (block.encode ++ rest) = some (block, rest) := by
  obtain ⟨type, total, body, trailing⟩ := fits
  have width : block.body.length = block.totalLength - 12 := by omega
  simp only [decode, encode, List.append_assoc, Option.bind_eq_bind,
    Decoder.word_append _ type, Decoder.word_append _ total,
    Decoder.takeBytes_append _ width, Decoder.word_append _ trailing,
    Option.bind_some]

structure WellFormed (block : PcapngBlock) : Prop where
  equal : block.totalLength = block.trailingLength
  aligned : 4 ∣ block.totalLength

/-- The packet of an enhanced packet block; the timestamp counts microseconds. -/
def packet? (block : PcapngBlock) : Option DecodedPacket :=
  if block.type = 0x00000006 then do
    let (_, input) ← Decoder.littleEndian 4 block.body
    let (high, input) ← Decoder.littleEndian 4 input
    let (low, input) ← Decoder.littleEndian 4 input
    let (capturedLen, input) ← Decoder.littleEndian 4 input
    let (originalLen, input) ← Decoder.littleEndian 4 input
    let (data, _) ← Decoder.takeBytes capturedLen input
    let usec := high * 2 ^ 32 + low
    some ⟨⟨usec / 1000000, usec % 1000000⟩, originalLen, data⟩
  else none

/-- The payload of a decryption secrets block: its `secrets_length` bytes. -/
def secrets? (block : PcapngBlock) : Option Bytes :=
  if block.type = 0x0000000A then do
    let (_, input) ← Decoder.littleEndian 4 block.body
    let (secretsLength, input) ← Decoder.littleEndian 4 input
    let (data, _) ← Decoder.takeBytes secretsLength input
    some data
  else none

end PcapngBlock

def pcapngFormat : Format PcapngBlock where
  Fits := PcapngBlock.Fits
  encode := PcapngBlock.encode
  decode := PcapngBlock.decode
  encode_ne_nil block empty := by
    have length := block.encode_length
    grind
  decode_encode := PcapngBlock.decode_encode

end PcapdroidFormal.Dump
