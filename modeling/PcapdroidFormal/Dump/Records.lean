import PcapdroidFormal.Dump.Formats

/-!
# What the record writers leave in the buffer

Each writer performs a sequence of small stores.  Here they are shown to be
one store of one encoded record at `buffer_idx`, which is all the rest of the
development uses.
-/

namespace PcapdroidFormal.Dump

open Foundation

/-- The first `min(pktlen, snaplen)` bytes. -/
def Packet.captured (packet : Packet) (snaplen : Nat) : Bytes :=
  packet.data.take (min packet.data.length snaplen)

@[simp] theorem Packet.captured_length (packet : Packet) (snaplen : Nat) :
    (packet.captured snaplen).length = min packet.data.length snaplen := by
  simp only [Packet.captured, List.length_take]
  omega

section

variable (appname : Int → Bytes) (dumper : Dumper) (packet : Packet) (memory : Memory) (uid : Int)

theorem Dumper.pcapRecSize_pos (pktLen : Nat) :
    0 < dumper.pcapRecSize pktLen := by
  cases mode : dumper.mode <;> simp [pcapRecSize, mode, sizeofPcapRec, sizeofEnhPacketBlock]

/-! ## PCAP records -/

/-- The record `dump_packet_pcap` writes without the trailer. -/
def Packet.pcapRecord (packet : Packet) (snaplen : Nat) : PcapRecord :=
  ⟨packet.tv.sec, packet.tv.usec, packet.data.length, packet.captured snaplen⟩

theorem Packet.pcapRecord_length (dumper : Dumper) (mode : dumper.mode = .pcapDump) :
    (packet.pcapRecord dumper.snaplen).encode.length =
      dumper.pcapRecSize packet.data.length := by
  rw [PcapRecord.encode_length]
  simp only [Packet.pcapRecord, Packet.captured_length, Dumper.pcapRecSize, mode]
  omega

theorem Dumper.dumpPacketPcap_plain (mode : dumper.mode = .pcapDump)
    (room : dumper.bufferIdx + dumper.pcapRecSize packet.data.length ≤ dumper.buffer.size) :
    dumpPacketPcap appname dumper packet (dumper.pcapRecSize packet.data.length) =
      some { dumper with
        buffer := dumper.buffer.store dumper.bufferIdx
          (packet.pcapRecord dumper.snaplen).encode } := by
  have incl : dumper.pcapRecSize packet.data.length - sizeofPcapRec =
      min packet.data.length dumper.snaplen := by
    simp [pcapRecSize, mode]
  have size : dumper.pcapRecSize packet.data.length =
      min packet.data.length dumper.snaplen + 16 := by
    simp [pcapRecSize, mode, sizeofPcapRec]
  simp only [dumpPacketPcap, mode, incl, Option.bind_eq_bind, reduceCtorEq, if_false]
  rw [Memory.write?_bind (by simp; omega)]
  repeat rw [Memory.write?_extend_bind (by simp [sizeofPcapRec])
    (by simp [sizeofPcapRec]; omega)]
  have copied : min packet.data.length (min packet.data.length dumper.snaplen) =
      min packet.data.length dumper.snaplen := by omega
  simp only [PcapRecord.encode, Packet.pcapRecord, Packet.captured_length, copied,
    List.append_assoc]
  rfl

/-! ## PCAPNG blocks -/

/-- The timestamp `dump_packet_pcapng` computes, in microseconds. -/
def Packet.nowUsec (packet : Packet) : Nat :=
  (packet.tv.sec * 1000000 + packet.tv.usec) % 2 ^ 64

/-- The enhanced packet block `dump_packet_pcapng` writes. -/
def Packet.enhPacketBlock (packet : Packet) (snaplen : Nat) : PcapngBlock :=
  let capturedLen := min packet.data.length snaplen
  let totalLength := sizeofEnhPacketBlock + 4 + capturedLen + padding capturedLen
  { type := 0x00000006
    totalLength := totalLength
    body := Bytes.littleEndian 4 0 ++ (Bytes.littleEndian 4 (packet.nowUsec / 2 ^ 32) ++
      (Bytes.littleEndian 4 packet.nowUsec ++ (Bytes.littleEndian 4 capturedLen ++
        (Bytes.littleEndian 4 packet.data.length ++ (packet.captured snaplen ++
          List.replicate (padding capturedLen) 0)))))
    trailingLength := totalLength }

theorem Packet.enhPacketBlock_length (dumper : Dumper) (mode : dumper.mode = .pcapngDump) :
    (packet.enhPacketBlock dumper.snaplen).encode.length =
      dumper.pcapRecSize packet.data.length := by
  rw [PcapngBlock.encode_length]
  simp only [Packet.enhPacketBlock, List.length_append, Bytes.littleEndian_length,
    Packet.captured_length, List.length_replicate, Dumper.pcapRecSize, mode,
    sizeofEnhPacketBlock]
  omega

theorem Dumper.dumpPacketPcapng_eq (mode : dumper.mode = .pcapngDump)
    (room : dumper.bufferIdx + dumper.pcapRecSize packet.data.length ≤ dumper.buffer.size) :
    dumpPacketPcapng dumper packet (dumper.pcapRecSize packet.data.length) =
      some { dumper with
        buffer := dumper.buffer.store dumper.bufferIdx
          (packet.enhPacketBlock dumper.snaplen).encode } := by
  have size : dumper.pcapRecSize packet.data.length =
      sizeofEnhPacketBlock + 4 + min packet.data.length dumper.snaplen +
        padding (min packet.data.length dumper.snaplen) := by
    simp [pcapRecSize, mode]
  rw [size] at room ⊢
  generalize caught : min packet.data.length dumper.snaplen = capturedLen at *
  simp only [sizeofEnhPacketBlock] at room
  simp only [dumpPacketPcapng, caught, Option.bind_eq_bind]
  rw [Memory.write?_bind (by simp; omega)]
  repeat rw [Memory.write?_extend_bind (by simp [sizeofEnhPacketBlock] <;> omega)
    (by simp [sizeofEnhPacketBlock]; omega)]
  simp only [List.append_assoc]
  rw [Memory.slice_field _ (Bytes.littleEndian 4 6) _ _ rfl (by simp) (by simp)]
  simp only [PcapngBlock.encode, Packet.enhPacketBlock, Packet.nowUsec, Packet.captured, caught,
    List.append_assoc]

/-! ## Ethernet frames with the trailer -/

/-- The bogus Ethernet header: null addresses and the protocol of the packet. -/
def ethernetHeader (data : Bytes) : Bytes :=
  List.replicate 12 0 ++ Dumper.protocolField data

@[simp] theorem ethernetHeader_length (data : Bytes) : (ethernetHeader data).length = 14 := by
  simp [ethernetHeader, Dumper.protocolField]

@[simp] theorem uidField_length (uid : Int) : (Dumper.uidField uid).length = 4 := by
  simp [Dumper.uidField]

@[simp] theorem appnameField_length (name : Bytes) : (Dumper.appnameField name).length = 20 := by
  simp only [Dumper.appnameField, List.length_append, List.length_take, List.length_replicate]
  omega

/-- The trailer up to its checksum. -/
def trailerFields (appname : Int → Bytes) (uid : Int) : Bytes :=
  Bytes.bigEndian 4 pcapdroidTrailerMagic ++ (Dumper.uidField uid ++
    Dumper.appnameField (appname uid))

@[simp] theorem trailerFields_length (appname : Int → Bytes) (uid : Int) :
    (trailerFields appname uid).length = 28 := by
  simp [trailerFields]

/-- A frame body completed by padding and the trailer, without the checksum. -/
def paddedFrame (appname : Int → Bytes) (uid : Int) (body : Bytes) : Bytes :=
  body ++ (List.replicate (padding body.length) 0 ++ trailerFields appname uid)

/-- The frame with the checksum of everything before it. -/
def checkedFrame (appname : Int → Bytes) (uid : Int) (body : Bytes) : Bytes :=
  let frame := paddedFrame appname uid body
  frame ++ Bytes.littleEndian 4 (crc32 frame 0).toNat

theorem checkedFrame_length (body : Bytes) :
    (checkedFrame appname uid body).length =
      body.length + padding body.length + sizeofPcapdroidTrailer := by
  simp only [checkedFrame, paddedFrame, List.length_append, List.length_replicate,
    trailerFields_length, Bytes.littleEndian_length, sizeofPcapdroidTrailer]
  omega

theorem Dumper.writeTrailer_eq
    {record inclLen : Nat} {header body : Bytes} (origLen : Nat) (width : header.length = 12)
    (total : body.length + padding body.length + sizeofPcapdroidTrailer = inclLen)
    (room : record + sizeofPcapRec + inclLen ≤ memory.size) :
    writeTrailer appname (memory.store record (header ++ (Bytes.littleEndian 4 origLen ++ body)))
        record (record + sizeofPcapRec) body.length inclLen uid =
      some (memory.store record (header ++ (Bytes.littleEndian 4
        (origLen % 2 ^ 32 + padding body.length + sizeofPcapdroidTrailer) ++
          checkedFrame appname uid body))) := by
  subst total
  simp only [sizeofPcapRec, sizeofPcapdroidTrailer] at room
  have zeros : List.replicate sizeofPcapdroidTrailer (0 : UInt8) =
      List.replicate 4 0 ++ (List.replicate 4 0 ++ (List.replicate 20 0 ++ List.replicate 4 0)) :=
    rfl
  simp only [writeTrailer, Option.bind_eq_bind, zeros]
  rw [Memory.write?_extend _ (by simp [width, sizeofPcapRec]; omega)
      (by simp only [List.length_replicate, sizeofPcapRec]; omega), Option.bind_some,
    Memory.write?_extend _ (by simp [width, sizeofPcapRec]; omega)
      (by simp only [List.length_append, List.length_replicate, sizeofPcapRec]; omega),
    Option.bind_some,
    Memory.write?_field _ (header ++ (Bytes.littleEndian 4 origLen ++
        (body ++ List.replicate (padding body.length) 0)))
      (List.replicate 4 0) (List.replicate 4 0 ++ (List.replicate 20 0 ++
        List.replicate 4 0))
      (by simp only [List.append_assoc]) (by simp [width, sizeofPcapRec]; omega) (by simp)
      (by simp [width]; omega), Option.bind_some,
    Memory.write?_field _ (header ++ (Bytes.littleEndian 4 origLen ++
        (body ++ (List.replicate (padding body.length) 0 ++
          Bytes.bigEndian 4 pcapdroidTrailerMagic))))
      (List.replicate 4 0) (List.replicate 20 0 ++ List.replicate 4 0)
      (by simp only [List.append_assoc]) (by simp [width, sizeofPcapRec]; omega) (by simp)
      (by simp [width]; omega), Option.bind_some,
    Memory.write?_field _ (header ++ (Bytes.littleEndian 4 origLen ++
        (body ++ (List.replicate (padding body.length) 0 ++
          (Bytes.bigEndian 4 pcapdroidTrailerMagic ++ uidField uid)))))
      (List.replicate 20 0) (List.replicate 4 0)
      (by simp only [List.append_assoc]) (by simp [width, sizeofPcapRec]; omega) (by simp)
      (by simp [width]; omega), Option.bind_some]
  have frame : header ++ (Bytes.littleEndian 4 origLen ++ (body ++
      (List.replicate (padding body.length) 0 ++ (Bytes.bigEndian 4 pcapdroidTrailerMagic ++
        uidField uid)))) ++ (appnameField (appname uid) ++ List.replicate 4 0) =
      header ++ (Bytes.littleEndian 4 origLen ++
        (paddedFrame appname uid body ++ List.replicate 4 0)) := by
    simp only [paddedFrame, trailerFields, List.append_assoc]
  rw [frame, Memory.slice_field _
      (header ++ Bytes.littleEndian 4 origLen) (paddedFrame appname uid body)
      (List.replicate 4 0) (by simp only [List.append_assoc])
      (by simp [width, sizeofPcapRec])
      (by simp [paddedFrame, sizeofPcapdroidTrailer]; omega),
    Memory.write?_field _ (header ++ (Bytes.littleEndian 4 origLen ++
        paddedFrame appname uid body)) (List.replicate 4 0) []
      (by grind)
      (by simp [width, paddedFrame, sizeofPcapRec]; omega) (by simp)
      (by simp [width, paddedFrame]; omega), Option.bind_some]
  simp only [List.append_nil, List.append_assoc]
  rw [Memory.slice_field _ header (Bytes.littleEndian 4 origLen) _ rfl
      (by rw [width]) (by simp),
    Memory.write?_field _ header (Bytes.littleEndian 4 origLen) _ rfl
      (by rw [width]) (by simp) (by simp [width, paddedFrame]; omega),
    Bytes.ofLittleEndian_littleEndian]
  rfl

end

namespace Packet

variable (packet : Packet) (snaplen : Nat)

/-- `incl_len` of a record with the trailer. -/
def frameLen : Nat :=
  let pktLen := min packet.data.length snaplen + (sizeofPcapdroidTrailer + sizeofEthhdr)
  pktLen + padding pktLen

/-- `payload_to_copy` of a record with the trailer. -/
def framePayload : Nat := min packet.data.length (packet.frameLen snaplen - sizeofEthhdr)

/-- The Ethernet header and the copied payload. -/
def frameBody : Bytes :=
  ethernetHeader packet.data ++ packet.data.take (packet.framePayload snaplen)

/-- The first three fields of the record header. -/
def frameHeader : Bytes :=
  Bytes.littleEndian 4 packet.tv.sec ++ (Bytes.littleEndian 4 packet.tv.usec ++
    Bytes.littleEndian 4 (packet.frameLen snaplen))

/-- `orig_len` once the Ethernet header is counted. -/
def frameOrigLen : Nat := packet.data.length % 2 ^ 32 + sizeofEthhdr

/-- The condition under which `dump_packet_pcap` writes the trailer. -/
def TrailerFits : Prop :=
  sizeofPcapdroidTrailer ≤ packet.frameLen snaplen - (sizeofEthhdr + packet.framePayload snaplen)

instance : Decidable (packet.TrailerFits snaplen) := by
  unfold TrailerFits
  infer_instance

/-- Everything `dump_packet_pcap` writes with the trailer enabled. -/
def frameContent (appname : Int → Bytes) : Bytes :=
  if packet.TrailerFits snaplen then
    packet.frameHeader snaplen ++ (Bytes.littleEndian 4
      (packet.frameOrigLen % 2 ^ 32 + padding (packet.frameBody snaplen).length +
        sizeofPcapdroidTrailer) ++
      checkedFrame appname packet.uid (packet.frameBody snaplen))
  else
    packet.frameHeader snaplen ++ (Bytes.littleEndian 4 packet.frameOrigLen ++
      packet.frameBody snaplen)

@[simp] theorem frameHeader_length : (packet.frameHeader snaplen).length = 12 := by
  simp [frameHeader]

theorem framePayload_le : packet.framePayload snaplen ≤ packet.data.length :=
  Nat.min_le_left _ _

theorem frameBody_length :
    (packet.frameBody snaplen).length = sizeofEthhdr + packet.framePayload snaplen := by
  have shorter := packet.framePayload_le snaplen
  simp only [frameBody, List.length_append, ethernetHeader_length, List.length_take,
    sizeofEthhdr]
  omega

theorem frameBody_le : (packet.frameBody snaplen).length ≤ packet.frameLen snaplen := by
  rw [frameBody_length]
  simp only [framePayload, frameLen, sizeofEthhdr, sizeofPcapdroidTrailer]
  omega

/-- Where the trailer fits, it ends exactly at the end of the record. -/
theorem frame_total (fits : packet.TrailerFits snaplen) :
    (packet.frameBody snaplen).length + padding (packet.frameBody snaplen).length +
      sizeofPcapdroidTrailer = packet.frameLen snaplen := by
  rw [frameBody_length, padding_eq]
  simp only [TrailerFits, framePayload, frameLen, padding_eq, sizeofEthhdr,
    sizeofPcapdroidTrailer] at fits ⊢
  omega

theorem frameContent_length_of_fits (appname : Int → Bytes)
    (fits : packet.TrailerFits snaplen) :
    (packet.frameContent snaplen appname).length = sizeofPcapRec + packet.frameLen snaplen := by
  simp only [frameContent, if_pos fits, List.length_append, frameHeader_length,
    Bytes.littleEndian_length, checkedFrame_length, packet.frame_total snaplen fits,
    sizeofPcapRec]
  omega

theorem frameContent_length_le (appname : Int → Bytes) :
    (packet.frameContent snaplen appname).length ≤ sizeofPcapRec + packet.frameLen snaplen := by
  by_cases fits : packet.TrailerFits snaplen
  · exact Nat.le_of_eq (packet.frameContent_length_of_fits snaplen appname fits)
  · have body := packet.frameBody_le snaplen
    simp only [frameContent, if_neg fits, List.length_append, frameHeader_length,
      Bytes.littleEndian_length, sizeofPcapRec]
    omega

end Packet

variable (appname : Int → Bytes) (dumper : Dumper) (packet : Packet)

theorem Dumper.pcapRecSize_trailer (mode : dumper.mode = .pcapDumpWithTrailer) :
    dumper.pcapRecSize packet.data.length = packet.frameLen dumper.snaplen + sizeofPcapRec := by
  simp [pcapRecSize, mode, Packet.frameLen]

theorem Dumper.dumpPacketPcap_trailer (mode : dumper.mode = .pcapDumpWithTrailer)
    (room : dumper.bufferIdx + dumper.pcapRecSize packet.data.length ≤ dumper.buffer.size) :
    dumpPacketPcap appname dumper packet (dumper.pcapRecSize packet.data.length) =
      some { dumper with
        buffer := dumper.buffer.store dumper.bufferIdx
          (packet.frameContent dumper.snaplen appname) } := by
  rw [dumper.pcapRecSize_trailer packet mode] at room ⊢
  have body := packet.frameBody_le dumper.snaplen
  have frame := packet.frameBody_length dumper.snaplen
  simp only [sizeofPcapRec, sizeofEthhdr] at room body frame
  have zeros : List.replicate sizeofEthhdr (0 : UInt8) =
      List.replicate 12 0 ++ List.replicate 2 0 := rfl
  simp only [dumpPacketPcap, mode, Nat.add_sub_cancel, Option.bind_eq_bind, if_true, zeros]
  rw [Memory.write?_bind (by simp; omega)]
  repeat rw [Memory.write?_extend_bind (by simp [sizeofPcapRec])
    (by simp [sizeofPcapRec]; omega)]
  rw [Memory.write?_field _ (packet.frameHeader dumper.snaplen ++
        (Bytes.littleEndian 4 packet.data.length ++ List.replicate 12 0)) (List.replicate 2 0) []
      (by simp only [Packet.frameHeader, List.append_assoc, List.append_nil])
      (by simp [sizeofPcapRec]) (by simp [protocolField]) (by simp; omega), Option.bind_some]
  have written : packet.frameHeader dumper.snaplen ++ (Bytes.littleEndian 4 packet.data.length ++
      List.replicate 12 0) ++ (protocolField packet.data ++ []) =
      packet.frameHeader dumper.snaplen ++ (Bytes.littleEndian 4 packet.data.length ++
        ethernetHeader packet.data) := by
    simp only [ethernetHeader, List.append_assoc, List.append_nil]
  rw [written, Memory.slice_field _ (packet.frameHeader dumper.snaplen)
      (Bytes.littleEndian 4 packet.data.length) _ rfl (by simp) (by simp),
    Bytes.ofLittleEndian_littleEndian,
    Memory.write?_field _ (packet.frameHeader dumper.snaplen)
      (Bytes.littleEndian 4 packet.data.length) _ rfl (by simp) (by simp) (by simp; omega),
    Option.bind_some,
    Memory.write?_extend _ (by simp [sizeofPcapRec, sizeofEthhdr])
      (by simp only [List.length_take, sizeofPcapRec, sizeofEthhdr]
          omega), Option.bind_some]
  change (if packet.TrailerFits dumper.snaplen then
    (writeTrailer appname (dumper.buffer.store dumper.bufferIdx
      (packet.frameHeader dumper.snaplen ++ (Bytes.littleEndian 4 packet.frameOrigLen ++
        packet.frameBody dumper.snaplen))) dumper.bufferIdx (dumper.bufferIdx + sizeofPcapRec)
        (sizeofEthhdr + packet.framePayload dumper.snaplen) (packet.frameLen dumper.snaplen)
        packet.uid).bind _
    else _) = _
  by_cases fits : packet.TrailerFits dumper.snaplen
  · rw [if_pos fits, ← packet.frameBody_length dumper.snaplen,
      writeTrailer_eq appname _ packet.uid _ (by simp) (packet.frame_total dumper.snaplen fits)
        (by simp only [sizeofPcapRec]; omega), Option.bind_some]
    simp only [Packet.frameContent, if_pos fits]
  · rw [if_neg fits]
    simp only [Packet.frameContent, if_neg fits]
    rfl

/-! ## All modes -/

/-- The bytes a packet contributes to the buffer. -/
def Packet.recordBytes (packet : Packet) (appname : Int → Bytes) (mode : PcapDumpMode)
    (snaplen : Nat) : Bytes :=
  match mode with
  | .pcapDump => (packet.pcapRecord snaplen).encode
  | .pcapDumpWithTrailer => packet.frameContent snaplen appname
  | .pcapngDump => (packet.enhPacketBlock snaplen).encode

/-- Without the trailer a record fills the size reserved for it. -/
theorem Packet.recordBytes_length (appname : Int → Bytes) (dumper : Dumper)
    (plain : dumper.mode ≠ .pcapDumpWithTrailer) :
    (packet.recordBytes appname dumper.mode dumper.snaplen).length =
      dumper.pcapRecSize packet.data.length := by
  cases mode : dumper.mode with
  | pcapDump => exact packet.pcapRecord_length dumper mode
  | pcapDumpWithTrailer => exact absurd mode plain
  | pcapngDump => exact packet.enhPacketBlock_length dumper mode

/-- Whatever the mode, a packet is stored by one write at `buffer_idx`. -/
theorem Dumper.dumpPacket_eq
    (room : dumper.bufferIdx + dumper.pcapRecSize packet.data.length ≤ dumper.buffer.size) :
    (if dumper.mode = .pcapngDump then
        dumper.dumpPacketPcapng packet (dumper.pcapRecSize packet.data.length)
      else dumpPacketPcap appname dumper packet (dumper.pcapRecSize packet.data.length)) =
      some { dumper with
        buffer := dumper.buffer.store dumper.bufferIdx
          (packet.recordBytes appname dumper.mode dumper.snaplen) } := by
  cases mode : dumper.mode with
  | pcapDump =>
    rw [if_neg (by decide), dumper.dumpPacketPcap_plain appname packet mode room, mode]
    rfl
  | pcapDumpWithTrailer =>
    rw [if_neg (by decide), dumper.dumpPacketPcap_trailer appname packet mode room, mode]
    rfl
  | pcapngDump =>
    rw [if_pos rfl, dumper.dumpPacketPcapng_eq packet mode room, mode]
    rfl

/-! ## Decryption secrets blocks -/

/-- The block `export_keylog_buffer` builds around the collected secrets. -/
def secretsBlock (payload : Bytes) : PcapngBlock where
  type := 0x0000000A
  totalLength := Dumper.keylogBlockSize payload.length
  body := Bytes.littleEndian 4 0x544c534b ++ (Bytes.littleEndian 4 payload.length ++
    (payload ++ List.replicate (padding payload.length) 0))
  trailingLength := Dumper.keylogBlockSize payload.length

theorem secretsBlock_length (payload : Bytes) :
    (secretsBlock payload).encode.length = Dumper.keylogBlockSize payload.length := by
  rw [PcapngBlock.encode_length]
  simp only [secretsBlock, List.length_append, Bytes.littleEndian_length, List.length_replicate,
    Dumper.keylogBlockSize, sizeofDecrSecretsBlock]
  omega

/-- The secrets waiting in the keylog buffer. -/
def Dumper.keylog (dumper : Dumper) (memory : Memory) : Bytes :=
  memory.slice keylogBufferHeadroom dumper.keylogIdx

@[simp] theorem Dumper.keylog_length (dumper : Dumper) (memory : Memory) :
    (dumper.keylog memory).length = dumper.keylogIdx := by
  simp [keylog]

theorem Dumper.exportKeylogSection_eq {memory : Memory}
    (allocated : dumper.keylogBuf = some memory)
    (below : ¬ (0 < dumper.maxDumpSize ∧
      dumper.maxDumpSize ≤ dumper.dumpSize + keylogBlockSize dumper.keylogIdx))
    (room : keylogBufferHeadroom + dumper.keylogIdx + keylogBufferTailroom ≤ memory.size) :
    dumper.exportKeylogSection =
      some ({ dumper with
        keylogBuf := some (memory.store 0 (secretsBlock (dumper.keylog memory)).encode)
        dumpSize := dumper.dumpSize + keylogBlockSize dumper.keylogIdx
        keylogIdx := 0 }.emit (.dumpCb (secretsBlock (dumper.keylog memory)).encode)) := by
  have pad := padding_lt dumper.keylogIdx
  have behind : memory.slice 16 dumper.keylogIdx = dumper.keylog memory := rfl
  simp only [keylogBufferHeadroom, sizeofDecrSecretsBlock, keylogBufferTailroom] at room
  simp only [exportKeylogSection, if_neg below, allocated, Option.bind_eq_bind,
    Option.bind_some]
  rw [Memory.write?_bind (by simp; omega)]
  repeat rw [Memory.write?_extend_bind (by simp <;> omega) (by simp; omega)]
  rw [memory.store_extend_slice 0 _ dumper.keylogIdx]
  simp only [List.append_assoc, List.length_append, Bytes.littleEndian_length, Nat.reduceAdd,
    behind]
  rw [Memory.write?_extend_bind (by simp [keylogBufferHeadroom, sizeofDecrSecretsBlock]; omega)
    (by simp [keylogBufferHeadroom, sizeofDecrSecretsBlock]; omega)]
  simp only [List.append_assoc]
  rw [Memory.slice_field _ (Bytes.littleEndian 4 10) _ _ rfl (by simp) (by simp),
    Memory.write?_extend_bind (by simp [keylogBufferHeadroom, sizeofDecrSecretsBlock]; omega)
      (by simp [keylogBufferHeadroom, sizeofDecrSecretsBlock]; omega)]
  have block : Bytes.littleEndian 4 10 ++ (Bytes.littleEndian 4 (keylogBlockSize dumper.keylogIdx) ++
      (Bytes.littleEndian 4 0x544c534b ++ (Bytes.littleEndian 4 dumper.keylogIdx ++
        (dumper.keylog memory ++ (List.replicate (padding dumper.keylogIdx) 0 ++
          Bytes.littleEndian 4 (keylogBlockSize dumper.keylogIdx)))))) =
      (secretsBlock (dumper.keylog memory)).encode := by
    simp only [PcapngBlock.encode, secretsBlock, keylog_length, List.append_assoc]
  simp only [List.append_assoc]
  have width := secretsBlock_length (dumper.keylog memory)
  rw [keylog_length] at width
  have exported : (memory.store 0 (secretsBlock (dumper.keylog memory)).encode).slice 0
      (keylogBlockSize dumper.keylogIdx) = (secretsBlock (dumper.keylog memory)).encode := by
    rw [← width, Memory.slice_store_self]
  simp only [block, exported]

end PcapdroidFormal.Dump
