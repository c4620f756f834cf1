import PcapdroidFormal.Dump.Accounting

/-!
# Records with the PCAPdroid trailer

`pcap_rec_size` reserves room for the truncated packet and the trailer, but
`dump_packet_pcap` derives the number of bytes to copy from the reserved size.
A packet longer than the snaplen therefore runs into the room of its trailer.
-/

namespace PcapdroidFormal.Dump

open Foundation

variable {appname : Int → Bytes} {now : UInt64} {dumper : Dumper} {record : Bytes} {packet : Packet}
  {snaplen : Nat}

/-- The record a successful `pcap_dump_packet` adds to the buffer. -/
def Dumper.storedRecord (appname : Int → Bytes) (now : UInt64) (dumper : Dumper)
    (packet : Packet) : Option Bytes := do
  let (after, stored) ← storePacket appname now dumper packet
  let totRecSize := dumper.pcapRecSize packet.data.length
  if stored then some (after.buffer.slice (after.bufferIdx - totRecSize) totRecSize) else none

/-- `incl_len` and `orig_len` as a reader of the record sees them. -/
def recordInclLen (record : Bytes) : Nat := Bytes.ofLittleEndian ((record.drop 8).take 4)
def recordOrigLen (record : Bytes) : Nat := Bytes.ofLittleEndian ((record.drop 12).take 4)

/-- The frame behind the record header. -/
def recordFrame (record : Bytes) : Bytes := record.drop sizeofPcapRec

/-- The last `sizeof(pcapdroid_trailer_t)` bytes. -/
def recordTrailer (record : Bytes) : Bytes :=
  record.drop (record.length - sizeofPcapdroidTrailer)

/-- A well-formed record: at most `snaplen` bytes of the packet stand between the
Ethernet header and the padded trailer, whose checksum covers what precedes it. -/
structure TrailerRecord (appname : Int → Bytes) (snaplen : Nat) (packet : Packet)
    (record : Bytes) : Prop where
  lengths : recordInclLen record ≤ recordOrigLen record
  layout : ∃ stored, stored ≤ min packet.data.length snaplen ∧
    recordFrame record = ethernetHeader packet.data ++ (packet.data.take stored ++
      (List.replicate (padding (sizeofEthhdr + stored)) 0 ++ recordTrailer record))
  trailer : recordTrailer record = trailerFields appname packet.uid ++
    Bytes.littleEndian 4 (crc32 ((recordFrame record).take
      (recordInclLen record - 4)) 0).toNat

/-- Every packet of this length gives a well-formed record that does not depend
on the previous content of the buffer. -/
def TrailerRecordsWellFormed (appname : Int → Bytes) (snaplen pktlen : Nat) : Prop :=
  ∀ (dumper : Dumper) (packet : Packet) (now : UInt64) (record : Bytes),
    dumper.Accounted → dumper.mode = .pcapDumpWithTrailer → dumper.snaplen = snaplen →
    packet.data.length = pktlen → dumper.storedRecord appname now packet = some record →
    TrailerRecord appname snaplen packet record ∧
    ∀ (cells : Nat → UInt8) (other : Bytes),
      { dumper with buffer := ⟨dumper.buffer.size, cells⟩ }.storedRecord appname now packet =
        some other → other = record

/-! ## The bytes of a stored record -/

/-- The record consists of what `dump_packet_pcap` wrote and of old buffer content. -/
theorem Dumper.storedRecord_content (accounted : dumper.Accounted)
    (mode : dumper.mode = .pcapDumpWithTrailer)
    (stored : dumper.storedRecord appname now packet = some record) :
    ∃ old, record = packet.frameContent dumper.snaplen appname ++ old ∧
      record.length = sizeofPcapRec + packet.frameLen dumper.snaplen := by
  obtain ⟨middle, flushes, refused | ⟨after, accepted, step⟩⟩ :=
    storePacket_flushes appname now accounted packet
  · rw [storedRecord, refused] at stored
    cases stored
  · have size := dumper.pcapRecSize_trailer packet mode
    have same := flushes.config_eq
    simp only [config, Prod.mk.injEq] at same
    have sameSize : middle.pcapRecSize packet.data.length =
        dumper.pcapRecSize packet.data.length := by
      simp only [pcapRecSize, same]
    cases step
    simp only [storedRecord, accepted, Option.bind_eq_bind, Option.bind_some, if_true, sameSize,
      Nat.add_sub_cancel, same, mode, Packet.recordBytes, Option.some.injEq] at stored
    have fits := packet.frameContent_length_le dumper.snaplen appname
    have split : dumper.pcapRecSize packet.data.length =
        (packet.frameContent dumper.snaplen appname).length +
          (dumper.pcapRecSize packet.data.length -
            (packet.frameContent dumper.snaplen appname).length) := by
      omega
    have total := congrArg List.length stored
    rw [Memory.slice_length, size, Nat.add_comm] at total
    rw [split, Memory.slice_add, Memory.slice_store_self] at stored
    exact ⟨_, stored.symm, total.symm⟩

/-- A record whose trailer fits is exactly what was written. -/
theorem Dumper.storedRecord_of_fits (accounted : dumper.Accounted)
    (mode : dumper.mode = .pcapDumpWithTrailer)
    (stored : dumper.storedRecord appname now packet = some record)
    (fits : packet.TrailerFits dumper.snaplen) :
    record = packet.frameContent dumper.snaplen appname := by
  obtain ⟨old, shape, total⟩ := storedRecord_content accounted mode stored
  have width := packet.frameContent_length_of_fits dumper.snaplen appname fits
  rw [shape, List.length_append, width] at total
  grind

namespace Packet

variable (packet : Packet) (snaplen : Nat)

theorem framePayload_of_le (short : packet.data.length ≤ snaplen) :
    packet.framePayload snaplen = packet.data.length := by
  simp only [framePayload, frameLen, sizeofEthhdr, sizeofPcapdroidTrailer]
  omega

theorem trailerFits_of_le (short : packet.data.length ≤ snaplen) :
    packet.TrailerFits snaplen := by
  rw [TrailerFits, packet.framePayload_of_le snaplen short]
  simp only [frameLen, sizeofEthhdr, sizeofPcapdroidTrailer]
  omega

/-- A truncated packet is copied past the snaplen. -/
theorem snaplen_lt_framePayload (long : snaplen < packet.data.length) :
    snaplen < packet.framePayload snaplen := by
  simp only [framePayload, frameLen, sizeofEthhdr, sizeofPcapdroidTrailer]
  omega

end Packet

/-! ## Packets up to the snaplen -/

/-- A record with its header fields spelled out, in front of a frame that ends in a trailer. -/
theorem record_fields {header front trailer : Bytes} {inclLen origLen : Nat}
    (width : header.length = 8) (size : trailer.length = sizeofPcapdroidTrailer)
    (incl : inclLen < 2 ^ 32) (orig : origLen < 2 ^ 32)
    (shape : record = header ++ (Bytes.littleEndian 4 inclLen ++
      (Bytes.littleEndian 4 origLen ++ (front ++ trailer)))) :
    recordInclLen record = inclLen ∧ recordOrigLen record = origLen ∧
      recordFrame record = front ++ trailer ∧ recordTrailer record = trailer := by
  subst shape
  have behind : (header ++ Bytes.littleEndian 4 inclLen).length = 12 := by simp [width]
  have all : (header ++ Bytes.littleEndian 4 inclLen ++ Bytes.littleEndian 4 origLen).length =
      16 := by simp [width]
  refine ⟨?_, ?_, ?_, ?_⟩
  · rw [recordInclLen, List.drop_left' width, List.take_left' (Bytes.littleEndian_length 4 _)]
    exact Bytes.ofLittleEndian_of_lt (by simpa using incl)
  · rw [recordOrigLen, ← List.append_assoc, List.drop_left' behind,
      List.take_left' (Bytes.littleEndian_length 4 _)]
    exact Bytes.ofLittleEndian_of_lt (by simpa using orig)
  · rw [recordFrame, ← List.append_assoc, ← List.append_assoc, sizeofPcapRec,
      List.drop_left' all]
  · rw [recordTrailer, ← List.append_assoc, ← List.append_assoc, ← List.append_assoc]
    apply List.drop_left'
    grind

theorem trailerRecord_of_le (short : packet.data.length ≤ snaplen)
    (bound : packet.data.length ≤ 65535) :
    TrailerRecord appname snaplen packet (packet.frameContent snaplen appname) := by
  have fits := packet.trailerFits_of_le snaplen short
  have payload := packet.framePayload_of_le snaplen short
  have total := packet.frame_total snaplen fits
  have length := packet.frameBody_length snaplen
  have pad := padding_lt (packet.frameBody snaplen).length
  have body : packet.frameBody snaplen = ethernetHeader packet.data ++ packet.data := by
    rw [Packet.frameBody, payload, List.take_length]
  have orig : packet.frameOrigLen % 2 ^ 32 + padding (packet.frameBody snaplen).length +
      sizeofPcapdroidTrailer = packet.frameLen snaplen := by
    rw [← total, length, Packet.frameOrigLen, sizeofEthhdr]
    omega
  have small : packet.frameLen snaplen < 2 ^ 32 := by
    rw [length] at pad
    rw [← total, length, sizeofPcapdroidTrailer]
    simp only [sizeofEthhdr] at pad ⊢
    omega
  let front := packet.frameBody snaplen ++
    List.replicate (padding (packet.frameBody snaplen).length) 0
  let covered := paddedFrame appname packet.uid (packet.frameBody snaplen)
  let trailer := trailerFields appname packet.uid ++
    Bytes.littleEndian 4 (crc32 covered 0).toNat
  have shape : packet.frameContent snaplen appname =
      (Bytes.littleEndian 4 packet.tv.sec ++ Bytes.littleEndian 4 packet.tv.usec) ++
        (Bytes.littleEndian 4 (packet.frameLen snaplen) ++
          (Bytes.littleEndian 4 (packet.frameLen snaplen) ++ (front ++ trailer))) := by
    simp only [Packet.frameContent, if_pos fits, orig, Packet.frameHeader, checkedFrame,
      paddedFrame, front, trailer, covered, List.append_assoc]
  obtain ⟨incl, origin, frame, last⟩ :=
    record_fields (by simp) (by simp [trailer, sizeofPcapdroidTrailer]) small small shape
  refine ⟨?_, ⟨packet.data.length, ?_, ?_⟩, ?_⟩
  · rw [incl, origin]
  · grind
  · grind
  · have prefixed : (front ++ trailer).take (packet.frameLen snaplen - 4) = covered := by
      have split : front ++ trailer = covered ++ Bytes.littleEndian 4 (crc32 covered 0).toNat := by
        simp only [front, trailer, covered, paddedFrame, List.append_assoc]
      rw [split]
      apply List.take_left'
      simp only [covered, paddedFrame, List.length_append, List.length_replicate,
        trailerFields_length, ← total, sizeofPcapdroidTrailer]
      omega
    grind

/-! ## Longer packets -/

/-- A fresh dumper without a limit stores every packet. -/
theorem pcapNewDumper_storedRecord (appname : Int → Bytes) (now : UInt64) (bound : snaplen ≤ 65535)
    (malloc : Nat → UInt8) (packet : Packet) :
    ∃ record, (pcapNewDumper .pcapDumpWithTrailer snaplen 0 malloc).storedRecord appname now
      packet = some record := by
  let dumper := pcapNewDumper .pcapDumpWithTrailer snaplen 0 malloc
  have size : dumper.pcapRecSize packet.data.length = packet.frameLen snaplen + sizeofPcapRec :=
    dumper.pcapRecSize_trailer packet rfl
  have pad := padding_lt (min packet.data.length snaplen + (sizeofPcapdroidTrailer + sizeofEthhdr))
  have small : dumper.pcapRecSize packet.data.length < pcapBufferSize := by
    rw [size]
    simp only [Packet.frameLen, sizeofPcapdroidTrailer, sizeofEthhdr, sizeofPcapRec,
      pcapBufferSize] at pad ⊢
    omega
  have room : ¬ pcapBufferSize - dumper.bufferIdx ≤ dumper.pcapRecSize packet.data.length :=
    Nat.not_le.mpr small
  have written := dumper.dumpPacket_eq appname packet (by
    change 0 + _ ≤ pcapBufferSize
    omega)
  have unlimited : ¬ (0 < dumper.maxDumpSize ∧ dumper.maxDumpSize ≤
      dumper.dumpSize + dumper.pcapRecSize packet.data.length) := fun limited =>
    Nat.lt_irrefl 0 limited.1
  change ∃ record, dumper.storedRecord appname now packet = some record
  simp only [Dumper.storedRecord, Dumper.storePacket, Dumper.storeRecord, if_neg room,
    Option.bind_eq_bind,
    Option.bind_some, if_neg unlimited, written, if_true]
  exact ⟨_, rfl⟩

/-- Behind the Ethernet header a record starts with the copied payload. -/
theorem Dumper.storedRecord_frame (accounted : dumper.Accounted)
    (mode : dumper.mode = .pcapDumpWithTrailer)
    (stored : dumper.storedRecord appname now packet = some record) :
    ∃ rest, recordFrame record = ethernetHeader packet.data ++
      (packet.data.take (packet.framePayload dumper.snaplen) ++ rest) := by
  obtain ⟨old, shape, _⟩ := storedRecord_content accounted mode stored
  have header (field : Nat) : (packet.frameHeader dumper.snaplen ++
      Bytes.littleEndian 4 field).length = sizeofPcapRec := by
    simp [sizeofPcapRec]
  rw [shape, Packet.frameContent]
  split
  · refine ⟨List.replicate (padding (packet.frameBody dumper.snaplen).length) 0 ++
      (trailerFields appname packet.uid ++ (Bytes.littleEndian 4
        (crc32 (paddedFrame appname packet.uid (packet.frameBody dumper.snaplen)) 0).toNat ++
          old)), ?_⟩
    rw [← List.append_assoc, List.append_assoc, recordFrame, List.drop_left' (header _)]
    simp only [checkedFrame, paddedFrame, Packet.frameBody, List.append_assoc]
  · refine ⟨old, ?_⟩
    rw [← List.append_assoc, List.append_assoc, recordFrame, List.drop_left' (header _)]
    simp only [Packet.frameBody, List.append_assoc]

/-- The byte behind the captured part of a well-formed record is padding or the
first byte of the magic number. -/
theorem TrailerRecord.byte_after_snaplen {payload : Bytes}
    (wellFormed : TrailerRecord appname snaplen packet record) (long : snaplen < packet.data.length)
    (frame : recordFrame record = ethernetHeader packet.data ++ payload)
    (total : (recordFrame record).length = packet.frameLen snaplen) :
    payload[snaplen]? = some 0 ∨ payload[snaplen]? = some 1 := by
  obtain ⟨stored, bound, layout⟩ := wellFormed.layout
  have last := wellFormed.trailer
  have width : (recordTrailer record).length = 32 := by simp [last]
  have captured : (packet.data.take stored).length = stored := by
    rw [List.length_take]
    omega
  rw [layout] at total
  simp only [List.length_append, ethernetHeader_length, captured, List.length_replicate, width,
    Packet.frameLen, padding_eq, sizeofEthhdr, sizeofPcapdroidTrailer] at total
  rw [frame] at layout
  have content := List.append_cancel_left layout
  rw [content, List.getElem?_append_right (by omega), captured]
  by_cases pad : snaplen - stored < padding (sizeofEthhdr + stored)
  · left
    rw [List.getElem?_append_left (by simpa using pad), List.getElem?_replicate, if_pos pad]
  · right
    have first : snaplen - stored - padding (sizeofEthhdr + stored) = 0 := by
      simp only [padding_eq, sizeofEthhdr] at pad ⊢
      omega
    rw [List.getElem?_append_right (by simpa using pad), List.length_replicate, first, last]
    rfl

/-- The records of trailer mode are well formed for exactly the packets that the
snaplen does not truncate. -/
theorem trailerRecords_wellFormed_iff (appname : Int → Bytes) (snaplen pktlen : Nat)
    (snaplenBound : snaplen ≤ 65535) (pktlenBound : pktlen ≤ 65535) :
    TrailerRecordsWellFormed appname snaplen pktlen ↔ pktlen ≤ snaplen := by
  constructor
  · intro wellFormed
    by_contra long
    have longer : snaplen < pktlen := Nat.lt_of_not_le long
    let packet : Packet := ⟨List.replicate pktlen 0xFF, ⟨0, 0⟩, 0⟩
    have size : packet.data.length = pktlen := List.length_replicate
    have accounted := pcapNewDumper_accounted .pcapDumpWithTrailer snaplen 0 (fun _ => 0)
    obtain ⟨record, stored⟩ :=
      pcapNewDumper_storedRecord appname 0 snaplenBound (fun _ => 0) packet
    obtain ⟨rest, frame⟩ := Dumper.storedRecord_frame accounted rfl stored
    obtain ⟨_, _, total⟩ := Dumper.storedRecord_content accounted rfl stored
    have formed := (wellFormed _ packet 0 record accounted rfl rfl size stored).1
    have copied : snaplen < packet.framePayload snaplen :=
      packet.snaplen_lt_framePayload snaplen (by omega)
    have byte : (packet.data.take (packet.framePayload snaplen) ++ rest)[snaplen]? =
        some 0xFF := by
      have inside : snaplen < (packet.data.take (packet.framePayload snaplen)).length := by
        rw [List.length_take, size]
        omega
      rw [List.getElem?_append_left inside, List.getElem?_take_of_lt copied,
        List.getElem?_replicate, if_pos longer]
    have short : (recordFrame record).length = packet.frameLen snaplen := by
      rw [recordFrame, List.length_drop, total, Nat.add_sub_cancel_left]
      rfl
    rcases formed.byte_after_snaplen (by omega) frame short with zero | one
    · exact absurd (byte.symm.trans zero) (by decide)
    · exact absurd (byte.symm.trans one) (by decide)
  · rintro short dumper packet now record accounted mode rfl rfl stored
    have fits := packet.trailerFits_of_le dumper.snaplen short
    have content := Dumper.storedRecord_of_fits accounted mode stored fits
    rw [content]
    refine ⟨trailerRecord_of_le short pktlenBound, ?_⟩
    intro cells other rerun
    have same : { dumper with buffer := ⟨dumper.buffer.size, cells⟩ }.Accounted :=
      ⟨accounted.bufferSize, accounted.bufferIdx, accounted.keylogSize,
        accounted.keylogAllocated, accounted.keylogIdx, accounted.dumpSize, accounted.limit⟩
    have again := Dumper.storedRecord_of_fits same mode rerun fits
    exact again

/-- The law at a packet that the snaplen keeps whole. -/
theorem trailerRecords_wellFormed_whole : TrailerRecordsWellFormed (fun _ => []) 100 60 :=
  (trailerRecords_wellFormed_iff (fun _ => []) 100 60 (by decide) (by decide)).mpr (by decide)

/-- A packet of 20 bytes at snaplen 1: all of its bytes are copied, the trailer is
missing, and the last 14 bytes are those the buffer held before. -/
theorem trailerRecord_keeps_old_bytes :
    let packet : Packet := ⟨List.replicate 20 0x45, ⟨3, 4⟩, 1000⟩
    let record (old : UInt8) : Bytes :=
      [3, 0, 0, 0, 4, 0, 0, 0, 48, 0, 0, 0, 34, 0, 0, 0] ++
        (List.replicate 12 0 ++ [0x08, 0x00] ++ (List.replicate 20 0x45 ++
          List.replicate 14 old))
    (pcapNewDumper .pcapDumpWithTrailer 1 0 fun _ => 0xAA).storedRecord (fun _ => []) 0 packet =
        some (record 0xAA) ∧
      (pcapNewDumper .pcapDumpWithTrailer 1 0 fun _ => 0xBB).storedRecord (fun _ => []) 0 packet =
        some (record 0xBB) ∧
      ¬ TrailerRecordsWellFormed (fun _ => []) 1 20 := by
  intro packet record
  have first : (pcapNewDumper .pcapDumpWithTrailer 1 0 fun _ => 0xAA).storedRecord (fun _ => [])
      0 packet = some (record 0xAA) := by decide +kernel
  have second : (pcapNewDumper .pcapDumpWithTrailer 1 0 fun _ => 0xBB).storedRecord (fun _ => [])
      0 packet = some (record 0xBB) := by decide +kernel
  refine ⟨first, second, ?_⟩
  intro wellFormed
  have same := (wellFormed _ packet 0 _ (pcapNewDumper_accounted .pcapDumpWithTrailer 1 0 _) rfl
    rfl (by decide) first).2 (fun _ => 0xBB) _ second
  exact absurd same (by decide +kernel)

end PcapdroidFormal.Dump
