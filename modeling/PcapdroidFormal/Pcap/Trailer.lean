import PcapdroidFormal.Dump.Trailer
import PcapdroidFormal.Foundation.Runs
import PcapdroidFormal.Pcap.Lifetime
import PcapdroidFormal.Pcap.Zdtun

/-!
# Reading the PCAPdroid trailer

The dumper puts the trailer behind the padded packet; `handle_packet` looks for
it at the end of the frame, if what is not part of the IP packet has room for
it.  Both agree, so a capture of a dumped file finds the uid of each packet.
-/

namespace PcapdroidFormal.Pcap

open PcapdroidFormal.Core Foundation

variable {capture after : Libpcap} {uid : BitVec 32} {hdr : PcapdHdr} {buffer : Bytes}

/-! ## The trailer of a frame -/

/-- The bytes that the reader of a record passes to `handle_packet`. -/
def capturedFrame (record : Bytes) : Bytes :=
  (Dump.recordFrame record).take (Dump.recordInclLen record)

theorem ntohl_bigEndian (value : Nat) : ntohl (Bytes.bigEndian 4 value) = value % 2 ^ 32 := by
  unfold ntohl Bytes.bigEndian
  rw [List.reverse_reverse]
  exact Bytes.ofLittleEndian_littleEndian 4 value

theorem ntohl_uidField (uid : Int) :
    BitVec.ofNat 32 (ntohl (Dump.Dumper.uidField uid)) = BitVec.ofInt 32 uid := by
  apply BitVec.eq_of_toNat_eq
  rw [Dump.Dumper.uidField, ntohl_bigEndian, BitVec.toNat_ofNat, BitVec.toNat_ofInt]
  omega

/-- A frame that the dumper wrote around a packet. -/
def dumpedFrame (appname : Int → Bytes) (uid : Int) (packet : Bytes) : Bytes :=
  Dump.checkedFrame appname uid (Dump.ethernetHeader packet ++ packet)

/-- The dumped frame: the Ethernet header, the packet, padding and the trailer. -/
theorem dumpedFrame_parts (appname : Int → Bytes) (uid : Int) (packet : Bytes) :
    ∃ pad fcs : Bytes, pad.length < 4 ∧ fcs.length = 4 ∧
      dumpedFrame appname uid packet = Dump.ethernetHeader packet ++ (packet ++ (pad ++
        (Dump.trailerFields appname uid ++ fcs))) := by
  let body := Dump.ethernetHeader packet ++ packet
  refine ⟨List.replicate (Dump.padding body.length) 0, Bytes.littleEndian 4
    (Dump.crc32 (Dump.paddedFrame appname uid body) 0).toNat, ?_, Bytes.littleEndian_length 4 _, ?_⟩
  · rw [List.length_replicate]
    exact Dump.padding_lt _
  · simp only [dumpedFrame, Dump.checkedFrame, Dump.paddedFrame, body, List.append_assoc]

theorem trailerUid_dumpedFrame (appname : Int → Bytes) (uid : Int) {packet : Bytes}
    {pkt : ZdtunPkt} (whole : pkt.buf = packet) :
    trailerUid (dumpedFrame appname uid packet) pkt = some (BitVec.ofInt 32 uid) := by
  obtain ⟨pad, fcs, small, width, parts⟩ := dumpedFrame_parts appname uid packet
  have trailer : (Dump.trailerFields appname uid ++ fcs).length =
      Dump.sizeofPcapdroidTrailer := by
    rw [List.length_append, Dump.trailerFields_length, width]
    rfl
  have length : (dumpedFrame appname uid packet).length =
      14 + (packet.length + (pad.length + Dump.sizeofPcapdroidTrailer)) := by
    rw [parts, List.length_append, List.length_append, List.length_append, trailer,
      Dump.ethernetHeader_length]
  have found : (dumpedFrame appname uid packet).drop
      ((dumpedFrame appname uid packet).length - Dump.sizeofPcapdroidTrailer) =
      Dump.trailerFields appname uid ++ fcs := by
    rw [length, parts, ← List.append_assoc, ← List.append_assoc]
    apply List.drop_left'
    simp only [List.length_append, Dump.ethernetHeader_length]
    omega
  have overhead : (BitVec.ofInt 64 (((dumpedFrame appname uid packet).length : Int) -
      pkt.buf.length)).toNat = 14 + pad.length + Dump.sizeofPcapdroidTrailer := by
    rw [BitVec.toNat_ofInt, length, whole]
    simp only [Dump.sizeofPcapdroidTrailer]
    omega
  have magic : ntohl ((Dump.trailerFields appname uid ++ fcs).take 4) =
      Dump.pcapdroidTrailerMagic := by
    rw [Dump.trailerFields, List.append_assoc, List.take_left' (Bytes.bigEndian_length 4 _),
      ntohl_bigEndian]
    rfl
  have uidBytes : ((Dump.trailerFields appname uid ++ fcs).drop 4).take 4 =
      Dump.Dumper.uidField uid := by
    rw [Dump.trailerFields, List.append_assoc, List.drop_left' (Bytes.bigEndian_length 4 _),
      List.append_assoc, List.take_left' (Dump.uidField_length uid)]
  simp only [trailerUid, found, overhead, magic, uidBytes, ntohl_uidField]
  rw [if_pos (by simp)]

/-- The `incl_len` bytes of the record of a packet that the snaplen keeps whole are the
dumped frame. -/
theorem capturedFrame_of_stored {appname : Int → Bytes} {now : UInt64} {dumper : Dump.Dumper}
    {packet : Dump.Packet} {record : Bytes} (accounted : dumper.Accounted)
    (mode : dumper.mode = .pcapDumpWithTrailer)
    (stored : dumper.storedRecord appname now packet = some record)
    (short : packet.data.length ≤ dumper.snaplen) (bound : packet.data.length + 49 ≤ 65535) :
    capturedFrame record = dumpedFrame appname packet.uid packet.data := by
  have fits := packet.trailerFits_of_le dumper.snaplen short
  have total := packet.frame_total dumper.snaplen fits
  have body : packet.frameBody dumper.snaplen =
      Dump.ethernetHeader packet.data ++ packet.data := by
    rw [Dump.Packet.frameBody, packet.framePayload_of_le dumper.snaplen short, List.take_length]
  have frameLen : (dumpedFrame appname packet.uid packet.data).length =
      packet.frameLen dumper.snaplen := by
    rw [← total, body]
    exact Dump.checkedFrame_length appname packet.uid _
  have small : packet.frameLen dumper.snaplen < 2 ^ 32 := by
    have pad := Dump.padding_lt (packet.frameBody dumper.snaplen).length
    have size : (packet.frameBody dumper.snaplen).length = 14 + packet.data.length := by
      rw [body, List.length_append, Dump.ethernetHeader_length]
    rw [← total, Dump.sizeofPcapdroidTrailer]
    omega
  have shape : record = (Bytes.littleEndian 4 packet.tv.sec ++
      Bytes.littleEndian 4 packet.tv.usec) ++ (Bytes.littleEndian 4
        (packet.frameLen dumper.snaplen) ++ (Bytes.littleEndian 4
          (packet.frameOrigLen % 2 ^ 32 + Dump.padding (packet.frameBody dumper.snaplen).length +
            Dump.sizeofPcapdroidTrailer) ++ dumpedFrame appname packet.uid packet.data)) := by
    rw [Dump.Dumper.storedRecord_of_fits accounted mode stored fits]
    simp only [Dump.Packet.frameContent, if_pos fits, Dump.Packet.frameHeader, body, dumpedFrame,
      List.append_assoc]
  have incl : Dump.recordInclLen record = packet.frameLen dumper.snaplen := by
    rw [shape, Dump.recordInclLen, List.drop_left' (by simp),
      List.take_left' (Bytes.littleEndian_length 4 _)]
    exact Bytes.ofLittleEndian_of_lt small
  have frame : Dump.recordFrame record = dumpedFrame appname packet.uid packet.data := by
    rw [shape, Dump.recordFrame, ← List.append_assoc, ← List.append_assoc]
    exact List.drop_left' (by simp [Dump.sizeofPcapRec])
  rw [capturedFrame, frame, incl, ← frameLen, List.take_length]

/-! ## Packets of a file -/

theorem updateConnectionStatus_trailer (capture : Libpcap) (slot : ConnAndTuple)
    (pkt : ParsedPkt) (isTx : Bool) :
    (updateConnectionStatus capture slot pkt isTx).hasSeenPcapdroidTrailer =
      capture.hasSeenPcapdroidTrailer := by
  simp only [updateConnectionStatus]
  split
  · rfl
  · split
    · rfl
    · split
      · split <;> rfl
      · rfl

section Callbacks

variable {platform : Platform} {slot : ConnAndTuple} {pkt : ParsedPkt}

theorem processPacket_trailer {ms : Nat} {isTx : Bool}
    (processed : processPacket platform capture ms pkt isTx slot = .ok after) :
    after.hasSeenPcapdroidTrailer = capture.hasSeenPcapdroidTrailer := by
  obtain ⟨seen, pinfo, rfl, rfl⟩ := processPacket_result processed
  exact updateConnectionStatus_trailer _ slot pkt isTx

theorem openConnection_trailer {tuple : FiveTuple}
    (opened : openConnection platform capture tuple uid = .ok (after, slot)) :
    after.hasSeenPcapdroidTrailer = capture.hasSeenPcapdroidTrailer := by
  obtain ⟨-, pd, proxied, -, rfl⟩ := openConnection_result opened
  rfl

theorem dispatchPacket_trailer
    {valid : Bool} (dispatched : dispatchPacket platform capture hdr pkt = .ok (after, valid)) :
    after.hasSeenPcapdroidTrailer = capture.hasSeenPcapdroidTrailer := by
  have forwarded {start next : Libpcap} {ms : Nat} {pkt : ParsedPkt} {isTx : Bool}
      {slot : ConnAndTuple}
      (result : (processPacket platform start ms pkt isTx slot >>= fun capture =>
        pure (capture, true)) = .ok (next, valid)) :
      next.hasSeenPcapdroidTrailer = start.hasSeenPcapdroidTrailer := by
    obtain ⟨kept, processed, result⟩ := exists_of_bind_eq_ok result
    cases result
    exact processPacket_trailer processed
  simp only [dispatchPacket] at dispatched
  split at dispatched
  · exact forwarded dispatched
  · exact forwarded dispatched
  · split at dispatched
    · cases dispatched
      rfl
    · obtain ⟨created, opened, dispatched⟩ := exists_of_bind_eq_ok dispatched
      exact (forwarded dispatched).trans (openConnection_trailer opened)

end Callbacks

theorem readTrailer_found {pkt : ZdtunPkt}
    (file : capture.pcapFileCapture = true) (unknown : hdr.uid = uidUnknown32)
    (found : trailerUid buffer pkt = some uid) :
    readTrailer capture hdr buffer pkt =
      ({ capture with hasSeenPcapdroidTrailer := true }, { hdr with uid := uid }) := by
  unfold readTrailer
  grind

/-- A packet in whose trailer a uid is found is handled with that uid, and the capture
notes that it has seen a trailer. -/
theorem handlePacket_found (platform : Platform)
    (owned : Owned [] capture.pd) {parse : Bytes → Option ParsedPkt}
    {ipoffset : Nat} {parsed : ParsedPkt} (accepted : parse (buffer.drop ipoffset) = some parsed)
    (file : capture.pcapFileCapture = true) (unknown : hdr.uid = uidUnknown32)
    (found : trailerUid buffer parsed.pkt = some uid) :
    ∃ after valid, handlePacket platform parse capture hdr buffer ipoffset =
        .ok (after, { hdr with uid := uid }, valid) ∧ after.hasSeenPcapdroidTrailer = true := by
  have marked : Owned [] { capture with hasSeenPcapdroidTrailer := true }.pd := owned
  have seen : { capture with hasSeenPcapdroidTrailer := true }.hasSeenPcapdroidTrailer = true := rfl
  simp only [handlePacket, accepted, readTrailer_found file unknown found]
  generalize { capture with hasSeenPcapdroidTrailer := true } = start at marked seen ⊢
  split
  · exact ⟨_, _, rfl, seen⟩
  · obtain ⟨after, valid, dispatched, _⟩ :=
      dispatchPacket_ok platform marked { hdr with uid := uid } parsed
    simp only [dispatched, bind, Except.bind, pure, Except.pure]
    exact ⟨after, valid, rfl, (dispatchPacket_trailer dispatched).trans seen⟩

/-- A packet that is dumped with the trailer and read back by a capture of the dump has
the same bytes and the same uid. -/
theorem trailer_round_trip (appname : Int → Bytes) {dumper : Dump.Dumper}
    (accounted : dumper.Accounted) (mode : dumper.mode = .pcapDumpWithTrailer)
    {packet : Dump.Packet} (short : packet.data.length ≤ dumper.snaplen)
    (bound : packet.data.length + 49 ≤ 65535) {now : UInt64} {record : Bytes}
    (stored : dumper.storedRecord appname now packet = some record)
    {id2ports : Id2Ports} {parsed : ParsedPkt}
    (accepted : (zdtunParsePkt id2ports packet.data).1 = some parsed)
    (length : ipLength packet.data = packet.data.length)
    {platform : Platform} {config : Pcapdroid} {pcapFileCapture : Bool} {events : List PcapEvent}
    {capture : Libpcap}
    (reached : runPcap platform (startCapture config pcapFileCapture) events = .ok capture)
    (file : capture.pcapFileCapture = true) {hdr : PcapdHdr} (ethernet : hdr.linktype = .ethernet)
    (unknown : hdr.uid = uidUnknown32) :
    ∃ ipoffset, getIpOffset hdr.linktype = some ipoffset ∧
      (zdtunParsePkt id2ports ((capturedFrame record).drop ipoffset)).1 = some parsed ∧
      parsed.pkt.buf = packet.data ∧
      ∃ after valid, handlePacket platform (fun buf => (zdtunParsePkt id2ports buf).1) capture hdr
          (capturedFrame record) ipoffset =
            .ok (after, { hdr with uid := BitVec.ofInt 32 packet.uid }, valid) ∧
        after.hasSeenPcapdroidTrailer = true := by
  obtain ⟨ip, whole⟩ := WholePacket.of_accepted accepted length
  have bytes := whole.parsed_buf accepted
  have frame := capturedFrame_of_stored accounted mode stored short bound
  obtain ⟨pad, fcs, _, _, parts⟩ := dumpedFrame_parts appname packet.uid packet.data
  have behind : (capturedFrame record).drop 14 =
      packet.data ++ (pad ++ (Dump.trailerFields appname packet.uid ++ fcs)) := by
    rw [frame, parts]
    exact List.drop_left' (Dump.ethernetHeader_length packet.data)
  have parse : (zdtunParsePkt id2ports ((capturedFrame record).drop 14)).1 = some parsed := by
    rw [behind, whole.zdtunParsePkt_append, accepted]
  have found : trailerUid (capturedFrame record) parsed.pkt =
      some (BitVec.ofInt 32 packet.uid) := by
    rw [frame]
    exact trailerUid_dumpedFrame appname packet.uid bytes
  refine ⟨14, ?_, parse, bytes, ?_⟩
  · rw [ethernet]
    rfl
  · obtain ⟨after, ran, owned⟩ :=
      runPcap_ok platform (startCapture_owned config pcapFileCapture) events
    cases ran.symm.trans reached
    exact handlePacket_found platform owned parse file unknown found

/-- A UDP datagram without data from port 1024 to port 53. -/
def udpDatagram : Bytes :=
  [0x45, 0, 0, 28, 0, 0, 0, 0, 64, 17, 0, 0, 10, 0, 0, 1, 10, 0, 0, 2, 4, 0, 0, 53, 0, 8, 0, 0]

theorem trailer_round_trip_udp :
    ∃ record parsed, (Dump.pcapNewDumper .pcapDumpWithTrailer 100 0 fun _ => 0).storedRecord
        (fun _ => []) 0 ⟨udpDatagram, ⟨0, 0⟩, 10001⟩ = some record ∧
      (zdtunParsePkt (fun _ => ⟨0, 0⟩) ((capturedFrame record).drop 14)).1 = some parsed ∧
      parsed.pkt.buf = udpDatagram ∧
      ∃ after valid, handlePacket .inert (fun buf => (zdtunParsePkt (fun _ => ⟨0, 0⟩) buf).1)
          (startCapture .initial true) ⟨0, uidUnknown32, .ethernet, true⟩ (capturedFrame record)
          14 = .ok (after, ⟨0, 10001, .ethernet, true⟩, valid) ∧
        after.hasSeenPcapdroidTrailer = true := by
  obtain ⟨record, stored⟩ := Dump.pcapNewDumper_storedRecord (fun _ => []) 0
    (by decide : 100 ≤ 65535) (fun _ => 0) ⟨udpDatagram, ⟨0, 0⟩, 10001⟩
  obtain ⟨parsed, accepted⟩ :
      ∃ parsed, (zdtunParsePkt (fun _ => ⟨0, 0⟩) udpDatagram).1 = some parsed :=
    Option.isSome_iff_exists.mp (by decide)
  have reached : runPcap .inert (startCapture .initial true) [] =
      .ok (startCapture .initial true) := rfl
  obtain ⟨ipoffset, offset, parse, bytes, handled⟩ :=
    trailer_round_trip (fun _ => []) (Dump.pcapNewDumper_accounted .pcapDumpWithTrailer 100 0 _)
      rfl (by decide) (by decide) stored accepted (by decide) reached rfl
      (rfl : (⟨0, uidUnknown32, .ethernet, true⟩ : PcapdHdr).linktype = .ethernet) rfl
  cases offset
  exact ⟨record, parsed, stored, parse, bytes, handled⟩

end PcapdroidFormal.Pcap
