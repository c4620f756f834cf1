import PcapdroidFormal.Dump.Crc32

/-!
# The packet dumper

A model of `pcap_dump.c`.  Packets are written as PCAP records or PCAPNG
blocks into a fixed buffer, TLS master secrets are collected in a second
buffer, and both are handed to `dump_cb` when one of the flush triggers fires.
Both buffers are allocations with checked writes, so `none` stands for an
access outside them.  The values of the `int` fields stay far below `2 ^ 31`
and `dump_size` counts dumped bytes, hence both are natural numbers;
`now_ms` and `last_dump_ms` are subtracted as the 64-bit words they are.
-/

namespace PcapdroidFormal.Dump

open Foundation

inductive PcapDumpMode where
  | pcapDump
  | pcapDumpWithTrailer
  | pcapngDump
  deriving DecidableEq, Repr

def maxPcapDumpDelayMs : UInt64 := 1000
def pcapBufferSize : Nat := 512 * 1024
def pcapBufferAlmostFullSize : Nat := 450 * 1024

def sizeofPcapRec : Nat := 16
def sizeofEthhdr : Nat := 14
def sizeofPcapdroidTrailer : Nat := 32
def sizeofEnhPacketBlock : Nat := 28
def sizeofDecrSecretsBlock : Nat := 16

def keylogBufferHeadroom : Nat := sizeofDecrSecretsBlock
def keylogBufferTailroom : Nat := 8

def pcapdroidTrailerMagic : Nat := 0x01072021

/-- The timestamp of a packet, `struct timeval`. -/
structure Timeval where
  sec : Nat
  usec : Nat
  deriving DecidableEq, Repr

/-- The arguments of one `pcap_dump_packet` call; `pktlen` is the data length. -/
structure Packet where
  data : Bytes
  tv : Timeval
  uid : Int
  deriving DecidableEq, Repr

/-- What an observer of the dumper sees: the buffers handed to `dump_cb`, the
warning about a discarded keylog, and the results of the calls. -/
inductive Event where
  | dumpCb (buffer : Bytes)
  | keylogDiscarded
  | packet (packet : Packet) (returned : Bool)
  | secret (data : Bytes) (returned : Bool)
  deriving DecidableEq, Repr

/-- `struct pcap_dumper`, with the events it has produced so far. -/
structure Dumper where
  mode : PcapDumpMode
  snaplen : Nat
  maxDumpSize : Nat
  dumpSize : Nat
  lastDumpMs : UInt64
  buffer : Memory
  bufferIdx : Nat
  keylogBuf : Option Memory
  keylogIdx : Nat
  events : List Event

/-- `pcap_new_dumper`; `malloc` is the content of the fresh packet buffer. -/
def pcapNewDumper (mode : PcapDumpMode) (snaplen maxDumpSize : Nat) (malloc : Nat → UInt8) :
    Dumper where
  mode := mode
  snaplen := snaplen
  maxDumpSize := maxDumpSize
  dumpSize := 0
  lastDumpMs := 0
  buffer := ⟨pcapBufferSize, malloc⟩
  bufferIdx := 0
  keylogBuf := none
  keylogIdx := 0
  events := []

/-- `(~length + 1) & 0x3`: the bytes missing to a multiple of four. -/
def padding (length : Nat) : Nat :=
  ((~~~ BitVec.ofNat 32 length + 1) &&& 3).toNat

theorem padding_eq (length : Nat) : padding length = (4 - length % 4) % 4 := by
  have low (x : BitVec 32) : (x &&& 3).toNat = x.toNat % 4 := by
    exact Nat.and_two_pow_sub_one_eq_mod x.toNat 2
  have negated : ~~~ BitVec.ofNat 32 length + 1 = -BitVec.ofNat 32 length :=
    (BitVec.neg_eq_not_add _).symm
  rw [padding, low, negated, BitVec.toNat_neg, BitVec.toNat_ofNat]
  omega

theorem padding_lt (length : Nat) : padding length < 4 := by
  rw [padding_eq]
  grind

/-- Padding completes the length to a multiple of four. -/
theorem four_dvd_add_padding (length : Nat) : 4 ∣ length + padding length := by
  rw [padding_eq]
  omega

namespace Dumper

/-- Hand a buffer to `dump_cb`. -/
def emit (dumper : Dumper) (event : Event) : Dumper :=
  { dumper with events := dumper.events ++ [event] }

/-- The size of the decryption secrets block holding `secLen` bytes. -/
def keylogBlockSize (secLen : Nat) : Nat :=
  sizeofDecrSecretsBlock + secLen + padding secLen + 4

/-! The keylog buffer is shared with the thread that receives the secrets: it is written under
`keylog_mutex`, and `keylog_idx` is also tested without it.  What the functions do under the
lock is a function of its own. -/

/-- The part of `export_keylog_buffer` under `keylog_mutex`. -/
def exportKeylogSection (dumper : Dumper) : Option Dumper :=
  let secLen := dumper.keylogIdx
  let blockSize := keylogBlockSize secLen
  if 0 < dumper.maxDumpSize ∧ dumper.maxDumpSize ≤ dumper.dumpSize + blockSize then
    some ({ dumper with keylogIdx := 0 }.emit .keylogDiscarded)
  else do
    let keylog ← dumper.keylogBuf
    let keylog ← keylog.write? 0 (Bytes.littleEndian 4 0x0000000A)
    let keylog ← keylog.write? 4 (Bytes.littleEndian 4 blockSize)
    let keylog ← keylog.write? 8 (Bytes.littleEndian 4 0x544c534b)
    let keylog ← keylog.write? 12 (Bytes.littleEndian 4 secLen)
    let ptr := keylogBufferHeadroom + secLen
    let keylog ← keylog.write? ptr (List.replicate (padding secLen) 0)
    let keylog ← keylog.write? (ptr + padding secLen) (keylog.slice 4 4)
    some ({ dumper with
      keylogBuf := some keylog
      dumpSize := dumper.dumpSize + blockSize
      keylogIdx := 0 }.emit (.dumpCb (keylog.slice 0 blockSize)))

def exportKeylogBuffer (dumper : Dumper) : Option Dumper :=
  if dumper.keylogIdx = 0 then some dumper else dumper.exportKeylogSection

/-- `export_buffer` behind `export_keylog_buffer`. -/
def exportPackets (now : UInt64) (dumper : Dumper) : Dumper :=
  if dumper.bufferIdx = 0 then dumper
  else
    { dumper with bufferIdx := 0, lastDumpMs := now }.emit
      (.dumpCb (dumper.buffer.slice 0 dumper.bufferIdx))

/-- `export_buffer`, at the time `now` of `pd->now_ms`. -/
def exportBuffer (now : UInt64) (dumper : Dumper) : Option Dumper :=
  dumper.exportKeylogBuffer.map (exportPackets now)

/-- `pcap_destroy_dumper`: the last flush; the allocations are then released. -/
def pcapDestroyDumper (now : UInt64) (dumper : Dumper) : Option Dumper :=
  dumper.exportBuffer now

/-- The condition of `pcap_check_export` that does not concern the keylog. -/
def ExportDue (now : UInt64) (dumper : Dumper) : Prop :=
  0 < dumper.bufferIdx ∧ maxPcapDumpDelayMs ≤ now - dumper.lastDumpMs

instance (now : UInt64) (dumper : Dumper) : Decidable (dumper.ExportDue now) :=
  inferInstanceAs (Decidable (_ ∧ _))

/-- `pcap_rec_size`: the size of a PCAP record or enhanced packet block. -/
def pcapRecSize (dumper : Dumper) (pktLen : Nat) : Nat :=
  let pktLen := min pktLen dumper.snaplen
  match dumper.mode with
  | .pcapngDump => sizeofEnhPacketBlock + 4 + pktLen + padding pktLen
  | .pcapDumpWithTrailer =>
    let pktLen := pktLen + (sizeofPcapdroidTrailer + sizeofEthhdr)
    pktLen + padding pktLen + sizeofPcapRec
  | .pcapDump => pktLen + sizeofPcapRec

def pcapCheckExport (now : UInt64) (dumper : Dumper) : Option (Dumper × Bool) :=
  if dumper.ExportDue now ∨ pcapBufferAlmostFullSize < dumper.keylogIdx then
    (dumper.exportBuffer now).map fun dumper => (dumper, true)
  else some (dumper, false)

/-- The 20 bytes `get_appname_by_uid` leaves in `trailer->appname`. -/
def appnameField (name : Bytes) : Bytes :=
  name.take 19 ++ List.replicate (20 - (name.take 19).length) 0

/-- `trailer->uid` in network byte order. -/
def uidField (uid : Int) : Bytes := Bytes.bigEndian 4 (uid % 2 ^ 32).toNat

/-- `eth->h_proto`: IPv4 or IPv6, by the first nibble of the packet, which is never empty. -/
def protocolField (data : Bytes) : Bytes :=
  Bytes.bigEndian 2 (if data.headD 0 >>> 4 = 4 then 0x0800 else 0x86DD)

section Platform

/-! `appname` is the name the platform resolves for a uid (`getApplicationByUid`). -/

variable (appname : Int → Bytes)

/-- The part of `dump_packet_pcap` that fills the trailer after the payload. -/
def writeTrailer (memory : Memory) (record body offset inclLen : Nat) (uid : Int) :
    Option Memory := do
  let pad := padding offset
  let memory ← memory.write? (body + offset) (List.replicate pad 0)
  let trailer := body + offset + pad
  let memory ← memory.write? trailer (List.replicate sizeofPcapdroidTrailer 0)
  let memory ← memory.write? trailer (Bytes.bigEndian 4 pcapdroidTrailerMagic)
  let memory ← memory.write? (trailer + 4) (uidField uid)
  let memory ← memory.write? (trailer + 8) (appnameField (appname uid))
  let fcs := crc32 (memory.slice body (inclLen - 4)) 0
  let memory ← memory.write? (trailer + 28) (Bytes.littleEndian 4 fcs.toNat)
  let origLen := Bytes.ofLittleEndian (memory.slice (record + 12) 4)
  memory.write? (record + 12)
    (Bytes.littleEndian 4 (origLen + pad + sizeofPcapdroidTrailer))

def dumpPacketPcap (dumper : Dumper) (packet : Packet) (totRecSize : Nat) : Option Dumper := do
  let record := dumper.bufferIdx
  let pktlen := packet.data.length
  let inclLen := totRecSize - sizeofPcapRec
  let memory ← dumper.buffer.write? record (Bytes.littleEndian 4 packet.tv.sec)
  let memory ← memory.write? (record + 4) (Bytes.littleEndian 4 packet.tv.usec)
  let memory ← memory.write? (record + 8) (Bytes.littleEndian 4 inclLen)
  let memory ← memory.write? (record + 12) (Bytes.littleEndian 4 pktlen)
  let body := record + sizeofPcapRec
  if dumper.mode = .pcapDumpWithTrailer then do
    let memory ← memory.write? body (List.replicate sizeofEthhdr 0)
    let memory ← memory.write? (body + 12) (protocolField packet.data)
    let origLen := Bytes.ofLittleEndian (memory.slice (record + 12) 4)
    let memory ← memory.write? (record + 12) (Bytes.littleEndian 4 (origLen + sizeofEthhdr))
    let payloadToCopy := min pktlen (inclLen - sizeofEthhdr)
    let memory ← memory.write? (body + sizeofEthhdr) (packet.data.take payloadToCopy)
    let offset := sizeofEthhdr + payloadToCopy
    if sizeofPcapdroidTrailer ≤ inclLen - offset then do
      let memory ← writeTrailer appname memory record body offset inclLen packet.uid
      some { dumper with buffer := memory }
    else some { dumper with buffer := memory }
  else do
    let payloadToCopy := min pktlen inclLen
    let memory ← memory.write? body (packet.data.take payloadToCopy)
    some { dumper with buffer := memory }

def dumpPacketPcapng (dumper : Dumper) (packet : Packet) (totRecSize : Nat) : Option Dumper := do
  let epb := dumper.bufferIdx
  let nowUsec := (packet.tv.sec * 1000000 + packet.tv.usec) % 2 ^ 64
  let capturedLen := min packet.data.length dumper.snaplen
  let memory ← dumper.buffer.write? epb (Bytes.littleEndian 4 0x00000006)
  let memory ← memory.write? (epb + 4) (Bytes.littleEndian 4 totRecSize)
  let memory ← memory.write? (epb + 8) (Bytes.littleEndian 4 0)
  let memory ← memory.write? (epb + 12) (Bytes.littleEndian 4 (nowUsec / 2 ^ 32))
  let memory ← memory.write? (epb + 16) (Bytes.littleEndian 4 nowUsec)
  let memory ← memory.write? (epb + 20) (Bytes.littleEndian 4 capturedLen)
  let memory ← memory.write? (epb + 24) (Bytes.littleEndian 4 packet.data.length)
  let memory ← memory.write? (epb + sizeofEnhPacketBlock) (packet.data.take capturedLen)
  let buffer := epb + sizeofEnhPacketBlock + capturedLen
  let memory ← memory.write? buffer (List.replicate (padding capturedLen) 0)
  let memory ← memory.write? (buffer + padding capturedLen) (memory.slice (epb + 4) 4)
  some { dumper with buffer := memory }

/-- `pcap_dump_packet` between its `export_buffer` and its `pcap_check_export`. -/
def storeRecord (dumper : Dumper) (packet : Packet) (totRecSize : Nat) :
    Option (Dumper × Bool) :=
  if pcapBufferSize - dumper.bufferIdx ≤ totRecSize then some (dumper, false)
  else if 0 < dumper.maxDumpSize ∧ dumper.maxDumpSize ≤ dumper.dumpSize + totRecSize then
    some (dumper, false)
  else do
    let dumper ←
      (if dumper.mode = .pcapngDump then dumper.dumpPacketPcapng packet totRecSize
      else dumpPacketPcap appname dumper packet totRecSize)
    some ({ dumper with
      bufferIdx := dumper.bufferIdx + totRecSize
      dumpSize := dumper.dumpSize + totRecSize }, true)

/-- The body of `pcap_dump_packet` up to its final `pcap_check_export`. -/
def storePacket (now : UInt64) (dumper : Dumper) (packet : Packet) : Option (Dumper × Bool) :=
  let totRecSize := dumper.pcapRecSize packet.data.length
  (if pcapBufferSize - dumper.bufferIdx ≤ totRecSize then dumper.exportBuffer now
    else some dumper).bind fun dumper => storeRecord appname dumper packet totRecSize

/-- `pcap_dump_packet`: false if the dump must be stopped. -/
def pcapDumpPacket (now : UInt64) (dumper : Dumper) (packet : Packet) :
    Option (Dumper × Bool) := do
  let (dumper, stored) ← storePacket appname now dumper packet
  if stored then do
    let (dumper, _) ← dumper.pcapCheckExport now
    some (dumper, true)
  else some (dumper, false)

end Platform

/-- The keylog allocation: `[ DSB | KEYLOG[PCAP_BUFFER_SIZE] | PADDING[0-3] | total_length ]`. -/
def keylogAllocation (malloc : Nat → UInt8) : Memory :=
  ⟨keylogBufferHeadroom + pcapBufferSize + keylogBufferTailroom, malloc⟩

/-- `pcap_dump_secret` before its lock; true if the secret is to be stored. -/
def prepareSecret (dumper : Dumper) (secData : Bytes) (malloc : Option (Nat → UInt8)) :
    Dumper × Bool :=
  match dumper.keylogBuf.orElse fun _ => malloc.map keylogAllocation with
  | none => (dumper, false)
  | some keylog =>
    ({ dumper with keylogBuf := some keylog },
      !decide (pcapBufferSize ≤ dumper.keylogIdx + (secData.length + 1)))

/-- The part of `pcap_dump_secret` under `keylog_mutex`. -/
def storeSecret (dumper : Dumper) (secData : Bytes) : Option Dumper := do
  let keylog ← dumper.keylogBuf
  let keylog ← keylog.write? (keylogBufferHeadroom + dumper.keylogIdx) secData
  let keylogIdx := dumper.keylogIdx + secData.length
  let keylog ← keylog.write? (keylogBufferHeadroom + keylogIdx) [0x0A]
  some { dumper with keylogBuf := some keylog, keylogIdx := keylogIdx + 1 }

/-- `pcap_dump_secret`; `malloc` is the outcome of the allocation, should the
keylog buffer not exist yet. -/
def pcapDumpSecret (dumper : Dumper) (secData : Bytes) (malloc : Option (Nat → UInt8)) :
    Option (Dumper × Bool) :=
  match dumper.prepareSecret secData malloc with
  | (dumper, true) => (dumper.storeSecret secData).map fun dumper => (dumper, true)
  | (dumper, false) => some (dumper, false)

end Dumper

/-- A call on a live dumper, with the value of `pd->now_ms` it observes. -/
inductive Call where
  | dumpPacket (now : UInt64) (packet : Packet)
  | checkExport (now : UInt64)
  | dumpSecret (secData : Bytes) (malloc : Option (Nat → UInt8))

def Call.perform (appname : Int → Bytes) (dumper : Dumper) : Call → Option Dumper
  | .dumpPacket now packet => do
      let (dumper, returned) ← Dumper.pcapDumpPacket appname now dumper packet
      some (dumper.emit (.packet packet returned))
  | .checkExport now => (dumper.pcapCheckExport now).map Prod.fst
  | .dumpSecret secData malloc => do
      let (dumper, returned) ← dumper.pcapDumpSecret secData malloc
      some (dumper.emit (.secret secData returned))

/-- Perform the calls of a capture in order. -/
def performAll (appname : Int → Bytes) (dumper : Dumper) (calls : List Call) : Option Dumper :=
  calls.foldlM (fun dumper call => call.perform appname dumper) dumper

end PcapdroidFormal.Dump
