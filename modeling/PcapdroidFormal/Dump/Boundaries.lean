import PcapdroidFormal.Dump.RoundTrip

/-!
# Every buffer ends at a record boundary

A reader may join a dump at any of its buffers, since each of them is a sequence
of whole records or blocks.  This holds in all modes, also for the records with
a trailer whose frame is not filled up to its end, and for packets whose
timestamp or length does not fit its field.
-/

namespace PcapdroidFormal.Dump

open Foundation

/-- Whole PCAP records, or whole and well-formed PCAPNG blocks. -/
def WholeItems (mode : PcapDumpMode) (bytes : Bytes) : Prop :=
  match mode with
  | .pcapngDump => pcapngFormat.Frames PcapngBlock.WellFormed bytes
  | _ => pcapFormat.Frames (fun _ => True) bytes

theorem WholeItems.nil (mode : PcapDumpMode) : WholeItems mode [] := by
  cases mode with
  | pcapDump => exact Format.Frames.nil
  | pcapDumpWithTrailer => exact Format.Frames.nil
  | pcapngDump => exact Format.Frames.nil

theorem WholeItems.append {mode : PcapDumpMode} {first second : Bytes}
    (whole : WholeItems mode first) (behind : WholeItems mode second) :
    WholeItems mode (first ++ second) := by
  cases mode with
  | pcapDump => exact Format.Frames.append whole behind
  | pcapDumpWithTrailer => exact Format.Frames.append whole behind
  | pcapngDump => exact Format.Frames.append whole behind

theorem WholeItems.flatten {mode : PcapDumpMode} {buffers : List Bytes}
    (whole : ∀ buffer ∈ buffers, WholeItems mode buffer) : WholeItems mode buffers.flatten := by
  induction buffers with
  | nil => exact .nil mode
  | cons buffer buffers ih =>
    exact (whole buffer List.mem_cons_self).append
      (ih fun other member => whole other (List.mem_cons_of_mem _ member))

/-! ## One record -/

/-- A PCAP record is whole if `incl_len` is right, whatever its other fields. -/
theorem pcapRecord_frames (sec usec orig : Nat) {data : Bytes} {inclLen : Nat}
    (width : data.length = inclLen) (small : inclLen < 2 ^ 32) :
    pcapFormat.Frames (fun _ => True) (Bytes.littleEndian 4 sec ++ (Bytes.littleEndian 4 usec ++
      (Bytes.littleEndian 4 inclLen ++ (Bytes.littleEndian 4 orig ++ data)))) := by
  subst width
  have bound (value : Nat) : value % 256 ^ 4 < 2 ^ 32 := Nat.mod_lt value (by decide)
  have fits : PcapRecord.Fits ⟨sec % 256 ^ 4, usec % 256 ^ 4, orig % 256 ^ 4, data⟩ :=
    ⟨bound sec, bound usec, small, bound orig⟩
  have framed := @Format.Frames.single _ pcapFormat (fun _ => True) _ fits trivial
  simpa only [pcapFormat, PcapRecord.encode, Bytes.littleEndian_mod] using framed

/-- What follows a frame that is too short still belongs to its record. -/
theorem Packet.frameContent_frames (packet : Packet) (snaplen : Nat) (appname : Int → Bytes)
    {old : Bytes} (total : (packet.frameContent snaplen appname ++ old).length =
      sizeofPcapRec + packet.frameLen snaplen) (small : packet.frameLen snaplen < 2 ^ 32) :
    pcapFormat.Frames (fun _ => True) (packet.frameContent snaplen appname ++ old) := by
  obtain ⟨orig, frame, shape⟩ : ∃ orig frame, packet.frameContent snaplen appname =
      packet.frameHeader snaplen ++ (Bytes.littleEndian 4 orig ++ frame) := by
    unfold Packet.frameContent
    split
    · exact ⟨_, _, rfl⟩
    · exact ⟨_, _, rfl⟩
  rw [shape, Packet.frameHeader] at total ⊢
  simp only [List.append_assoc] at total ⊢
  apply pcapRecord_frames _ _ _ ?_ small
  simp only [List.length_append, Bytes.littleEndian_length, sizeofPcapRec] at total ⊢
  omega

variable {appname : Int → Bytes}

/-- The bytes of a stored packet are a whole record or block. -/
theorem Dumper.Stored.wholeItems {packet : Packet} {before after : Dumper}
    (stored : Dumper.Stored appname packet before after) :
    WholeItems before.mode (after.buffer.slice before.bufferIdx
      (before.pcapRecSize packet.data.length)) := by
  obtain ⟨room, below⟩ := stored
  have small : before.pcapRecSize packet.data.length < 2 ^ 32 :=
    Nat.lt_of_lt_of_le room (Nat.le_trans (Nat.sub_le _ _) (by decide))
  cases mode : before.mode with
  | pcapDump =>
    have width := packet.pcapRecord_length before mode
    rw [PcapRecord.encode_length] at width
    rw [← packet.pcapRecord_length before mode, Packet.recordBytes, Memory.slice_store_self]
    exact pcapRecord_frames _ _ _ rfl (by omega)
  | pcapDumpWithTrailer =>
    have size := before.pcapRecSize_trailer packet mode
    have content := packet.frameContent_length_le before.snaplen appname
    have split : before.pcapRecSize packet.data.length =
        (packet.frameContent before.snaplen appname).length +
          (before.pcapRecSize packet.data.length -
            (packet.frameContent before.snaplen appname).length) := by
      omega
    rw [split, Memory.slice_add, Packet.recordBytes, Memory.slice_store_self]
    apply packet.frameContent_frames
    · rw [List.length_append, Memory.slice_length]
      omega
    · omega
  | pcapngDump =>
    have total : (packet.enhPacketBlock before.snaplen).totalLength =
        before.pcapRecSize packet.data.length := by
      simp only [Packet.enhPacketBlock, Dumper.pcapRecSize, mode]
    rw [← packet.enhPacketBlock_length before mode, Packet.recordBytes, Memory.slice_store_self]
    exact Format.Frames.single
      (packet.enhPacketBlock_fits_of_size before.snaplen (total ▸ small))
      (packet.enhPacketBlock_wellFormed before.snaplen)

/-! ## Runs -/

/-- The buffers handed to `dump_cb`, in order. -/
def dumpedBuffers (events : List Event) : List Bytes :=
  events.filterMap fun
    | .dumpCb buffer => some buffer
    | _ => none

@[simp] theorem dumpedBuffers_append (first second : List Event) :
    dumpedBuffers (first ++ second) = dumpedBuffers first ++ dumpedBuffers second := by
  simp [dumpedBuffers]

/-- A buffer that a reader can join at. -/
structure WholeBuffer (mode : PcapDumpMode) (buffer : Bytes) : Prop where
  items : WholeItems mode buffer
  nonempty : buffer ≠ []

/-- The dumped buffers and the one being filled consist of whole items. -/
structure Dumper.Aligned (dumper : Dumper) : Prop where
  dumped : ∀ buffer ∈ dumpedBuffers dumper.events, WholeBuffer dumper.mode buffer
  buffered : WholeItems dumper.mode (dumper.buffer.slice 0 dumper.bufferIdx)
  secrets : dumper.keylogIdx ≠ 0 → dumper.mode = .pcapngDump

namespace Dumper.Aligned

variable {dumper after : Dumper}

theorem initial (mode : PcapDumpMode) (snaplen maxDumpSize : Nat) (malloc : Nat → UInt8) :
    (pcapNewDumper mode snaplen maxDumpSize malloc).Aligned where
  dumped := List.forall_mem_nil _
  buffered := .nil mode
  secrets nonzero := absurd rfl nonzero

variable (aligned : dumper.Aligned)
include aligned

/-- An event that dumps nothing. -/
theorem emit {event : Event} (silent : dumpedBuffers [event] = []) :
    (dumper.emit event).Aligned := by
  refine ⟨?_, aligned.buffered, aligned.secrets⟩
  rw [Dumper.emit_events, dumpedBuffers_append, silent, List.append_nil]
  exact aligned.dumped

theorem dumpCb {buffer : Bytes} (whole : WholeBuffer dumper.mode buffer) :
    (dumper.emit (.dumpCb buffer)).Aligned := by
  refine ⟨?_, aligned.buffered, aligned.secrets⟩
  intro other member
  rw [Dumper.emit_events, dumpedBuffers_append] at member
  rcases List.mem_append.mp member with old | new
  · exact aligned.dumped other old
  · cases List.mem_singleton.mp new
    exact whole

theorem flush (accounted : dumper.Accounted) (flush : Dumper.Flush dumper after) :
    after.Aligned := by
  cases flush with
  | discardKeylog pending full =>
    have emptied : { dumper with keylogIdx := 0 }.Aligned :=
      ⟨aligned.dumped, aligned.buffered, fun nonzero => absurd rfl nonzero⟩
    exact emptied.emit rfl
  | @exportKeylog memory allocated pending below =>
    have mode := aligned.secrets pending
    have short : (dumper.keylog memory).length < pcapBufferSize := by
      rw [Dumper.keylog_length]
      exact accounted.keylogIdx
    have whole : WholeBuffer dumper.mode (secretsBlock (dumper.keylog memory)).encode := by
      refine ⟨?_, pcapngFormat.encode_ne_nil _⟩
      rw [mode]
      exact Format.Frames.single (secretsBlock_fits short) (secretsBlock_wellFormed _)
    have emptied : { dumper with
        keylogBuf := some (memory.store 0 (secretsBlock (dumper.keylog memory)).encode)
        dumpSize := dumper.dumpSize + keylogBlockSize dumper.keylogIdx
        keylogIdx := 0 }.Aligned :=
      ⟨aligned.dumped, aligned.buffered, fun nonzero => absurd rfl nonzero⟩
    exact emptied.dumpCb whole
  | exportPackets now flushed pending =>
    have nonempty : dumper.buffer.slice 0 dumper.bufferIdx ≠ [] := by
      intro empty
      have length := congrArg List.length empty
      rw [Memory.slice_length] at length
      exact pending length
    have emptied : { dumper with bufferIdx := 0, lastDumpMs := now }.Aligned :=
      ⟨aligned.dumped, .nil dumper.mode, aligned.secrets⟩
    exact emptied.dumpCb ⟨aligned.buffered, nonempty⟩

theorem flushes (accounted : dumper.Accounted) (flushes : Dumper.Flushes dumper after) :
    after.Aligned := by
  induction flushes with
  | refl => exact aligned
  | tail earlier last ih => exact ih.flush (Dumper.Flushes.accounted earlier accounted) last

theorem stored {packet : Packet} (stored : Dumper.Stored appname packet dumper after) :
    after.Aligned := by
  have record := stored.wholeItems
  obtain ⟨room, below⟩ := stored
  refine ⟨aligned.dumped, ?_, aligned.secrets⟩
  rw [Memory.slice_add, Memory.slice_store_of_disjoint _ (.inl (by omega)), Nat.zero_add]
  exact aligned.buffered.append record

theorem secretStored {secData : Bytes} {returned : Bool} (mode : dumper.mode = .pcapngDump)
    (stored : Dumper.SecretStored secData dumper after returned) : after.Aligned := by
  cases stored with
  | stored buffer room => exact ⟨aligned.dumped, aligned.buffered, fun _ => mode⟩
  | full buffer => exact ⟨aligned.dumped, aligned.buffered, aligned.secrets⟩
  | failed => exact aligned

end Dumper.Aligned

def Call.SecretsInPcapng (mode : PcapDumpMode) : Call → Prop
  | .dumpSecret _ _ => mode = .pcapngDump
  | _ => True

theorem Call.Effect.aligned {call : Call} {before after : Dumper}
    (effect : call.Effect appname before after) (valid : call.SecretsInPcapng before.mode)
    (accounted : before.Accounted) (aligned : before.Aligned) : after.Aligned := by
  cases effect with
  | packetStored now packet room stored flushes =>
    have kept := (aligned.flushes accounted room).stored stored
    exact (kept.flushes (stored.accounted (room.accounted accounted)) flushes).emit rfl
  | packetRefused now packet flushes => exact (aligned.flushes accounted flushes).emit rfl
  | exported now flushes => exact aligned.flushes accounted flushes
  | secret secData malloc stored => exact (aligned.secretStored valid stored).emit rfl

/-- Every buffer that a dump hands out, up to the one of `pcap_destroy_dumper`, consists of
whole items. -/
theorem dumpedBuffers_whole (appname : Int → Bytes) (mode : PcapDumpMode)
    (snaplen maxDumpSize : Nat) (malloc : Nat → UInt8) (calls : List Call) (now : UInt64)
    (valid : ∀ call ∈ calls, call.SecretsInPcapng mode) :
    ∃ dumper final,
      performAll appname (pcapNewDumper mode snaplen maxDumpSize malloc) calls = some dumper ∧
      dumper.pcapDestroyDumper now = some final ∧
      dumper.config = (mode, snaplen, maxDumpSize) ∧
      ∀ buffer ∈ dumpedBuffers final.events, WholeBuffer mode buffer := by
  obtain ⟨dumper, performed, accounted, config, aligned⟩ := performAll_invariant appname
    (Call.SecretsInPcapng mode)
    (fun dumper => dumper.config = (mode, snaplen, maxDumpSize) ∧ dumper.Aligned)
    (by
      rintro call before after valid accounted ⟨config, aligned⟩ effect
      have same : before.mode = mode := congrArg Prod.fst config
      exact ⟨effect.config_eq.trans config, effect.aligned (same ▸ valid) accounted aligned⟩)
    calls valid (pcapNewDumper_accounted mode snaplen maxDumpSize malloc)
    ⟨rfl, .initial mode snaplen maxDumpSize malloc⟩
  obtain ⟨final, destroyed, flushes, _⟩ := Dumper.exportBuffer_flushes now accounted
  have last := aligned.flushes accounted flushes
  have same : final.mode = mode := congrArg Prod.fst (flushes.config_eq.trans config)
  exact ⟨dumper, final, performed, destroyed, config, same ▸ last.dumped⟩

end PcapdroidFormal.Dump
