import PcapdroidFormal.Dump.Threads

/-!
# The secrets go out before the packets

Seen from outside, the dumper is an outbox: secrets and packets wait in two
queues, and the packets only go out when the secrets accepted before them are
out.  The unlocked tests of `keylog_idx` are harmless, since only the capture
thread empties the keylog and only the receiver thread fills it: a test of the
one thread stays true until its lock, whatever the other does in between.
-/

namespace PcapdroidFormal.Dump

open Foundation

variable {before after : Dumper} {outbox : Outbox Bytes Packet}

/-! ## What is dumped -/

def Event.isFlush : Event → Bool
  | .dumpCb _ => true
  | .keylogDiscarded => true
  | _ => false

/-- The buffers handed to `dump_cb` and the discarded keylogs, in order. -/
def flushEvents (events : List Event) : List Event := events.filter Event.isFlush

@[simp] theorem flushEvents_snoc (events : List Event) (event : Event) :
    flushEvents (events ++ [event]) =
      flushEvents events ++ if event.isFlush then [event] else [] := by
  rw [flushEvents, List.filter_append]
  cases event <;> rfl

theorem acceptedSecrets_flush (events : List Event) (event : Event)
    (flush : event.isFlush = true) :
    acceptedSecrets (events ++ [event]) = acceptedSecrets events := by
  rw [acceptedSecrets_append]
  cases event with
  | dumpCb buffer => exact List.append_nil _
  | keylogDiscarded => exact List.append_nil _
  | packet packet returned => cases flush
  | secret secData returned => cases flush

def packetBlocks (snaplen : Nat) (calls : List PacketCall) : Bytes :=
  pcapngFormat.encodeAll (calls.map fun call => call.item.enhPacketBlock snaplen)

/-- What a batch leaves in the events: one decryption secrets block, the packet buffer, or
the note about a discarded keylog. -/
def batchEvent (snaplen : Nat) : Batch Bytes Packet → Event
  | .marks true secrets => .dumpCb (secretsBlock (keylogLines secrets)).encode
  | .marks false _ => .keylogDiscarded
  | .items calls => .dumpCb (packetBlocks snaplen calls)

/-- `batches` is what was dumped.  Every accepted secret is in exactly one decryption secrets
block or discarded keylog, unmodified and in order, and every stored packet is behind the
secrets that were accepted before its call. -/
structure SecretsExported (calls : List PacketCall) (dumper : Dumper)
    (batches : List (Batch Bytes Packet)) : Prop where
  buffers : flushEvents dumper.events = batches.map (batchEvent dumper.snaplen)
  secrets : marksOf batches = acceptedSecrets dumper.events
  packets : itemsOf batches = calls
  blocks : ∀ secrets, .marks true secrets ∈ batches →
    (secretsBlock (keylogLines secrets)).secrets? = some (keylogLines secrets)
  /-- One more block would have brought the dump to the limit. -/
  discarded : ∀ secrets, .marks false secrets ∈ batches → 0 < dumper.maxDumpSize ∧
    dumper.maxDumpSize ≤ (stream dumper.events).length +
      Dumper.keylogBlockSize (keylogLines secrets).length
  behind : ∀ earlier written later, batches = earlier ++ .items written :: later →
    ∀ call ∈ written, call.before <+: marksOf earlier

/-! ## The dumper as an outbox -/

/-- The buffers of the dumper hold what waits in the outbox. -/
structure Carries (outbox : Outbox Bytes Packet) (calls : List PacketCall) (dumper : Dumper) :
    Prop where
  accounted : dumper.Accounted
  mode : dumper.mode = .pcapngDump
  sound : outbox.Sound (acceptedSecrets dumper.events) calls
  buffers : flushEvents dumper.events = outbox.written.map (batchEvent dumper.snaplen)
  buffered : dumper.buffer.slice 0 dumper.bufferIdx = packetBlocks dumper.snaplen outbox.buffered
  keylogIdx : dumper.keylogIdx = (keylogLines outbox.pending).length
  keylog : ∀ memory, dumper.keylogBuf = some memory →
    dumper.keylog memory = keylogLines outbox.pending
  short : ∀ secrets, .marks true secrets ∈ outbox.written →
    (keylogLines secrets).length < pcapBufferSize
  discarded : ∀ secrets, .marks false secrets ∈ outbox.written → 0 < dumper.maxDumpSize ∧
    dumper.maxDumpSize ≤ dumper.dumpSize +
      Dumper.keylogBlockSize (keylogLines secrets).length

/-- What a step of the capture thread leaves to the receiver thread: the keylog buffer stays
allocated, and it is not fuller than before. -/
structure KeylogEased (before after : Dumper) : Prop where
  allocated : before.keylogBuf.isSome = true → after.keylogBuf.isSome = true
  emptier : after.keylogIdx ≤ before.keylogIdx

/-- What every step keeps for a call under way. -/
structure Advanced (before after : Dumper) : Prop where
  config : after.config = before.config
  accepted : acceptedSecrets before.events <+: acceptedSecrets after.events

theorem KeylogEased.refl (dumper : Dumper) : KeylogEased dumper dumper := ⟨id, Nat.le_refl _⟩

theorem Advanced.of_same (config : after.config = before.config)
    (accepted : acceptedSecrets after.events = acceptedSecrets before.events) :
    Advanced before after :=
  ⟨config, accepted ▸ List.prefix_rfl⟩

namespace Carries

variable {outbox : Outbox Bytes Packet} {calls : List PacketCall} {dumper : Dumper}

theorem initial (snaplen maxDumpSize : Nat) (malloc : Nat → UInt8) :
    Carries ⟨[], [], []⟩ [] (pcapNewDumper .pcapngDump snaplen maxDumpSize malloc) where
  accounted := pcapNewDumper_accounted .pcapngDump snaplen maxDumpSize malloc
  mode := rfl
  sound := .empty
  buffers := rfl
  buffered := rfl
  keylogIdx := rfl
  keylog := nofun
  short := nofun
  discarded := nofun

variable (carries : Carries outbox calls dumper)
include carries

/-- An empty keylog buffer means that no secret is pending. -/
theorem pending_nil (empty : dumper.keylogIdx = 0) : outbox.pending = [] :=
  keylogLines_eq_nil (carries.keylogIdx.symm.trans empty)

/-- The locked section of `export_keylog_buffer` empties a keylog that is not empty. -/
theorem exportKeylogSection (pending : dumper.keylogIdx ≠ 0) :
    ∃ after kept, dumper.exportKeylogSection = some after ∧
      Carries (outbox.writeMarks kept) calls after ∧
      KeylogEased dumper after ∧ Advanced dumper after := by
  obtain ⟨after, exported, flush, _⟩ :=
    Dumper.exportKeylogSection_flush carries.accounted pending
  have accounted := flush.accounted carries.accounted
  cases flush with
  | discardKeylog _ full =>
    have accepted := acceptedSecrets_flush dumper.events .keylogDiscarded rfl
    refine ⟨_, false, exported, ?_, ⟨id, Nat.zero_le _⟩, .of_same rfl accepted⟩
    refine ⟨accounted, carries.mode, ?_, ?_, carries.buffered, rfl, fun _ _ => rfl, ?_, ?_⟩
    · simpa only [Dumper.emit, accepted] using carries.sound.writeMarks false
    · simp only [Dumper.emit, flushEvents_snoc, carries.buffers, Outbox.writeMarks,
        List.map_append]
      rfl
    · intro secrets member
      rcases List.mem_append.mp member with old | new
      · exact carries.short secrets old
      · grind
    · intro secrets member
      rcases List.mem_append.mp member with old | new
      · exact carries.discarded secrets old
      · cases List.mem_singleton.mp new
        rw [← carries.keylogIdx]
        exact full
  | @exportKeylog memory allocated _ below =>
    have content := carries.keylog memory allocated
    have accepted (block : Bytes) := acceptedSecrets_flush dumper.events (.dumpCb block) rfl
    refine ⟨_, true, exported, ?_, ⟨fun _ => rfl, Nat.zero_le _⟩,
      .of_same rfl (accepted _)⟩
    refine ⟨accounted, carries.mode, ?_, ?_, carries.buffered, rfl, fun _ _ => rfl, ?_, ?_⟩
    · simpa only [Dumper.emit, accepted] using carries.sound.writeMarks true
    · simp only [Dumper.emit, flushEvents_snoc, carries.buffers, Outbox.writeMarks,
        List.map_append, content]
      rfl
    · intro secrets member
      rcases List.mem_append.mp member with old | new
      · exact carries.short secrets old
      · cases List.mem_singleton.mp new
        rw [← carries.keylogIdx]
        exact carries.accounted.keylogIdx
    · intro secrets member
      rcases List.mem_append.mp member with old | new
      · obtain ⟨limited, reached⟩ := carries.discarded secrets old
        refine ⟨limited, Nat.le_trans reached ?_⟩
        exact Nat.add_le_add_right (Nat.le_add_right _ _) _
      · grind
  | exportPackets now flushed _ => exact absurd flushed pending

/-- An empty packet buffer means that no packet is buffered. -/
theorem buffered_nil (empty : dumper.bufferIdx = 0) : outbox.buffered = [] := by
  have bytes := carries.buffered
  rw [empty, Memory.slice_zero] at bytes
  have short := pcapngFormat.length_le_encodeAll
    (outbox.buffered.map fun call => call.item.enhPacketBlock dumper.snaplen)
  change _ ≤ (packetBlocks dumper.snaplen outbox.buffered).length at short
  rw [← bytes, List.length_map] at short
  exact List.length_eq_zero_iff.mp (Nat.le_zero.mp short)

/-- The packet buffer goes out behind the secrets of its packets. -/
theorem exportPackets (cleared : outbox.Cleared) (now : UInt64) :
    ∃ flushed, Carries flushed calls (dumper.exportPackets now) ∧
      flushed.pending = outbox.pending ∧ (dumper.exportPackets now).bufferIdx = 0 ∧
      KeylogEased dumper (dumper.exportPackets now) ∧
      Advanced dumper (dumper.exportPackets now) := by
  unfold Dumper.exportPackets
  split
  next empty => exact ⟨outbox, carries, rfl, empty, .refl dumper, .of_same rfl rfl⟩
  next nonempty =>
    have accepted := acceptedSecrets_flush dumper.events
      (.dumpCb (dumper.buffer.slice 0 dumper.bufferIdx)) rfl
    refine ⟨outbox.writeItems, ?_, rfl, rfl, ⟨id, Nat.le_refl _⟩, .of_same rfl accepted⟩
    refine ⟨carries.accounted.packetsExported now, carries.mode, ?_, ?_, rfl, carries.keylogIdx,
      carries.keylog, ?_, ?_⟩
    · simpa only [Dumper.emit, accepted] using carries.sound.writeItems cleared
    · simp only [Dumper.emit, flushEvents_snoc, carries.buffers, Outbox.writeItems,
        List.map_append, carries.buffered]
      rfl
    · intro secrets member
      rcases List.mem_append.mp member with old | new
      · exact carries.short secrets old
      · grind
    · intro secrets member
      rcases List.mem_append.mp member with old | new
      · exact carries.discarded secrets old
      · grind

/-- A stored packet joins the buffered ones. -/
theorem stored {appname : Int → Bytes} {call : PacketCall}
    (due : call.before <+: acceptedSecrets dumper.events)
    (stored : Dumper.Stored appname call.item dumper after) :
    Carries (outbox.buffer call) (calls ++ [call]) after ∧ KeylogEased dumper after ∧
      Advanced dumper after := by
  have plain : dumper.mode ≠ .pcapDumpWithTrailer := by
    rw [carries.mode]
    exact nofun
  have extended := stored.slice_eq plain
  have accounted := stored.accounted carries.accounted
  obtain ⟨room, below⟩ := stored
  refine ⟨⟨accounted, carries.mode, carries.sound.buffer due, carries.buffers, ?_,
    carries.keylogIdx, carries.keylog, carries.short, ?_⟩, ⟨id, Nat.le_refl _⟩, .of_same rfl rfl⟩
  · rw [extended, carries.buffered, carries.mode]
    simp [packetBlocks, Format.encodeAll, Outbox.buffer, Packet.recordBytes, pcapngFormat]
  · intro secrets member
    obtain ⟨limited, reached⟩ := carries.discarded secrets member
    grind

/-- A keylog buffer that is allocated late holds nothing, and there is nothing to hold. -/
theorem keylogBuffer {memory : Memory} (buffer : dumper.KeylogBuffer memory) :
    Carries outbox calls { dumper with keylogBuf := some memory } := by
  have accounted := (Dumper.SecretStored.full dumper buffer :
    Dumper.SecretStored [] dumper _ false).accounted carries.accounted
  refine ⟨accounted, carries.mode, carries.sound, carries.buffers, carries.buffered,
    carries.keylogIdx, ?_, carries.short, carries.discarded⟩
  rintro keylog ⟨⟩
  rcases buffer with allocated | ⟨missing, _⟩
  · exact carries.keylog memory allocated
  · have empty := carries.accounted.keylogAllocated missing
    rw [carries.pending_nil empty, Dumper.keylog, empty]
    rfl

/-- The locked section of `pcap_dump_secret`. -/
theorem storeSecret {secData : Bytes} (allocated : dumper.keylogBuf.isSome = true)
    (room : dumper.keylogIdx + (secData.length + 1) < pcapBufferSize) :
    ∃ after, dumper.storeSecret secData = some after ∧
      Carries (outbox.accept secData) calls (after.emit (.secret secData true)) ∧
      after.keylogIdx ≠ 0 ∧ Advanced dumper (after.emit (.secret secData true)) := by
  obtain ⟨memory, buffer⟩ := Option.isSome_iff_exists.mp allocated
  have content := carries.keylog memory buffer
  have accounted := (Dumper.SecretStored.stored dumper (.inl buffer) room).accounted
    carries.accounted
  have accepted : acceptedSecrets (dumper.events ++ [.secret secData true]) =
      acceptedSecrets dumper.events ++ [secData] := acceptedSecrets_append _ _
  have lines : keylogLines (outbox.pending ++ [secData]) =
      keylogLines outbox.pending ++ (secData ++ [0x0A]) := by
    simp
  refine ⟨_, Dumper.storeSecret_eq buffer (carries.accounted.keylogSize memory buffer) room, ?_,
    Nat.succ_ne_zero _, rfl, ?_⟩
  · refine ⟨accounted.emit_result rfl, carries.mode, ?_, ?_, carries.buffered, ?_, ?_,
      carries.short, carries.discarded⟩
    · simpa only [Dumper.emit, accepted] using carries.sound.accept secData
    · rw [Dumper.emit_events, flushEvents_snoc]
      exact (List.append_nil _).trans carries.buffers
    · simp only [Dumper.emit, Outbox.accept, lines, List.length_append, List.length_singleton,
        carries.keylogIdx, Nat.add_assoc]
    · rintro keylog ⟨⟩
      simp only [Dumper.emit, Outbox.accept, lines, ← content, Dumper.keylog, Nat.add_assoc]
      exact keylog_extended memory dumper.keylogIdx secData
  · simp

/-- A refused secret changes nothing. -/
theorem refuseSecret (secData : Bytes) :
    Carries outbox calls (dumper.emit (.secret secData false)) := by
  have accepted : acceptedSecrets (dumper.events ++ [.secret secData false]) =
      acceptedSecrets dumper.events := (acceptedSecrets_append _ _).trans (List.append_nil _)
  refine ⟨carries.accounted.emit_result rfl, carries.mode, ?_, ?_, carries.buffered,
    carries.keylogIdx, carries.keylog, carries.short, carries.discarded⟩
  · rw [Dumper.emit_events, accepted]
    exact carries.sound
  · rw [Dumper.emit_events, flushEvents_snoc]
    exact (List.append_nil _).trans carries.buffers

end Carries

/-! ## The steps of the threads -/

/-- What the rest of a call still relies on. -/
def AfterExport.Holds (dumper : Dumper) : AfterExport → Prop
  | .storeRecord call totRecSize => call.before <+: acceptedSecrets dumper.events ∧
      totRecSize = dumper.pcapRecSize call.item.data.length
  | .done => True

/-- What the capture thread has found out before its next step. -/
def CapturePoint.Holds (outbox : Outbox Bytes Packet) (dumper : Dumper) : CapturePoint → Prop
  | .outside => True
  | .checkKeylog _ => True
  | .readKeylog _ next => next.Holds dumper
  | .lockKeylog _ next => dumper.keylogIdx ≠ 0 ∧ next.Holds dumper
  | .flushPackets _ next => outbox.Cleared ∧ next.Holds dumper

/-- What the receiver thread has found out before its next step. -/
def ReceiverPoint.Holds (dumper : Dumper) : ReceiverPoint → Prop
  | .outside => True
  | .lockKeylog secData => dumper.keylogBuf.isSome = true ∧
      dumper.keylogIdx + (secData.length + 1) < pcapBufferSize

structure ThreadsHold (outbox : Outbox Bytes Packet) (threads : Threads) : Prop where
  carries : Carries outbox threads.calls threads.dumper
  capture : threads.capture.Holds outbox threads.dumper
  receiver : threads.receiver.Holds threads.dumper

theorem AfterExport.Holds.advance {next : AfterExport}
    (holds : next.Holds before) (advanced : Advanced before after) : next.Holds after := by
  cases next with
  | done => trivial
  | storeRecord call totRecSize =>
    obtain ⟨due, size⟩ := holds
    refine ⟨due.trans advanced.accepted, size.trans ?_⟩
    exact (Dumper.pcapRecSize_of_config advanced.config _).symm

/-- The capture thread does not invalidate the test of the receiver thread. -/
theorem ReceiverPoint.Holds.ease {point : ReceiverPoint}
    (holds : point.Holds before) (eased : KeylogEased before after) : point.Holds after := by
  cases point with
  | outside => trivial
  | lockKeylog secData =>
    obtain ⟨allocated, room⟩ := holds
    refine ⟨eased.allocated allocated, ?_⟩
    exact Nat.lt_of_le_of_lt (Nat.add_le_add_right eased.emptier _) room

/-- The receiver thread does not invalidate the tests of the capture thread. -/
theorem CapturePoint.Holds.advance {outbox filled : Outbox Bytes Packet}
    {point : CapturePoint} (holds : point.Holds outbox before) (advanced : Advanced before after)
    (fuller : before.keylogIdx ≠ 0 → after.keylogIdx ≠ 0)
    (cleared : outbox.Cleared → filled.Cleared) : point.Holds filled after := by
  cases point with
  | outside => trivial
  | checkKeylog now => trivial
  | readKeylog now next => exact AfterExport.Holds.advance holds advanced
  | lockKeylog now next => exact ⟨fuller holds.1, holds.2.advance advanced⟩
  | flushPackets now next => exact ⟨cleared holds.1, holds.2.advance advanced⟩

namespace ThreadsHold

variable {outbox : Outbox Bytes Packet} {threads : Threads} (appname : Int → Bytes)

section

variable (carries : Carries outbox threads.calls threads.dumper)
include carries

variable (receiver : threads.receiver.Holds threads.dumper)
include receiver

theorem enterCheckExport (now : UInt64) : ThreadsHold outbox (threads.enterCheckExport now) := by
  refine ⟨carries, ?_, receiver⟩
  unfold Threads.enterCheckExport
  split
  · trivial
  · trivial

theorem storeRecord (now : UInt64) {call : PacketCall} {totRecSize : Nat}
    (next : (AfterExport.storeRecord call totRecSize).Holds threads.dumper) :
    ∃ after filled, threads.storeRecord appname now call totRecSize = some after ∧
      ThreadsHold filled after := by
  obtain ⟨due, rfl⟩ := next
  unfold Threads.storeRecord
  rcases Dumper.storeRecord_stored appname carries.accounted call.item with
    refused | ⟨dumper, accepted, stored⟩
  · simp only [refused, Option.bind_eq_bind, Option.bind_some, Bool.false_eq_true, if_false]
    exact ⟨_, outbox, rfl, carries, trivial, receiver⟩
  · obtain ⟨kept, eased, _⟩ := carries.stored due stored
    have entered := @enterCheckExport (outbox.buffer call)
      ⟨dumper, threads.capture, threads.receiver, threads.calls ++ [call]⟩ kept
      (receiver.ease eased) now
    grind

end

variable (holds : ThreadsHold outbox threads)
include holds

theorem enterDumpPacket (now : UInt64) (packet : Packet) :
    ∃ after filled, threads.enterDumpPacket appname now packet = some after ∧
      ThreadsHold filled after := by
  have next : (AfterExport.storeRecord ⟨packet, acceptedSecrets threads.dumper.events⟩
      (threads.dumper.pcapRecSize packet.data.length)).Holds threads.dumper :=
    ⟨List.prefix_rfl, rfl⟩
  simp only [Threads.enterDumpPacket]
  split
  · exact ⟨_, outbox, rfl, holds.carries, next, holds.receiver⟩
  · exact storeRecord appname holds.carries holds.receiver now next

theorem captureStep :
    ∃ after filled, threads.captureStep appname = some after ∧ ThreadsHold filled after := by
  obtain ⟨carries, capture, receiver⟩ := holds
  unfold Threads.captureStep
  cases point : threads.capture with
  | outside => exact ⟨threads, outbox, rfl, carries, by rw [point]; trivial, receiver⟩
  | checkKeylog now =>
    refine ⟨_, outbox, rfl, carries, ?_, receiver⟩
    split
    · trivial
    · trivial
  | readKeylog now next =>
    rw [point] at capture
    refine ⟨_, outbox, rfl, carries, ?_, receiver⟩
    split
    next empty => exact ⟨carries.sound.cleared (carries.pending_nil empty), capture⟩
    next pending => exact ⟨pending, capture⟩
  | lockKeylog now next =>
    rw [point] at capture
    obtain ⟨pending, following⟩ := capture
    obtain ⟨dumper, kept, exported, written, eased, advanced⟩ :=
      carries.exportKeylogSection pending
    simp only [exported, Option.map_some]
    refine ⟨_, outbox.writeMarks kept, rfl, written, ⟨?_, following.advance advanced⟩,
      receiver.ease eased⟩
    exact written.sound.cleared rfl
  | flushPackets now next =>
    rw [point] at capture
    obtain ⟨cleared, following⟩ := capture
    obtain ⟨flushed, written, _, _, eased, advanced⟩ := carries.exportPackets cleared now
    have kept := receiver.ease eased
    cases next with
    | done => exact ⟨_, flushed, rfl, written, trivial, kept⟩
    | storeRecord call totRecSize =>
      exact @storeRecord flushed
        ⟨threads.dumper.exportPackets now, threads.capture, threads.receiver, threads.calls⟩
        appname written kept now _ _ (following.advance advanced)

theorem enterDumpSecret (outside : threads.receiver = .outside) (secData : Bytes)
    (malloc : Option (Nat → UInt8)) :
    ThreadsHold outbox (threads.enterDumpSecret secData malloc) := by
  obtain ⟨carries, capture, _⟩ := holds
  have refused (dumper : Dumper) (kept : Carries outbox threads.calls dumper)
      (held : threads.capture.Holds outbox dumper) :
      ThreadsHold outbox { threads with dumper := dumper.emit (.secret secData false) } := by
    have same : Advanced dumper (dumper.emit (.secret secData false)) :=
      .of_same rfl ((acceptedSecrets_append _ _).trans (List.append_nil _))
    refine ⟨kept.refuseSecret secData, held.advance same id id, ?_⟩
    rw [outside]
    trivial
  unfold Threads.enterDumpSecret
  obtain prepared | ⟨memory, room, buffer, prepared, fits⟩ :=
    threads.dumper.prepareSecret_cases secData malloc
  · grind
  · have kept := carries.keylogBuffer buffer
    have held : threads.capture.Holds outbox { threads.dumper with keylogBuf := some memory } :=
      capture.advance (.of_same rfl rfl) id id
    rw [prepared]
    cases room with
    | false => exact refused _ kept held
    | true => exact ⟨kept, held, rfl, fits rfl⟩

theorem receiverStep :
    ∃ after filled, threads.receiverStep = some after ∧ ThreadsHold filled after := by
  obtain ⟨carries, capture, receiver⟩ := holds
  unfold Threads.receiverStep
  cases point : threads.receiver with
  | outside => exact ⟨threads, outbox, rfl, carries, capture, by rw [point]; trivial⟩
  | lockKeylog secData =>
    rw [point] at receiver
    obtain ⟨dumper, stored, kept, pending, advanced⟩ :=
      carries.storeSecret receiver.1 receiver.2
    simp only [stored, Option.map_some]
    exact ⟨_, outbox.accept secData, rfl, kept,
      capture.advance advanced (fun _ => pending) id, trivial⟩

theorem step (move : Move) :
    ∃ after filled, threads.step appname move = some after ∧ ThreadsHold filled after := by
  cases move with
  | dumpPacket now packet =>
    simp only [Threads.step]
    split
    · exact holds.enterDumpPacket appname now packet
    · exact ⟨threads, outbox, rfl, holds⟩
  | checkExport now =>
    simp only [Threads.step]
    split
    · exact ⟨_, outbox, rfl, enterCheckExport holds.carries holds.receiver now⟩
    · exact ⟨threads, outbox, rfl, holds⟩
  | capture => exact holds.captureStep appname
  | dumpSecret secData malloc =>
    simp only [Threads.step]
    split
    next outside => exact ⟨_, outbox, rfl, holds.enterDumpSecret outside secData malloc⟩
    next => grind
  | receiver => exact holds.receiverStep

theorem run (moves : List Move) :
    ∃ after filled, runThreads appname threads moves = some after ∧ ThreadsHold filled after := by
  induction moves generalizing outbox threads with
  | nil => exact ⟨threads, outbox, rfl, holds⟩
  | cons move moves ih =>
    obtain ⟨next, kept, stepped, held⟩ := holds.step appname move
    obtain ⟨after, filled, ran, final⟩ := ih held
    refine ⟨after, filled, ?_, final⟩
    rw [runThreads, List.foldlM_cons, stepped]
    exact ran

end ThreadsHold

/-! ## The last flush -/

/-- Once both buffers are empty, the batches written are all there is. -/
theorem Carries.secretsExported {calls : List PacketCall} {dumper : Dumper}
    (carries : Carries outbox calls dumper) (noSecrets : outbox.pending = [])
    (flushed : dumper.bufferIdx = 0) : SecretsExported calls dumper outbox.written where
  buffers := carries.buffers
  secrets := by
    rw [← carries.sound.marks, noSecrets, List.append_nil]
  packets := by
    rw [← carries.sound.items, carries.buffered_nil flushed, List.append_nil]
  blocks secrets member := secretsBlock_secrets (carries.short secrets member)
  discarded secrets member := by
    have total := carries.accounted.dumpSize
    rw [flushed, Nat.add_zero] at total
    rw [← total]
    exact carries.discarded secrets member
  behind _ _ _ split _ member := carries.sound.ordered.behind split member

/-- `pcap_destroy_dumper` empties both buffers. -/
theorem Carries.pcapDestroyDumper {calls : List PacketCall} {dumper : Dumper}
    (carries : Carries outbox calls dumper) (now : UInt64) :
    ∃ final batches, dumper.pcapDestroyDumper now = some final ∧
      SecretsExported calls final batches := by
  obtain ⟨middle, kept, exported, held, empty⟩ : ∃ middle kept,
      dumper.exportKeylogBuffer = some middle ∧ Carries kept calls middle ∧ kept.pending = [] := by
    rw [Dumper.exportKeylogBuffer]
    split
    next empty => exact ⟨dumper, outbox, rfl, carries, carries.pending_nil empty⟩
    next pending =>
      obtain ⟨middle, kept, exported, held, _⟩ := carries.exportKeylogSection pending
      exact ⟨middle, outbox.writeMarks kept, exported, held, rfl⟩
  obtain ⟨last, written, same, flushed, _⟩ := held.exportPackets (held.sound.cleared empty) now
  refine ⟨middle.exportPackets now, last.written, ?_,
    written.secretsExported (same.trans empty) flushed⟩
  rw [Dumper.pcapDestroyDumper, Dumper.exportBuffer, exported, Option.map_some]

/-- However the two threads interleave, no write leaves the buffers, and after the last flush
every secret for which `pcap_dump_secret` returned true is in one block or one discarded
keylog, before the packets of the calls that started later. -/
theorem secrets_exported_before_packets (appname : Int → Bytes) (snaplen maxDumpSize : Nat)
    (malloc : Nat → UInt8) (moves : List Move) (now : UInt64) :
    ∃ threads final batches, runThreads appname
        (startThreads (pcapNewDumper .pcapngDump snaplen maxDumpSize malloc)) moves =
          some threads ∧
      threads.dumper.pcapDestroyDumper now = some final ∧
      SecretsExported threads.calls final batches := by
  have started : ThreadsHold ⟨[], [], []⟩
      (startThreads (pcapNewDumper .pcapngDump snaplen maxDumpSize malloc)) :=
    ⟨.initial snaplen maxDumpSize malloc, trivial, trivial⟩
  obtain ⟨threads, outbox, ran, holds⟩ := started.run appname moves
  obtain ⟨final, batches, destroyed, exported⟩ := holds.carries.pcapDestroyDumper now
  exact ⟨threads, final, batches, ran, destroyed, exported⟩

end PcapdroidFormal.Dump
