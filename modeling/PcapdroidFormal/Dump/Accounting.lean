import Mathlib.Logic.Relation
import PcapdroidFormal.Dump.Records

/-!
# What the calls do, and the size accounting

Every call on a dumper is a sequence of flushes around at most one store.
These steps are listed once, with their guards, and each call is shown to
return and to be such a sequence.  The bookkeeping of `dump_size`, the two
buffer positions and the size limit is an invariant of the steps.
-/

namespace PcapdroidFormal.Dump

open Foundation

variable {dumper before after : Dumper} {appname : Int → Bytes}

def Event.dumped : Event → Bytes
  | .dumpCb buffer => buffer
  | _ => []

/-- The concatenation of the buffers handed to `dump_cb`. -/
def stream (events : List Event) : Bytes := events.flatMap Event.dumped

@[simp] theorem stream_append (first second : List Event) :
    stream (first ++ second) = stream first ++ stream second := by
  simp [stream]

@[simp] theorem stream_singleton (event : Event) : stream [event] = event.dumped := by
  simp [stream]

namespace Dumper

@[simp] theorem emit_events (dumper : Dumper) (event : Event) :
    (dumper.emit event).events = dumper.events ++ [event] := rfl

/-- The accounting of a live dumper: both positions are inside their buffers,
`dump_size` counts the dumped and the buffered bytes, and it stays below the limit. -/
structure Accounted (dumper : Dumper) : Prop where
  bufferSize : dumper.buffer.size = pcapBufferSize
  bufferIdx : dumper.bufferIdx < pcapBufferSize
  keylogSize : ∀ memory, dumper.keylogBuf = some memory →
    memory.size = keylogBufferHeadroom + pcapBufferSize + keylogBufferTailroom
  keylogAllocated : dumper.keylogBuf = none → dumper.keylogIdx = 0
  keylogIdx : dumper.keylogIdx < pcapBufferSize
  dumpSize : dumper.dumpSize = (stream dumper.events).length + dumper.bufferIdx
  limit : 0 < dumper.maxDumpSize → dumper.dumpSize < dumper.maxDumpSize

/-- One flush: the keylog is exported or given up, or the packet buffer is exported. -/
inductive Flush : Dumper → Dumper → Prop
  | discardKeylog (dumper : Dumper) (pending : dumper.keylogIdx ≠ 0)
      (full : 0 < dumper.maxDumpSize ∧
        dumper.maxDumpSize ≤ dumper.dumpSize + keylogBlockSize dumper.keylogIdx) :
      Flush dumper ({ dumper with keylogIdx := 0 }.emit .keylogDiscarded)
  | exportKeylog (dumper : Dumper) {memory : Memory} (allocated : dumper.keylogBuf = some memory)
      (pending : dumper.keylogIdx ≠ 0)
      (below : ¬ (0 < dumper.maxDumpSize ∧
        dumper.maxDumpSize ≤ dumper.dumpSize + keylogBlockSize dumper.keylogIdx)) :
      Flush dumper ({ dumper with
        keylogBuf := some (memory.store 0 (secretsBlock (dumper.keylog memory)).encode)
        dumpSize := dumper.dumpSize + keylogBlockSize dumper.keylogIdx
        keylogIdx := 0 }.emit (.dumpCb (secretsBlock (dumper.keylog memory)).encode))
  | exportPackets (dumper : Dumper) (now : UInt64) (flushed : dumper.keylogIdx = 0)
      (pending : dumper.bufferIdx ≠ 0) :
      Flush dumper ({ dumper with bufferIdx := 0, lastDumpMs := now }.emit
        (.dumpCb (dumper.buffer.slice 0 dumper.bufferIdx)))

abbrev Flushes : Dumper → Dumper → Prop := Relation.ReflTransGen Flush

/-- A packet is written behind the buffered ones. -/
inductive Stored (appname : Int → Bytes) (packet : Packet) : Dumper → Dumper → Prop
  | mk (dumper : Dumper)
      (room : dumper.pcapRecSize packet.data.length < pcapBufferSize - dumper.bufferIdx)
      (below : ¬ (0 < dumper.maxDumpSize ∧
        dumper.maxDumpSize ≤ dumper.dumpSize + dumper.pcapRecSize packet.data.length)) :
      Stored appname packet dumper { dumper with
        buffer := dumper.buffer.store dumper.bufferIdx
          (packet.recordBytes appname dumper.mode dumper.snaplen)
        bufferIdx := dumper.bufferIdx + dumper.pcapRecSize packet.data.length
        dumpSize := dumper.dumpSize + dumper.pcapRecSize packet.data.length }

/-- `memory` is the keylog buffer, allocated just now if there was none. -/
def KeylogBuffer (dumper : Dumper) (memory : Memory) : Prop :=
  dumper.keylogBuf = some memory ∨
    (dumper.keylogBuf = none ∧ ∃ cells, memory = keylogAllocation cells)

inductive SecretStored (secData : Bytes) : Dumper → Dumper → Bool → Prop
  | stored (dumper : Dumper) {memory : Memory} (buffer : dumper.KeylogBuffer memory)
      (room : dumper.keylogIdx + (secData.length + 1) < pcapBufferSize) :
      SecretStored secData dumper { dumper with
        keylogBuf := some (memory.store (keylogBufferHeadroom + dumper.keylogIdx)
          (secData ++ [0x0A]))
        keylogIdx := dumper.keylogIdx + secData.length + 1 } true
  | full (dumper : Dumper) {memory : Memory} (buffer : dumper.KeylogBuffer memory) :
      SecretStored secData dumper { dumper with keylogBuf := some memory } false
  | failed (dumper : Dumper) : SecretStored secData dumper dumper false

/-! ## The steps keep the accounting -/

theorem Accounted.emit_result (accounted : dumper.Accounted) {event : Event}
    (silent : event.dumped = []) : (dumper.emit event).Accounted where
  bufferSize := accounted.bufferSize
  bufferIdx := accounted.bufferIdx
  keylogSize := accounted.keylogSize
  keylogAllocated := accounted.keylogAllocated
  keylogIdx := accounted.keylogIdx
  dumpSize := by
    rw [emit_events, stream_append, stream_singleton, silent, List.append_nil]
    exact accounted.dumpSize
  limit := accounted.limit

/-- An export moves the buffered bytes to the dumped ones. -/
theorem Accounted.packetsExported (accounted : dumper.Accounted) (now : UInt64) :
    ({ dumper with bufferIdx := 0, lastDumpMs := now }.emit
      (.dumpCb (dumper.buffer.slice 0 dumper.bufferIdx))).Accounted := by
  refine ⟨accounted.bufferSize, Nat.zero_lt_of_lt accounted.bufferIdx, accounted.keylogSize,
    accounted.keylogAllocated, accounted.keylogIdx, ?_, accounted.limit⟩
  simp only [emit, stream_append, stream_singleton, Event.dumped, List.length_append,
    Memory.slice_length]
  exact accounted.dumpSize

theorem Flush.accounted (flush : Flush before after)
    (accounted : before.Accounted) : after.Accounted := by
  have total := accounted.dumpSize
  have limit := accounted.limit
  cases flush with
  | discardKeylog pending full =>
    refine ⟨accounted.bufferSize, accounted.bufferIdx, accounted.keylogSize, fun _ => rfl,
      Nat.zero_lt_of_lt accounted.keylogIdx, ?_, limit⟩
    simpa only [emit, stream_append, stream_singleton, Event.dumped, List.append_nil] using total
  | @exportKeylog memory allocated pending below =>
    refine ⟨accounted.bufferSize, accounted.bufferIdx, ?_, fun _ => rfl,
      Nat.zero_lt_of_lt accounted.keylogIdx, ?_, ?_⟩
    · rintro keylog ⟨⟩
      exact accounted.keylogSize memory allocated
    · simp only [emit, stream_append, stream_singleton, Event.dumped, List.length_append,
        secretsBlock_length, keylog_length]
      omega
    · intro limited
      exact Nat.lt_of_not_le fun reached => below ⟨limited, reached⟩
  | exportPackets now flushed pending => exact accounted.packetsExported now

theorem Flushes.accounted (flushes : Flushes before after)
    (accounted : before.Accounted) : after.Accounted := by
  induction flushes with
  | refl => exact accounted
  | tail _ flush ih => exact flush.accounted ih

def config (dumper : Dumper) : PcapDumpMode × Nat × Nat :=
  (dumper.mode, dumper.snaplen, dumper.maxDumpSize)

theorem Flush.config_eq (flush : Flush before after) :
    after.config = before.config := by
  cases flush <;> rfl

theorem Flushes.config_eq (flushes : Flushes before after) :
    after.config = before.config := by
  induction flushes with
  | refl => rfl
  | tail _ flush ih => exact flush.config_eq.trans ih

theorem Stored.accounted {packet : Packet}
    (stored : Stored appname packet before after) (accounted : before.Accounted) :
    after.Accounted := by
  obtain ⟨room, below⟩ := stored
  have total := accounted.dumpSize
  refine ⟨accounted.bufferSize, ?_, accounted.keylogSize, accounted.keylogAllocated,
    accounted.keylogIdx, ?_, ?_⟩
  · grind
  · grind
  · grind

theorem KeylogBuffer.size_eq {memory : Memory}
    (buffer : dumper.KeylogBuffer memory) (accounted : dumper.Accounted) :
    memory.size = keylogBufferHeadroom + pcapBufferSize + keylogBufferTailroom := by
  rcases buffer with allocated | ⟨_, cells, rfl⟩
  · exact accounted.keylogSize memory allocated
  · rfl

theorem SecretStored.accounted {secData : Bytes} {returned : Bool}
    (step : SecretStored secData before after returned) (accounted : before.Accounted) :
    after.Accounted := by
  cases step with
  | stored buffer room =>
    refine ⟨accounted.bufferSize, accounted.bufferIdx, ?_, nofun, ?_, accounted.dumpSize,
      accounted.limit⟩
    · rintro keylog ⟨⟩
      exact buffer.size_eq accounted
    · grind
  | full buffer =>
    refine ⟨accounted.bufferSize, accounted.bufferIdx, ?_, nofun, accounted.keylogIdx,
      accounted.dumpSize, accounted.limit⟩
    rintro keylog ⟨⟩
    exact buffer.size_eq accounted
  | failed => exact accounted

/-! ## Every function is a sequence of steps -/

/-- The locked section of `export_keylog_buffer` exports the keylog or gives it up. -/
theorem exportKeylogSection_flush (accounted : dumper.Accounted) (pending : dumper.keylogIdx ≠ 0) :
    ∃ after, dumper.exportKeylogSection = some after ∧ Flush dumper after ∧
      after.keylogIdx = 0 ∧ after.bufferIdx = dumper.bufferIdx := by
  by_cases full : 0 < dumper.maxDumpSize ∧
      dumper.maxDumpSize ≤ dumper.dumpSize + keylogBlockSize dumper.keylogIdx
  · exact ⟨_, if_pos full, .discardKeylog dumper pending full, rfl, rfl⟩
  cases allocated : dumper.keylogBuf with
  | none => exact absurd (accounted.keylogAllocated allocated) pending
  | some memory =>
    have size := accounted.keylogSize memory allocated
    have inside := accounted.keylogIdx
    exact ⟨_, dumper.exportKeylogSection_eq allocated full (by omega),
      .exportKeylog dumper allocated pending full, rfl, rfl⟩

theorem exportKeylogBuffer_flushes (accounted : dumper.Accounted) :
    ∃ after, dumper.exportKeylogBuffer = some after ∧ Flushes dumper after ∧
      after.keylogIdx = 0 ∧ after.bufferIdx = dumper.bufferIdx := by
  rw [exportKeylogBuffer]
  split
  next empty => exact ⟨dumper, rfl, .refl, empty, rfl⟩
  next pending =>
    obtain ⟨after, exported, flush, rest⟩ := exportKeylogSection_flush accounted pending
    exact ⟨after, exported, .single flush, rest⟩

variable (appname : Int → Bytes) (now : UInt64)

section

variable (accounted : dumper.Accounted)
include accounted

theorem exportBuffer_flushes :
    ∃ after, dumper.exportBuffer now = some after ∧ Flushes dumper after ∧
      after.keylogIdx = 0 ∧ after.bufferIdx = 0 := by
  obtain ⟨middle, exported, flushes, flushed, _⟩ := exportKeylogBuffer_flushes accounted
  simp only [exportBuffer, exported, Option.map_some, exportPackets]
  by_cases empty : middle.bufferIdx = 0
  · exact ⟨middle, by rw [if_pos empty], flushes, flushed, empty⟩
  · exact ⟨_, by rw [if_neg empty], flushes.tail (.exportPackets middle now flushed empty),
      flushed, rfl⟩

theorem pcapCheckExport_flushes :
    ∃ after exported, dumper.pcapCheckExport now = some (after, exported) ∧
      Flushes dumper after := by
  obtain ⟨after, exported, flushes, _⟩ := exportBuffer_flushes now accounted
  unfold pcapCheckExport
  split
  · exact ⟨after, true, by grind, flushes⟩
  · exact ⟨dumper, false, rfl, .refl⟩

/-- Make room for a record of the given size. -/
theorem makeRoom_flushes (size : Nat) :
    ∃ after, (if pcapBufferSize - dumper.bufferIdx ≤ size then dumper.exportBuffer now
      else some dumper) = some after ∧ Flushes dumper after := by
  split
  · obtain ⟨after, exported, flushes, _⟩ := exportBuffer_flushes now accounted
    exact ⟨after, exported, flushes⟩
  · exact ⟨dumper, rfl, .refl⟩

/-- A record of the size of the packet is stored, or the packet is refused. -/
theorem storeRecord_stored (packet : Packet) :
    dumper.storeRecord appname packet (dumper.pcapRecSize packet.data.length) =
        some (dumper, false) ∨
      ∃ after, dumper.storeRecord appname packet (dumper.pcapRecSize packet.data.length) =
          some (after, true) ∧ Stored appname packet dumper after := by
  unfold storeRecord
  by_cases tooLong : pcapBufferSize - dumper.bufferIdx ≤ dumper.pcapRecSize packet.data.length
  · exact .inl (if_pos tooLong)
  by_cases full : 0 < dumper.maxDumpSize ∧
      dumper.maxDumpSize ≤ dumper.dumpSize + dumper.pcapRecSize packet.data.length
  · exact .inl (by grind)
  have room := dumper.dumpPacket_eq appname packet (by rw [accounted.bufferSize]; omega)
  refine .inr ⟨_, ?_, .mk dumper (Nat.lt_of_not_le tooLong) full⟩
  grind

end

/-- The size of a record depends on the configuration only. -/
theorem pcapRecSize_of_config {first second : Dumper} (same : first.config = second.config)
    (pktLen : Nat) : first.pcapRecSize pktLen = second.pcapRecSize pktLen := by
  simp only [config, Prod.mk.injEq] at same
  simp only [pcapRecSize, same]

theorem storePacket_flushes (accounted : dumper.Accounted) (packet : Packet) :
    ∃ middle, Flushes dumper middle ∧
      (storePacket appname now dumper packet = some (middle, false) ∨
        ∃ after, storePacket appname now dumper packet = some (after, true) ∧
          Stored appname packet middle after) := by
  obtain ⟨middle, exported, flushes⟩ :=
    makeRoom_flushes now accounted (dumper.pcapRecSize packet.data.length)
  refine ⟨middle, flushes, ?_⟩
  rw [storePacket, exported, Option.bind_some,
    ← pcapRecSize_of_config flushes.config_eq packet.data.length]
  exact storeRecord_stored appname (flushes.accounted accounted) packet

/-- `pcap_dump_packet` either stores the packet between flushes, or it flushes and refuses. -/
theorem pcapDumpPacket_flushes (accounted : dumper.Accounted) (packet : Packet) :
    ∃ first, Flushes dumper first ∧
      (pcapDumpPacket appname now dumper packet = some (first, false) ∨
        ∃ second after, pcapDumpPacket appname now dumper packet = some (after, true) ∧
          Stored appname packet first second ∧ Flushes second after) := by
  obtain ⟨first, flushes, refused | ⟨second, accepted, stored⟩⟩ :=
    storePacket_flushes appname now accounted packet
  · refine ⟨first, flushes, .inl ?_⟩
    simp only [pcapDumpPacket, refused, Option.bind_eq_bind, Option.bind_some,
      Bool.false_eq_true, if_false]
  · obtain ⟨after, exported, checked, last⟩ :=
      pcapCheckExport_flushes now (stored.accounted (flushes.accounted accounted))
    refine ⟨first, flushes, .inr ⟨second, after, ?_, stored, last⟩⟩
    simp only [pcapDumpPacket, accepted, checked, Option.bind_eq_bind, Option.bind_some, if_true]

/-- Before its lock `pcap_dump_secret` allocates the keylog buffer and tests for room. -/
theorem prepareSecret_cases (dumper : Dumper) (secData : Bytes) (malloc : Option (Nat → UInt8)) :
    dumper.prepareSecret secData malloc = (dumper, false) ∨
      ∃ memory room, dumper.KeylogBuffer memory ∧
        dumper.prepareSecret secData malloc =
          ({ dumper with keylogBuf := some memory }, room) ∧
        (room = true → dumper.keylogIdx + (secData.length + 1) < pcapBufferSize) := by
  unfold prepareSecret
  cases buffer : dumper.keylogBuf.orElse fun _ => malloc.map keylogAllocation with
  | none => exact .inl rfl
  | some memory =>
    refine .inr ⟨memory, _, ?_, rfl, ?_⟩
    · cases allocated : dumper.keylogBuf with
      | some keylog =>
        rw [allocated] at buffer
        exact .inl (allocated.trans buffer)
      | none =>
        rw [allocated] at buffer
        obtain ⟨cells, _, fresh⟩ := Option.map_eq_some_iff.mp buffer
        exact .inr ⟨allocated, cells, fresh.symm⟩
    · grind

/-- Under its lock `pcap_dump_secret` appends the secret and a newline. -/
theorem storeSecret_eq {memory : Memory} {secData : Bytes}
    (allocated : dumper.keylogBuf = some memory)
    (size : memory.size = keylogBufferHeadroom + pcapBufferSize + keylogBufferTailroom)
    (room : dumper.keylogIdx + (secData.length + 1) < pcapBufferSize) :
    dumper.storeSecret secData = some { dumper with
      keylogBuf := some (memory.store (keylogBufferHeadroom + dumper.keylogIdx) (secData ++ [0x0A]))
      keylogIdx := dumper.keylogIdx + secData.length + 1 } := by
  simp only [storeSecret, allocated, Option.bind_eq_bind, Option.bind_some]
  rw [Memory.write?_eq_some (by omega), Option.bind_some,
    Memory.write?_extend _ (by omega) (by grind),
    Option.bind_some]

theorem pcapDumpSecret_stored (accounted : dumper.Accounted) (secData : Bytes)
    (malloc : Option (Nat → UInt8)) :
    ∃ after returned, dumper.pcapDumpSecret secData malloc = some (after, returned) ∧
      SecretStored secData dumper after returned := by
  rw [pcapDumpSecret]
  obtain prepared | ⟨memory, room, buffer, prepared, fits⟩ :=
    dumper.prepareSecret_cases secData malloc
  · rw [prepared]
    exact ⟨dumper, false, rfl, .failed dumper⟩
  · rw [prepared]
    cases room with
    | false => exact ⟨_, false, rfl, .full dumper buffer⟩
    | true =>
      refine ⟨_, true, ?_, .stored dumper buffer (fits rfl)⟩
      have stored := @storeSecret_eq { dumper with keylogBuf := some memory } memory secData rfl
        (buffer.size_eq accounted) (fits rfl)
      grind

end Dumper

/-! ## Runs -/

/-- What a call does, as a sequence of steps. -/
inductive Call.Effect (appname : Int → Bytes) : Call → Dumper → Dumper → Prop
  | packetStored {before first second after : Dumper} (now : UInt64) (packet : Packet)
      (room : Dumper.Flushes before first) (stored : Dumper.Stored appname packet first second)
      (flushes : Dumper.Flushes second after) :
      Effect appname (.dumpPacket now packet) before (after.emit (.packet packet true))
  | packetRefused {before after : Dumper} (now : UInt64) (packet : Packet)
      (flushes : Dumper.Flushes before after) :
      Effect appname (.dumpPacket now packet) before (after.emit (.packet packet false))
  | exported {before after : Dumper} (now : UInt64) (flushes : Dumper.Flushes before after) :
      Effect appname (.checkExport now) before after
  | secret {before after : Dumper} (secData : Bytes) (malloc : Option (Nat → UInt8))
      {returned : Bool} (stored : Dumper.SecretStored secData before after returned) :
      Effect appname (.dumpSecret secData malloc) before (after.emit (.secret secData returned))

/-- No call leaves its buffers, and this is all it does. -/
theorem Call.perform_effect (appname : Int → Bytes) (accounted : dumper.Accounted) (call : Call) :
    ∃ after, call.perform appname dumper = some after ∧ call.Effect appname dumper after := by
  cases call with
  | dumpPacket now packet =>
    obtain ⟨first, room, refused | ⟨second, after, accepted, stored, flushes⟩⟩ :=
      Dumper.pcapDumpPacket_flushes appname now accounted packet
    · refine ⟨_, ?_, .packetRefused now packet room⟩
      simp only [perform, refused, Option.bind_eq_bind, Option.bind_some]
    · refine ⟨_, ?_, .packetStored now packet room stored flushes⟩
      simp only [perform, accepted, Option.bind_eq_bind, Option.bind_some]
  | checkExport now =>
    obtain ⟨after, exported, checked, flushes⟩ := Dumper.pcapCheckExport_flushes now accounted
    exact ⟨after, by rw [perform, checked, Option.map_some], .exported now flushes⟩
  | dumpSecret secData malloc =>
    obtain ⟨after, returned, performed, stored⟩ :=
      Dumper.pcapDumpSecret_stored accounted secData malloc
    refine ⟨_, ?_, .secret secData malloc stored⟩
    simp only [perform, performed, Option.bind_eq_bind, Option.bind_some]

theorem Call.Effect.accounted {call : Call}
    (effect : call.Effect appname before after) (accounted : before.Accounted) :
    after.Accounted := by
  cases effect with
  | packetStored now packet room stored flushes =>
    exact (flushes.accounted (stored.accounted (room.accounted accounted))).emit_result rfl
  | packetRefused now packet flushes => exact (flushes.accounted accounted).emit_result rfl
  | exported now flushes => exact flushes.accounted accounted
  | secret secData malloc stored => exact (stored.accounted accounted).emit_result rfl

theorem Call.Effect.config_eq {call : Call}
    (effect : call.Effect appname before after) : after.config = before.config := by
  cases effect with
  | packetStored now packet room stored flushes =>
    cases stored
    exact flushes.config_eq.trans room.config_eq
  | packetRefused now packet flushes => exact flushes.config_eq
  | exported now flushes => exact flushes.config_eq
  | secret secData malloc stored => cases stored <;> rfl

/-- The invariant rule: a run returns, and what the calls preserve holds at its end. -/
theorem performAll_invariant (appname : Int → Bytes) (Valid : Call → Prop)
    (Invariant : Dumper → Prop)
    (step : ∀ {call before after}, Valid call → before.Accounted → Invariant before →
      call.Effect appname before after → Invariant after)
    (calls : List Call) (valid : ∀ call ∈ calls, Valid call)
    (accounted : dumper.Accounted) (initial : Invariant dumper) :
    ∃ after, performAll appname dumper calls = some after ∧ after.Accounted ∧
      Invariant after := by
  induction calls generalizing dumper with
  | nil => exact ⟨dumper, rfl, accounted, initial⟩
  | cons call calls ih =>
    obtain ⟨middle, performed, effect⟩ := call.perform_effect appname accounted
    obtain ⟨after, rest, result⟩ := ih
      (fun other member => valid other (List.mem_cons_of_mem _ member))
      (effect.accounted accounted) (step (valid call List.mem_cons_self) accounted initial effect)
    refine ⟨after, ?_, result⟩
    rw [← rest]
    simp only [performAll, List.foldlM_cons, performed, Option.bind_eq_bind, Option.bind_some]

theorem pcapNewDumper_accounted (mode : PcapDumpMode) (snaplen maxDumpSize : Nat)
    (malloc : Nat → UInt8) : (pcapNewDumper mode snaplen maxDumpSize malloc).Accounted where
  bufferSize := rfl
  bufferIdx := (by decide : 0 < pcapBufferSize)
  keylogSize := nofun
  keylogAllocated _ := rfl
  keylogIdx := (by decide : 0 < pcapBufferSize)
  dumpSize := rfl
  limit := id

/-- Whatever is called on a dumper, no write leaves the buffers, `dump_size` is
the number of dumped and buffered bytes, and neither the running total nor the
final flush of `pcap_destroy_dumper` reaches the limit. -/
theorem dumper_accounted (appname : Int → Bytes) (mode : PcapDumpMode) (snaplen maxDumpSize : Nat)
    (malloc : Nat → UInt8) (calls : List Call) (now : UInt64) :
    ∃ dumper final,
      performAll appname (pcapNewDumper mode snaplen maxDumpSize malloc) calls = some dumper ∧
      dumper.Accounted ∧
      dumper.pcapDestroyDumper now = some final ∧
      final.Accounted ∧
      final.bufferIdx = 0 ∧
      (0 < maxDumpSize → (stream final.events).length < maxDumpSize) := by
  obtain ⟨dumper, performed, accounted, config⟩ := performAll_invariant appname
    (fun _ => True) (fun dumper => dumper.config = (mode, snaplen, maxDumpSize))
    (fun _ _ config effect => effect.config_eq.trans config) calls (fun _ _ => trivial)
    (pcapNewDumper_accounted mode snaplen maxDumpSize malloc) rfl
  obtain ⟨final, destroyed, flushes, _, empty⟩ := Dumper.exportBuffer_flushes now accounted
  have finalAccounted := flushes.accounted accounted
  refine ⟨dumper, final, performed, accounted, destroyed, finalAccounted, empty, ?_⟩
  intro limited
  have limit : final.maxDumpSize = maxDumpSize :=
    congrArg (·.2.2) (flushes.config_eq.trans config)
  have below := finalAccounted.limit (limit ▸ limited)
  rw [finalAccounted.dumpSize, empty, limit] at below
  exact below

end PcapdroidFormal.Dump
