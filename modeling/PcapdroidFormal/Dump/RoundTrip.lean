import PcapdroidFormal.Dump.Accounting

/-!
# Reading a dump back

The abstract dumper is a journal: the items handed out so far and the packets
still buffered.  The model refines it, since its buffers hold the encodings of
exactly these items, and every item decodes to the packet or the secrets it was
made from.
-/

namespace PcapdroidFormal.Dump

open Foundation

variable {before after : Dumper} {snaplen : Nat} {items : List Item} {appname : Int → Bytes}
  {journal : Journal} {dumper : Dumper}

/-! ## What the calls reported -/

/-- The packets for which `pcap_dump_packet` returned true, in call order. -/
def acceptedPackets (events : List Event) : List Packet :=
  events.filterMap fun
    | .packet packet true => some packet
    | _ => none

/-- The secrets for which `pcap_dump_secret` returned true, in call order. -/
def acceptedSecrets (events : List Event) : List Bytes :=
  events.filterMap fun
    | .secret secData true => some secData
    | _ => none

/-- The accepted secrets that were exported, and those still in the keylog buffer. -/
structure Keylog where
  kept : List Bytes
  pending : List Bytes

/-- A discarded keylog loses the pending secrets; an export keeps them. -/
def Keylog.record (keylog : Keylog) : Event → Keylog
  | .secret secData true => { keylog with pending := keylog.pending ++ [secData] }
  | .keylogDiscarded => { keylog with pending := [] }
  | .dumpCb _ => ⟨keylog.kept ++ keylog.pending, []⟩
  | _ => keylog

def keylogOf (events : List Event) : Keylog := events.foldl Keylog.record ⟨[], []⟩

/-- The text of a keylog: every secret is followed by a newline. -/
def keylogLines (secrets : List Bytes) : Bytes := secrets.flatMap (· ++ [0x0A])

@[simp] theorem acceptedPackets_append (first second : List Event) :
    acceptedPackets (first ++ second) = acceptedPackets first ++ acceptedPackets second := by
  simp [acceptedPackets]

@[simp] theorem acceptedSecrets_append (first second : List Event) :
    acceptedSecrets (first ++ second) = acceptedSecrets first ++ acceptedSecrets second := by
  simp [acceptedSecrets]

@[simp] theorem keylogOf_snoc (events : List Event) (event : Event) :
    keylogOf (events ++ [event]) = (keylogOf events).record event := by
  simp [keylogOf]

@[simp] theorem keylogLines_append (first second : List Bytes) :
    keylogLines (first ++ second) = keylogLines first ++ keylogLines second := by
  simp [keylogLines]

@[simp] theorem keylogLines_singleton (secData : Bytes) :
    keylogLines [secData] = secData ++ [0x0A] := by
  simp [keylogLines]

theorem keylogLines_eq_nil {secrets : List Bytes} (empty : (keylogLines secrets).length = 0) :
    secrets = [] := by
  cases secrets with
  | nil => rfl
  | cons secData secrets => simp [keylogLines] at empty

/-! ## Reading one item back -/

/-- The packets whose fields fit the format of the mode. -/
structure Packet.Dumpable (packet : Packet) (mode : PcapDumpMode) : Prop where
  length : packet.data.length < 2 ^ 31
  usec : packet.tv.usec < 1000000
  sec : match mode with
    | .pcapngDump => packet.tv.sec * 1000000 + packet.tv.usec < 2 ^ 64
    | _ => packet.tv.sec < 2 ^ 32

/-- What a reader should learn about a dumped packet. -/
def Packet.decoded (packet : Packet) (snaplen : Nat) : DecodedPacket :=
  ⟨packet.tv, packet.data.length, packet.data.take (min packet.data.length snaplen)⟩

section

variable (packet : Packet) (snaplen : Nat)

theorem Packet.pcapRecord_fits
    (dumpable : packet.Dumpable .pcapDump) : (packet.pcapRecord snaplen).Fits := by
  obtain ⟨length, usec, sec⟩ := dumpable
  refine ⟨sec, ?_, ?_, ?_⟩
  · exact Nat.lt_trans usec (by decide)
  · simp only [Packet.pcapRecord, Packet.captured_length]
    omega
  · exact Nat.lt_trans length (by decide)

theorem Packet.enhPacketBlock_fits_of_size
    (total : (packet.enhPacketBlock snaplen).totalLength < 2 ^ 32) :
    (packet.enhPacketBlock snaplen).Fits := by
  refine ⟨(by decide : 6 < 2 ^ 32), total, ?_, total⟩
  simp only [Packet.enhPacketBlock, List.length_append, Bytes.littleEndian_length,
    Packet.captured_length, List.length_replicate, sizeofEnhPacketBlock]
  omega

theorem Packet.enhPacketBlock_fits
    (dumpable : packet.Dumpable .pcapngDump) : (packet.enhPacketBlock snaplen).Fits := by
  have length := dumpable.length
  have pad := padding_lt (min packet.data.length snaplen)
  apply packet.enhPacketBlock_fits_of_size snaplen
  simp only [Packet.enhPacketBlock, sizeofEnhPacketBlock]
  omega

theorem Packet.enhPacketBlock_wellFormed :
    (packet.enhPacketBlock snaplen).WellFormed := by
  refine ⟨rfl, ?_⟩
  have aligned := four_dvd_add_padding (min packet.data.length snaplen)
  simp only [Packet.enhPacketBlock, sizeofEnhPacketBlock]
  omega

/-- The two halves of the timestamp give back the seconds and the microseconds. -/
theorem Packet.timestamp_eq (dumpable : packet.Dumpable .pcapngDump) :
    (packet.nowUsec / 2 ^ 32 * 2 ^ 32 + packet.nowUsec % 2 ^ 32) / 1000000 = packet.tv.sec ∧
      (packet.nowUsec / 2 ^ 32 * 2 ^ 32 + packet.nowUsec % 2 ^ 32) % 1000000 =
        packet.tv.usec := by
  obtain ⟨_, usec, sec⟩ := dumpable
  rw [Nat.mul_comm, Nat.div_add_mod, Packet.nowUsec, Nat.mod_eq_of_lt sec]
  constructor <;> omega

theorem Packet.enhPacketBlock_packet (dumpable : packet.Dumpable .pcapngDump) :
    (packet.enhPacketBlock snaplen).packet? = some (packet.decoded snaplen) := by
  have length := dumpable.length
  have bound : packet.nowUsec / 2 ^ 32 < 2 ^ 32 := by
    have modulus : packet.nowUsec < 2 ^ 64 := Nat.mod_lt _ (by decide)
    omega
  obtain ⟨sec, usec⟩ := packet.timestamp_eq dumpable
  simp only [PcapngBlock.packet?, Packet.enhPacketBlock, if_true, Option.bind_eq_bind]
  rw [Decoder.word_append _ (by decide), Option.bind_some,
    Decoder.word_append _ bound, Option.bind_some,
    Decoder.word_append_mod, Option.bind_some,
    Decoder.word_append _ (by omega), Option.bind_some,
    Decoder.word_append _ (by omega), Option.bind_some,
    Decoder.takeBytes_append _ (packet.captured_length snaplen), Option.bind_some]
  simp only [sec, usec, Packet.decoded, Packet.captured]

end

theorem secretsBlock_fits {payload : Bytes} (short : payload.length < pcapBufferSize) :
    (secretsBlock payload).Fits := by
  have pad := padding_lt payload.length
  simp only [pcapBufferSize] at short
  have total : Dumper.keylogBlockSize payload.length < 2 ^ 32 := by
    simp only [Dumper.keylogBlockSize, sizeofDecrSecretsBlock]
    omega
  refine ⟨(by decide : 10 < 2 ^ 32), total, ?_, total⟩
  simp only [secretsBlock, List.length_append, Bytes.littleEndian_length, List.length_replicate,
    Dumper.keylogBlockSize, sizeofDecrSecretsBlock]
  omega

theorem secretsBlock_wellFormed (payload : Bytes) : (secretsBlock payload).WellFormed := by
  refine ⟨rfl, ?_⟩
  have aligned := four_dvd_add_padding payload.length
  simp only [secretsBlock, Dumper.keylogBlockSize, sizeofDecrSecretsBlock]
  omega

theorem secretsBlock_secrets {payload : Bytes} (short : payload.length < pcapBufferSize) :
    (secretsBlock payload).secrets? = some payload := by
  simp only [pcapBufferSize] at short
  simp only [PcapngBlock.secrets?, secretsBlock, if_true, Option.bind_eq_bind]
  rw [Decoder.word_append _ (by decide), Option.bind_some,
    Decoder.word_append _ (by omega), Option.bind_some,
    Decoder.takeBytes_append _ rfl, Option.bind_some]

/-! ## What the stores append -/

/-- Without the trailer a stored packet extends the buffered bytes by its record. -/
theorem Dumper.Stored.slice_eq {packet : Packet}
    (stored : Dumper.Stored appname packet before after)
    (plain : before.mode ≠ .pcapDumpWithTrailer) :
    after.buffer.slice 0 after.bufferIdx = before.buffer.slice 0 before.bufferIdx ++
      packet.recordBytes appname before.mode before.snaplen := by
  obtain ⟨room, below⟩ := stored
  rw [Memory.slice_add, Memory.slice_store_of_disjoint _ (.inl (by omega)),
    ← packet.recordBytes_length appname before plain, Nat.zero_add, Memory.slice_store_self]

/-- A secret and its newline extend the keylog. -/
theorem keylog_extended (memory : Memory) (keylogIdx : Nat) (secData : Bytes) :
    (memory.store (keylogBufferHeadroom + keylogIdx) (secData ++ [0x0A])).slice
        keylogBufferHeadroom (keylogIdx + (secData.length + 1)) =
      memory.slice keylogBufferHeadroom keylogIdx ++ (secData ++ [0x0A]) := by
  have width : secData.length + 1 = (secData ++ [0x0A]).length := by simp
  rw [Memory.slice_add, Memory.slice_store_of_disjoint _ (.inl (Nat.le_refl _)), width,
    Memory.slice_store_self]

/-! ## The journal -/

/-- One item of a dump: a packet, or the secrets of one keylog export. -/
inductive Item where
  | packet (packet : Packet)
  | secrets (lines : List Bytes)

namespace Item

def bytes (appname : Int → Bytes) (mode : PcapDumpMode) (snaplen : Nat) : Item → Bytes
  | .packet stored => stored.recordBytes appname mode snaplen
  | .secrets lines => (secretsBlock (keylogLines lines)).encode

def packet? : Item → Option Packet
  | .packet stored => some stored
  | .secrets _ => none

def secretList : Item → List Bytes
  | .packet _ => []
  | .secrets lines => lines

/-- The items the format of the mode has room for. -/
def Fits (mode : PcapDumpMode) : Item → Prop
  | .packet stored => stored.Dumpable mode
  | .secrets lines => mode = .pcapngDump ∧ (keylogLines lines).length < pcapBufferSize

def block (snaplen : Nat) : Item → PcapngBlock
  | .packet stored => stored.enhPacketBlock snaplen
  | .secrets lines => secretsBlock (keylogLines lines)

end Item

/-- The abstract dumper: the items handed out and the packets still buffered. -/
structure Journal where
  written : List Item
  buffered : List Packet

namespace Journal

def packets (journal : Journal) : List Packet :=
  journal.written.filterMap Item.packet? ++ journal.buffered

def secrets (journal : Journal) : List Bytes := journal.written.flatMap Item.secretList

/-- The keylog goes out. -/
def exportKeylog (journal : Journal) (secrets : List Bytes) : Journal :=
  { journal with written := journal.written ++ [.secrets secrets] }

/-- The buffered packets go out. -/
def exportPackets (journal : Journal) : Journal :=
  ⟨journal.written ++ journal.buffered.map Item.packet, []⟩

def store (journal : Journal) (packet : Packet) : Journal :=
  { journal with buffered := journal.buffered ++ [packet] }

variable (journal : Journal)

@[simp] theorem exportKeylog_packets (secrets : List Bytes) :
    (journal.exportKeylog secrets).packets = journal.packets := by
  simp [packets, exportKeylog, Item.packet?]

@[simp] theorem exportPackets_packets : journal.exportPackets.packets = journal.packets := by
  simp [packets, exportPackets, List.filterMap_map, Function.comp_def, Item.packet?]

@[simp] theorem store_packets (packet : Packet) :
    (journal.store packet).packets = journal.packets ++ [packet] := by
  simp [packets, store]

@[simp] theorem exportKeylog_secrets (secrets : List Bytes) :
    (journal.exportKeylog secrets).secrets = journal.secrets ++ secrets := by
  simp [Journal.secrets, exportKeylog, Item.secretList]

@[simp] theorem exportPackets_secrets : journal.exportPackets.secrets = journal.secrets := by
  simp [Journal.secrets, exportPackets, List.flatMap_map, Item.secretList]

end Journal

/-- The dumper holds the encodings of the journal's items; `accepted` are the
packets stored so far. -/
structure Tracks (appname : Int → Bytes) (accepted : List Packet) (journal : Journal)
    (dumper : Dumper) : Prop where
  written : stream dumper.events =
    journal.written.flatMap (Item.bytes appname dumper.mode dumper.snaplen)
  buffered : dumper.buffer.slice 0 dumper.bufferIdx =
    journal.buffered.flatMap fun packet => packet.recordBytes appname dumper.mode dumper.snaplen
  packets : journal.packets = accepted
  keylogIdx : dumper.keylogIdx = (keylogLines (keylogOf dumper.events).pending).length
  keylog : ∀ memory, dumper.keylogBuf = some memory →
    dumper.keylog memory = keylogLines (keylogOf dumper.events).pending
  secrets : journal.secrets = (keylogOf dumper.events).kept
  fits : ∀ item ∈ journal.written, item.Fits dumper.mode
  bufferedFits : ∀ packet ∈ journal.buffered, packet.Dumpable dumper.mode
  pendingFits : dumper.keylogIdx ≠ 0 → dumper.mode = .pcapngDump
  complete : dumper.maxDumpSize = 0 →
    (keylogOf dumper.events).kept ++ (keylogOf dumper.events).pending =
      acceptedSecrets dumper.events

namespace Tracks

variable {appname : Int → Bytes} {accepted : List Packet} {journal : Journal} {dumper : Dumper}

/-- The journal of a fresh dumper is empty. -/
theorem initial (appname : Int → Bytes) (mode : PcapDumpMode) (snaplen maxDumpSize : Nat)
    (malloc : Nat → UInt8) :
    Tracks appname [] ⟨[], []⟩ (pcapNewDumper mode snaplen maxDumpSize malloc) where
  written := rfl
  buffered := rfl
  packets := rfl
  keylogIdx := rfl
  keylog := nofun
  secrets := rfl
  fits := nofun
  bufferedFits := nofun
  pendingFits nonzero := absurd rfl nonzero
  complete _ := rfl

variable (tracks : Tracks appname accepted journal dumper)
include tracks

/-- Reports other than an accepted secret do not concern the journal. -/
theorem emit_report {event : Event} (silent : event.dumped = [])
    (report : ∀ keylog : Keylog, keylog.record event = keylog)
    (refused : acceptedSecrets [event] = []) :
    Tracks appname accepted journal (dumper.emit event) := by
  have same : keylogOf (dumper.emit event).events = keylogOf dumper.events := by
    rw [Dumper.emit_events, keylogOf_snoc, report]
  refine ⟨?_, tracks.buffered, tracks.packets, ?_, ?_, ?_, tracks.fits, tracks.bufferedFits,
    tracks.pendingFits, ?_⟩
  · rw [Dumper.emit_events, stream_append, stream_singleton, silent, List.append_nil]
    exact tracks.written
  · rw [same]
    exact tracks.keylogIdx
  · rw [same]
    exact tracks.keylog
  · rw [same]
    exact tracks.secrets
  · intro unlimited
    rw [same, Dumper.emit_events, acceptedSecrets_append, refused, List.append_nil]
    exact tracks.complete unlimited

/-- An empty keylog buffer means that no accepted secret is pending. -/
theorem pending_nil (flushed : dumper.keylogIdx = 0) : (keylogOf dumper.events).pending = [] := by
  apply keylogLines_eq_nil
  rw [← tracks.keylogIdx]
  exact flushed

theorem flush (accounted : dumper.Accounted) (flush : Dumper.Flush dumper after) :
    ∃ journal, Tracks appname accepted journal after := by
  cases flush with
  | discardKeylog pending full =>
    refine ⟨journal, ?_, tracks.buffered, tracks.packets, ?_, ?_, ?_, tracks.fits,
      tracks.bufferedFits, fun nonzero => absurd rfl nonzero, ?_⟩
    · simpa only [Dumper.emit, stream_append, stream_singleton, Event.dumped,
        List.append_nil] using tracks.written
    · simp [Dumper.emit, Keylog.record, keylogLines]
    · intro memory _
      simp [Dumper.emit, Keylog.record, keylogLines, Dumper.keylog]
    · simpa [Dumper.emit, Keylog.record] using tracks.secrets
    · intro unlimited
      exact absurd full.1 (Nat.not_lt.mpr (Nat.le_of_eq unlimited))
  | @exportKeylog memory allocated pending below =>
    have content := tracks.keylog memory allocated
    refine ⟨journal.exportKeylog (keylogOf dumper.events).pending, ?_, tracks.buffered,
      ?_, ?_, ?_, ?_, ?_, tracks.bufferedFits, fun nonzero => absurd rfl nonzero, ?_⟩
    · simp only [Dumper.emit, stream_append, stream_singleton, Event.dumped,
        Journal.exportKeylog, List.flatMap_append, tracks.written, content]
      simp [Item.bytes]
    · rw [Journal.exportKeylog_packets]
      exact tracks.packets
    · simp [Dumper.emit, Keylog.record, keylogLines]
    · intro keylog _
      simp [Dumper.emit, Keylog.record, keylogLines, Dumper.keylog]
    · simp only [Dumper.emit, Journal.exportKeylog_secrets, keylogOf_snoc, Keylog.record,
        tracks.secrets]
    · intro item member
      rcases List.mem_append.mp member with old | new
      · exact tracks.fits item old
      · cases List.mem_singleton.mp new
        refine ⟨tracks.pendingFits pending, ?_⟩
        rw [← tracks.keylogIdx]
        exact accounted.keylogIdx
    · intro unlimited
      simp only [Dumper.emit, keylogOf_snoc, Keylog.record, acceptedSecrets_append,
        tracks.complete unlimited]
      rfl
  | exportPackets now flushed pending =>
    have nothing := tracks.pending_nil flushed
    refine ⟨journal.exportPackets, ?_, rfl, ?_, ?_, ?_, ?_, ?_, List.forall_mem_nil _,
      tracks.pendingFits, ?_⟩
    · simp only [Dumper.emit, stream_append, stream_singleton, Event.dumped,
        Journal.exportPackets, List.flatMap_append, List.flatMap_map, tracks.written,
        tracks.buffered, Item.bytes]
    · rw [Journal.exportPackets_packets]
      exact tracks.packets
    · simpa [Dumper.emit, Keylog.record, keylogLines] using flushed
    · intro memory _
      simp [Dumper.emit, Keylog.record, keylogLines, Dumper.keylog, flushed]
    · simp only [Dumper.emit, Journal.exportPackets_secrets, keylogOf_snoc, Keylog.record,
        tracks.secrets, nothing, List.append_nil]
    · intro item member
      rcases List.mem_append.mp member with old | new
      · exact tracks.fits item old
      · obtain ⟨packet, buffered, rfl⟩ := List.mem_map.mp new
        exact tracks.bufferedFits packet buffered
    · intro unlimited
      simp only [Dumper.emit, keylogOf_snoc, Keylog.record, acceptedSecrets_append,
        tracks.complete unlimited]
      rfl

theorem flushes (accounted : dumper.Accounted) (flushes : Dumper.Flushes dumper after) :
    ∃ journal, Tracks appname accepted journal after := by
  induction flushes with
  | refl => exact ⟨journal, tracks⟩
  | tail earlier last ih =>
    obtain ⟨middle, tracked⟩ := ih
    exact tracked.flush (Dumper.Flushes.accounted earlier accounted) last

theorem stored {packet : Packet} (dumpable : packet.Dumpable dumper.mode)
    (mode : dumper.mode ≠ .pcapDumpWithTrailer)
    (stored : Dumper.Stored appname packet dumper after) :
    Tracks appname (accepted ++ [packet]) (journal.store packet) after := by
  have extended := stored.slice_eq mode
  obtain ⟨room, below⟩ := stored
  refine ⟨tracks.written, ?_, ?_, tracks.keylogIdx, tracks.keylog, tracks.secrets, tracks.fits,
    ?_, tracks.pendingFits, tracks.complete⟩
  · rw [extended, tracks.buffered]
    simp [Journal.store]
  · rw [Journal.store_packets, tracks.packets]
  · intro other member
    rcases List.mem_append.mp member with old | new
    · exact tracks.bufferedFits other old
    · grind

/-- The keylog buffer holds the pending secrets, even if it was allocated just now. -/
theorem keylogBuffer {memory : Memory} (accounted : dumper.Accounted)
    (buffer : dumper.KeylogBuffer memory) :
    dumper.keylog memory = keylogLines (keylogOf dumper.events).pending := by
  rcases buffer with allocated | ⟨missing, _⟩
  · exact tracks.keylog memory allocated
  · have empty := accounted.keylogAllocated missing
    rw [tracks.pending_nil empty, Dumper.keylog, empty]
    rfl

theorem secret {secData : Bytes} {returned : Bool} (accounted : dumper.Accounted)
    (mode : dumper.mode = .pcapngDump)
    (stored : Dumper.SecretStored secData dumper after returned) :
    Tracks appname accepted journal (after.emit (.secret secData returned)) := by
  cases stored with
  | @stored memory buffer room =>
    have content := tracks.keylogBuffer accounted buffer
    refine ⟨?_, tracks.buffered, tracks.packets, ?_, ?_, ?_, tracks.fits, tracks.bufferedFits,
      fun _ => mode, ?_⟩
    · simpa only [Dumper.emit, stream_append, stream_singleton, Event.dumped,
        List.append_nil] using tracks.written
    · simp only [Dumper.emit, keylogOf_snoc, Keylog.record, keylogLines_append,
        keylogLines_singleton, List.length_append, List.length_singleton, tracks.keylogIdx,
        Nat.add_assoc]
    · rintro keylog ⟨⟩
      simp only [Dumper.emit, keylogOf_snoc, Keylog.record, keylogLines_append,
        keylogLines_singleton, Dumper.keylog, ← content, Nat.add_assoc]
      exact keylog_extended memory dumper.keylogIdx secData
    · simpa only [Dumper.emit, keylogOf_snoc, Keylog.record] using tracks.secrets
    · intro unlimited
      simp only [Dumper.emit, keylogOf_snoc, Keylog.record, acceptedSecrets_append,
        ← tracks.complete unlimited, List.append_assoc]
      rfl
  | @full memory buffer =>
    have content := tracks.keylogBuffer accounted buffer
    have allocated : Tracks appname accepted journal { dumper with keylogBuf := some memory } := by
      refine ⟨tracks.written, tracks.buffered, tracks.packets, tracks.keylogIdx, ?_,
        tracks.secrets, tracks.fits, tracks.bufferedFits, tracks.pendingFits, tracks.complete⟩
      rintro keylog ⟨⟩
      exact content
    exact allocated.emit_report rfl (fun _ => rfl) rfl
  | failed => exact tracks.emit_report rfl (fun _ => rfl) rfl

end Tracks

/-! ## Runs -/

/-- The calls the format of the mode has room for; secrets belong to PCAPNG. -/
def Call.Valid (mode : PcapDumpMode) : Call → Prop
  | .dumpPacket _ packet => packet.Dumpable mode
  | .checkExport _ => True
  | .dumpSecret _ _ => mode = .pcapngDump

/-- Between the calls the journal holds exactly the accepted packets. -/
def Journaled (appname : Int → Bytes) (dumper : Dumper) : Prop :=
  ∃ journal, Tracks appname (acceptedPackets dumper.events) journal dumper

theorem Dumper.Flushes.acceptedPackets_eq (flushes : Dumper.Flushes before after) :
    acceptedPackets after.events = acceptedPackets before.events := by
  induction flushes with
  | refl => rfl
  | tail _ flush ih =>
    rw [← ih]
    cases flush <;> simp [Dumper.emit, acceptedPackets]

theorem Call.Effect.journaled {call : Call} (effect : call.Effect appname before after)
    (valid : call.Valid before.mode) (plain : before.mode ≠ .pcapDumpWithTrailer)
    (accounted : before.Accounted) (journaled : Journaled appname before) :
    Journaled appname after := by
  obtain ⟨journal, tracks⟩ := journaled
  cases effect with
  | @packetStored _ first second last now packet room stored flushes =>
    obtain ⟨between, tracked⟩ := tracks.flushes accounted room
    have mode : first.mode = before.mode := congrArg Prod.fst room.config_eq
    have kept := tracked.stored (mode ▸ valid) (mode ▸ plain) stored
    obtain ⟨final, done⟩ :=
      kept.flushes (stored.accounted (room.accounted accounted)) flushes
    refine ⟨final, ?_⟩
    have accepted : acceptedPackets (last.emit (.packet packet true)).events =
        acceptedPackets before.events ++ [packet] := by
      cases stored
      rw [Dumper.emit_events, acceptedPackets_append, flushes.acceptedPackets_eq,
        room.acceptedPackets_eq]
      rfl
    rw [accepted]
    exact done.emit_report rfl (fun _ => rfl) rfl
  | @packetRefused _ last now packet flushes =>
    obtain ⟨final, tracked⟩ := tracks.flushes accounted flushes
    refine ⟨final, ?_⟩
    have accepted : acceptedPackets (last.emit (.packet packet false)).events =
        acceptedPackets before.events := by
      rw [Dumper.emit_events, acceptedPackets_append, flushes.acceptedPackets_eq]
      exact List.append_nil _
    rw [accepted]
    exact tracked.emit_report rfl (fun _ => rfl) rfl
  | exported now flushes =>
    obtain ⟨final, tracked⟩ := tracks.flushes accounted flushes
    rw [← flushes.acceptedPackets_eq] at tracked
    exact ⟨final, tracked⟩
  | @secret _ last secData malloc returned stored =>
    have tracked := tracks.secret accounted valid stored
    refine ⟨journal, ?_⟩
    have accepted : acceptedPackets (last.emit (.secret secData returned)).events =
        acceptedPackets before.events := by
      cases stored <;> simp [Dumper.emit, acceptedPackets]
    grind

/-! ## Reading the whole dump -/

theorem items_pcap (fits : ∀ item ∈ items, item.Fits .pcapDump) :
    items.flatMap (Item.bytes appname .pcapDump snaplen) =
      pcapFormat.encodeAll ((items.filterMap Item.packet?).map (·.pcapRecord snaplen)) := by
  induction items with
  | nil => rfl
  | cons item items ih =>
    have rest := ih fun other member => fits other (List.mem_cons_of_mem _ member)
    cases item with
    | packet stored =>
      rw [List.flatMap_cons, rest]
      rfl
    | secrets lines => cases (fits (.secrets lines) List.mem_cons_self).1

theorem items_pcapng (snaplen : Nat) (items : List Item) :
    items.flatMap (Item.bytes appname .pcapngDump snaplen) =
      pcapngFormat.encodeAll (items.map (Item.block snaplen)) := by
  rw [Format.encodeAll, List.flatMap_map]
  congr 1
  funext item
  cases item <;> rfl

theorem Item.block_fits {item : Item} (fits : item.Fits .pcapngDump) :
    (item.block snaplen).Fits := by
  cases item with
  | packet stored => exact stored.enhPacketBlock_fits snaplen fits
  | secrets lines => exact secretsBlock_fits fits.2

theorem Item.block_wellFormed (snaplen : Nat) (item : Item) :
    (item.block snaplen).WellFormed := by
  cases item with
  | packet stored => exact stored.enhPacketBlock_wellFormed snaplen
  | secrets lines => exact secretsBlock_wellFormed (keylogLines lines)

section

variable (fits : ∀ item ∈ items, item.Fits .pcapngDump)
include fits

theorem blocks_packets : (items.map (Item.block snaplen)).filterMap PcapngBlock.packet? =
      (items.filterMap Item.packet?).map (·.decoded snaplen) := by
  induction items with
  | nil => rfl
  | cons item items ih =>
    have rest := ih fun other member => fits other (List.mem_cons_of_mem _ member)
    have first := fits item List.mem_cons_self
    cases item with
    | packet stored =>
      have read := stored.enhPacketBlock_packet snaplen first
      rw [List.map_cons, List.filterMap_cons_some (by exact read), rest]
      rfl
    | secrets lines =>
      rw [List.map_cons, List.filterMap_cons_none (by rfl), rest]
      rfl

theorem blocks_secrets : ((items.map (Item.block snaplen)).filterMap PcapngBlock.secrets?).flatten =
      keylogLines (items.flatMap Item.secretList) := by
  induction items with
  | nil => rfl
  | cons item items ih =>
    have rest := ih fun other member => fits other (List.mem_cons_of_mem _ member)
    have first := fits item List.mem_cons_self
    cases item with
    | packet stored =>
      rw [List.map_cons, List.filterMap_cons_none (by rfl), rest]
      rfl
    | secrets lines =>
      have read := secretsBlock_secrets first.2
      rw [List.map_cons, List.filterMap_cons_some (by exact read), List.flatten_cons, rest,
        List.flatMap_cons, keylogLines_append]
      rfl

end

/-- A PCAP dump of these events reads back as the accepted packets. -/
def ReadsAsPcap (snaplen : Nat) (events : List Event) : Prop :=
  ∃ records, Decoder.decodeAll PcapRecord.decode (stream events) = some records ∧
    records.map PcapRecord.packet = (acceptedPackets events).map (·.decoded snaplen)

/-- A PCAPNG dump of these events reads back as the accepted packets and the
secrets that were not given up. -/
def ReadsAsPcapng (snaplen : Nat) (events : List Event) : Prop :=
  ∃ blocks, Decoder.decodeAll PcapngBlock.decode (stream events) = some blocks ∧
    (∀ block ∈ blocks, block.WellFormed) ∧
    blocks.filterMap PcapngBlock.packet? = (acceptedPackets events).map (·.decoded snaplen) ∧
    (blocks.filterMap PcapngBlock.secrets?).flatten = keylogLines (keylogOf events).kept

/-- After the last flush every accepted packet is in the written part of the journal. -/
theorem Tracks.written_packets {accepted : List Packet}
    (tracks : Tracks appname accepted journal dumper) (plain : dumper.mode ≠ .pcapDumpWithTrailer)
    (flushed : dumper.bufferIdx = 0) : journal.written.filterMap Item.packet? = accepted := by
  have empty : journal.buffered = [] := by
    cases stored : journal.buffered with
    | nil => rfl
    | cons packet packets =>
      have bytes := tracks.buffered
      rw [flushed, stored, Memory.slice_zero, List.flatMap_cons] at bytes
      have width := packet.recordBytes_length appname dumper plain
      rw [(List.append_eq_nil_iff.mp bytes.symm).1, List.length_nil] at width
      have positive := dumper.pcapRecSize_pos packet.data.length
      omega
  rw [← tracks.packets, Journal.packets, empty, List.append_nil]

theorem Tracks.readsAsPcap (tracks : Tracks appname (acceptedPackets dumper.events) journal dumper)
    (mode : dumper.mode = .pcapDump) (flushed : dumper.bufferIdx = 0) :
    ReadsAsPcap dumper.snaplen dumper.events := by
  have packets := tracks.written_packets (by rw [mode]; decide) flushed
  have written := tracks.written
  have fits := tracks.fits
  rw [mode] at written fits
  rw [items_pcap fits, packets] at written
  refine ⟨(acceptedPackets dumper.events).map (·.pcapRecord dumper.snaplen), ?_, ?_⟩
  · rw [written]
    apply pcapFormat.decodeAll_encodeAll
    intro record member
    obtain ⟨packet, accepted, rfl⟩ := List.mem_map.mp member
    rw [← packets] at accepted
    obtain ⟨item, listed, found⟩ := List.mem_filterMap.mp accepted
    cases item with
    | packet stored =>
      cases found
      exact packet.pcapRecord_fits dumper.snaplen (fits _ listed)
    | secrets lines => cases found
  · rw [List.map_map]
    rfl

theorem Tracks.readsAsPcapng
    (tracks : Tracks appname (acceptedPackets dumper.events) journal dumper)
    (mode : dumper.mode = .pcapngDump) (flushed : dumper.bufferIdx = 0) :
    ReadsAsPcapng dumper.snaplen dumper.events := by
  have packets := tracks.written_packets (by rw [mode]; decide) flushed
  have written := tracks.written
  have fits := tracks.fits
  rw [mode] at written fits
  rw [items_pcapng] at written
  refine ⟨journal.written.map (Item.block dumper.snaplen), ?_, ?_, ?_, ?_⟩
  · rw [written]
    apply pcapngFormat.decodeAll_encodeAll
    intro block member
    obtain ⟨item, listed, rfl⟩ := List.mem_map.mp member
    exact Item.block_fits (fits item listed)
  · intro block member
    obtain ⟨item, _, rfl⟩ := List.mem_map.mp member
    exact item.block_wellFormed dumper.snaplen
  · rw [blocks_packets fits, packets]
  · rw [blocks_secrets fits, ← tracks.secrets]
    rfl

/-- Whatever is dumped, with or without a size limit, the bytes handed out up to
`pcap_destroy_dumper` read back as the packets for which `pcap_dump_packet`
returned true and, in PCAPNG, the secrets that were accepted and not discarded
with a keylog that would have exceeded the limit. -/
theorem dump_reads_back (appname : Int → Bytes) (mode : PcapDumpMode) (snaplen maxDumpSize : Nat)
    (malloc : Nat → UInt8) (calls : List Call) (now : UInt64)
    (plain : mode ≠ .pcapDumpWithTrailer) (valid : ∀ call ∈ calls, call.Valid mode) :
    ∃ dumper final,
      performAll appname (pcapNewDumper mode snaplen maxDumpSize malloc) calls = some dumper ∧
      dumper.pcapDestroyDumper now = some final ∧
      (mode = .pcapDump → ReadsAsPcap snaplen final.events) ∧
      (mode = .pcapngDump → ReadsAsPcapng snaplen final.events ∧
        (maxDumpSize = 0 → (keylogOf final.events).kept = acceptedSecrets final.events)) := by
  obtain ⟨dumper, performed, accounted, config, journaled⟩ := performAll_invariant appname
    (Call.Valid mode)
    (fun dumper => dumper.config = (mode, snaplen, maxDumpSize) ∧ Journaled appname dumper)
    (by
      rintro call before after valid accounted ⟨config, journaled⟩ effect
      have same : before.mode = mode := congrArg Prod.fst config
      exact ⟨effect.config_eq.trans config,
        effect.journaled (same ▸ valid) (same ▸ plain) accounted journaled⟩)
    calls valid (pcapNewDumper_accounted mode snaplen maxDumpSize malloc)
    ⟨rfl, _, .initial appname mode snaplen maxDumpSize malloc⟩
  obtain ⟨final, destroyed, flushes, noSecrets, empty⟩ :=
    Dumper.exportBuffer_flushes now accounted
  obtain ⟨journal, tracks⟩ := journaled
  obtain ⟨last, tracked⟩ := tracks.flushes accounted flushes
  rw [← flushes.acceptedPackets_eq] at tracked
  have finalConfig := flushes.config_eq.trans config
  simp only [Dumper.config, Prod.mk.injEq] at finalConfig
  obtain ⟨finalMode, finalSnaplen, finalLimit⟩ := finalConfig
  refine ⟨dumper, final, performed, destroyed, ?_, ?_⟩
  · intro pcap
    rw [← finalSnaplen]
    exact tracked.readsAsPcap (finalMode.trans pcap) empty
  · intro pcapng
    rw [← finalSnaplen]
    refine ⟨tracked.readsAsPcapng (finalMode.trans pcapng) empty, ?_⟩
    intro unlimited
    have complete := tracked.complete (finalLimit.trans unlimited)
    rw [tracked.pending_nil noSecrets, List.append_nil] at complete
    exact complete

/-- A capture with a packet longer than the snaplen and a secret. -/
theorem dump_reads_back_short :
    ∃ dumper final,
      performAll (fun _ => []) (pcapNewDumper .pcapngDump 2 0 fun _ => 0)
        [.dumpPacket 5 ⟨[1, 2, 3], ⟨7, 9⟩, 1000⟩, .dumpSecret [65] (some fun _ => 0)] =
          some dumper ∧
      dumper.pcapDestroyDumper 6 = some final ∧
      ReadsAsPcapng 2 final.events ∧
      (keylogOf final.events).kept = acceptedSecrets final.events := by
  obtain ⟨dumper, final, performed, destroyed, _, pcapng⟩ :=
    dump_reads_back (fun _ => []) .pcapngDump 2 0 (fun _ => 0)
      [.dumpPacket 5 ⟨[1, 2, 3], ⟨7, 9⟩, 1000⟩, .dumpSecret [65] (some fun _ => 0)] 6 (by decide)
      (by
        intro call member
        rcases List.mem_cons.mp member with rfl | member
        · exact ⟨by decide, by decide, by decide⟩
        · cases List.mem_singleton.mp member
          rfl)
  exact ⟨dumper, final, performed, destroyed, (pcapng rfl).1, (pcapng rfl).2 rfl⟩

end PcapdroidFormal.Dump
