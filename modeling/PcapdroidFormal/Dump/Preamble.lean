import PcapdroidFormal.Dump.Formats

/-!
# The preamble of a capture

`pcap_get_preamble` builds what stands in front of the dumped packets: the
header of a PCAP file, or the section header block and the interface
description block of a PCAPNG file.  The blocks are written field by field into
an allocation of the size computed before, so `none` stands for a write outside
of it.
-/

namespace PcapdroidFormal.Dump

open Foundation

variable {info : DeviceInfo}

def linktypeEthernet : Nat := 1
def linktypeRaw : Nat := 101

def sizeofSectionHdrBlock : Nat := 24
def sizeofIntfDescrBlock : Nat := 16

/-- The strings `pd_device`, `pd_os` and `pd_appver`. -/
structure DeviceInfo where
  device : Bytes
  os : Bytes
  appver : Bytes

/-- `pcapng_opt_t`; its numbers are 16-bit words. -/
structure PcapngOpt where
  type : Nat
  length : Nat
  padding : Nat
  totLength : Nat
  data : Bytes

def pcapngOption (type : Nat) (data : Bytes) : PcapngOpt :=
  let length := data.length % 2 ^ 16
  { type := type
    length := length
    padding := padding length
    totLength := (4 + length + padding length) % 2 ^ 16
    data := data }

def writePcapngOpt (memory : Memory) (buf : Nat) (opt : PcapngOpt) : Option (Memory × Nat) := do
  let memory ← memory.write? buf (Bytes.littleEndian 2 opt.type)
  let memory ← memory.write? (buf + 2) (Bytes.littleEndian 2 opt.length)
  let memory ← memory.write? (buf + 4) (opt.data.take opt.length)
  let memory ← memory.write? (buf + 4 + opt.length) (List.replicate opt.padding 0)
  some (memory, opt.totLength)

def getPcapFileHeader (dumper : Dumper) : Bytes :=
  Bytes.littleEndian 4 0xa1b2c3d4 ++ (Bytes.littleEndian 2 2 ++ (Bytes.littleEndian 2 4 ++
    (Bytes.littleEndian 4 0 ++ (Bytes.littleEndian 4 0 ++
      (Bytes.littleEndian 4 dumper.snaplen ++ Bytes.littleEndian 4
        (if dumper.mode = .pcapDumpWithTrailer then linktypeEthernet else linktypeRaw))))))

/-- `get_pcapng_preamble`; `malloc` is the content of the fresh allocation. -/
def getPcapngPreamble (info : DeviceInfo) (dumper : Dumper) (malloc : Nat → UInt8) :
    Option Bytes := do
  let shbHw := pcapngOption 0x2 info.device
  let shbOs := pcapngOption 0x3 info.os
  let shbApp := pcapngOption 0x4 info.appver
  let shbLength := sizeofSectionHdrBlock + shbHw.totLength + shbOs.totLength +
    shbApp.totLength + 4
  let idbLength := sizeofIntfDescrBlock + 4
  let preambleSz := shbLength + idbLength
  let memory : Memory := ⟨preambleSz, malloc⟩
  let memory ← memory.write? 0 (Bytes.littleEndian 4 0x0A0D0D0A)
  let memory ← memory.write? 4 (Bytes.littleEndian 4 shbLength)
  let memory ← memory.write? 8 (Bytes.littleEndian 4 0x1a2b3c4d)
  let memory ← memory.write? 12 (Bytes.littleEndian 2 1)
  let memory ← memory.write? 14 (Bytes.littleEndian 2 0)
  let memory ← memory.write? 16 (Bytes.littleEndian 8 (2 ^ 64 - 1))
  let ptr := sizeofSectionHdrBlock
  let (memory, written) ← writePcapngOpt memory ptr shbHw
  let ptr := ptr + written
  let (memory, written) ← writePcapngOpt memory ptr shbOs
  let ptr := ptr + written
  let (memory, written) ← writePcapngOpt memory ptr shbApp
  let ptr := ptr + written
  let memory ← memory.write? ptr (memory.slice 4 4)
  let idb := ptr + 4
  let memory ← memory.write? idb (Bytes.littleEndian 4 0x00000001)
  let memory ← memory.write? (idb + 4) (Bytes.littleEndian 4 (sizeofIntfDescrBlock + 4))
  let memory ← memory.write? (idb + 10) (Bytes.littleEndian 2 0)
  let memory ← memory.write? (idb + 8) (Bytes.littleEndian 2 linktypeRaw)
  let memory ← memory.write? (idb + 12) (Bytes.littleEndian 4 dumper.snaplen)
  let memory ← memory.write? (idb + sizeofIntfDescrBlock) (memory.slice (idb + 4) 4)
  some (memory.slice 0 preambleSz)

def pcapGetPreamble (info : DeviceInfo) (dumper : Dumper) (malloc : Nat → UInt8) : Option Bytes :=
  if dumper.mode = .pcapngDump then getPcapngPreamble info dumper malloc
  else some (getPcapFileHeader dumper)

/-! ## The PCAP header -/

/-- What a reader takes from the header of a PCAP file. -/
structure PcapHeader where
  versionMajor : Nat
  versionMinor : Nat
  snaplen : Nat
  network : Nat
  deriving DecidableEq, Repr

/-- The magic number tells the byte order, which is little endian here. -/
def PcapHeader.decode : Decoder PcapHeader := fun input => do
  let (magic, input) ← Decoder.littleEndian 4 input
  let (versionMajor, input) ← Decoder.littleEndian 2 input
  let (versionMinor, input) ← Decoder.littleEndian 2 input
  let (_, input) ← Decoder.littleEndian 4 input
  let (_, input) ← Decoder.littleEndian 4 input
  let (snaplen, input) ← Decoder.littleEndian 4 input
  let (network, input) ← Decoder.littleEndian 4 input
  if magic = 0xa1b2c3d4 then some (⟨versionMajor, versionMinor, snaplen, network⟩, input)
  else none

theorem getPcapFileHeader_decode (dumper : Dumper) (rest : Bytes) :
    PcapHeader.decode (getPcapFileHeader dumper ++ rest) =
      some (⟨2, 4, dumper.snaplen % 2 ^ 32,
        if dumper.mode = .pcapDumpWithTrailer then linktypeEthernet else linktypeRaw⟩, rest) := by
  have network : (if dumper.mode = .pcapDumpWithTrailer then linktypeEthernet
      else linktypeRaw) < 2 ^ 32 := by
    split
    · exact (by decide : linktypeEthernet < 2 ^ 32)
    · exact (by decide : linktypeRaw < 2 ^ 32)
  simp only [PcapHeader.decode, getPcapFileHeader, List.append_assoc, Option.bind_eq_bind]
  rw [Decoder.word_append _ (by decide), Option.bind_some,
    Decoder.littleEndian_append _ (by decide), Option.bind_some,
    Decoder.littleEndian_append _ (by decide), Option.bind_some,
    Decoder.word_append _ (by decide), Option.bind_some,
    Decoder.word_append _ (by decide), Option.bind_some,
    Decoder.word_append_mod, Option.bind_some,
    Decoder.word_append _ network, Option.bind_some, if_pos rfl]

/-! ## Options -/

structure BlockOption where
  type : Nat
  value : Bytes
  deriving DecidableEq, Repr

namespace BlockOption

/-- The value is padded to a multiple of four bytes. -/
def encode (option : BlockOption) : Bytes :=
  Bytes.littleEndian 2 option.type ++ (Bytes.littleEndian 2 option.value.length ++
    (option.value ++ List.replicate (padding option.value.length) 0))

def decode : Decoder BlockOption := fun input => do
  let (type, input) ← Decoder.littleEndian 2 input
  let (length, input) ← Decoder.littleEndian 2 input
  let (value, input) ← Decoder.takeBytes length input
  let (pad, input) ← Decoder.takeBytes (padding length) input
  if pad = List.replicate (padding length) 0 then some (⟨type, value⟩, input) else none

structure Fits (option : BlockOption) : Prop where
  type : option.type < 2 ^ 16
  length : option.value.length < 2 ^ 16

theorem decode_encode (option : BlockOption) (rest : Bytes) (fits : option.Fits) :
    decode (option.encode ++ rest) = some (option, rest) := by
  simp only [decode, encode, List.append_assoc, Option.bind_eq_bind]
  rw [Decoder.littleEndian_append _ (by simpa using fits.type), Option.bind_some,
    Decoder.littleEndian_append _ (by simpa using fits.length), Option.bind_some,
    Decoder.takeBytes_append _ rfl, Option.bind_some,
    Decoder.takeBytes_append _ List.length_replicate, Option.bind_some, if_pos rfl]

theorem encode_length (option : BlockOption) :
    option.encode.length = 4 + option.value.length + padding option.value.length := by
  simp only [encode, List.length_append, Bytes.littleEndian_length, List.length_replicate]
  omega

end BlockOption

def optionFormat : Format BlockOption where
  Fits := BlockOption.Fits
  encode := BlockOption.encode
  decode := BlockOption.decode
  encode_ne_nil option empty := by
    have length := option.encode_length
    grind
  decode_encode := BlockOption.decode_encode

/-- The options of a string whose length fits 16 bits together with the header and the
padding. -/
theorem pcapngOption_of_lt (type : Nat) {data : Bytes} (short : data.length < 60000) :
    pcapngOption type data = ⟨type, data.length, padding data.length,
      (BlockOption.mk type data).encode.length, data⟩ := by
  have pad := padding_lt data.length
  have length : data.length % 2 ^ 16 = data.length := Nat.mod_eq_of_lt (by omega)
  have total : (4 + data.length + padding data.length) % 2 ^ 16 =
      4 + data.length + padding data.length := Nat.mod_eq_of_lt (by omega)
  rw [BlockOption.encode_length]
  simp only [pcapngOption, length, total]

/-- An option is written behind what was written before. -/
theorem writePcapngOpt_extend (memory : Memory) {written data : Bytes} {buf : Nat} (type : Nat)
    (short : data.length < 60000) (next : buf = written.length)
    (inside : buf + (BlockOption.mk type data).encode.length ≤ memory.size) :
    writePcapngOpt (memory.store 0 written) buf (pcapngOption type data) =
      some (memory.store 0 (written ++ (BlockOption.mk type data).encode),
        (BlockOption.mk type data).encode.length) := by
  have size := (BlockOption.mk type data).encode_length
  dsimp only at size
  rw [pcapngOption_of_lt type short]
  simp only [writePcapngOpt, List.take_length, Option.bind_eq_bind]
  rw [Memory.write?_extend_bind (by omega) (by simp; omega),
    Memory.write?_extend_bind (by simp; omega) (by simp; omega),
    Memory.write?_extend_bind (by simp; omega) (by omega),
    Memory.write?_extend_bind (by simp; omega) (by simp; omega)]
  simp only [BlockOption.encode, List.append_assoc]

/-! ## The blocks of the preamble -/

/-- The options of the section header block. -/
def DeviceInfo.options (info : DeviceInfo) : List BlockOption :=
  [⟨0x2, info.device⟩, ⟨0x3, info.os⟩, ⟨0x4, info.appver⟩]

/-- The strings are short enough for the 16-bit lengths. -/
structure DeviceInfo.Short (info : DeviceInfo) : Prop where
  device : info.device.length < 60000
  os : info.os.length < 60000
  appver : info.appver.length < 60000

def sectionHeaderBlock (info : DeviceInfo) : PcapngBlock where
  type := 0x0A0D0D0A
  totalLength := 28 + (optionFormat.encodeAll info.options).length
  body := Bytes.littleEndian 4 0x1a2b3c4d ++ (Bytes.littleEndian 2 1 ++ (Bytes.littleEndian 2 0 ++
    (Bytes.littleEndian 8 (2 ^ 64 - 1) ++ optionFormat.encodeAll info.options)))
  trailingLength := 28 + (optionFormat.encodeAll info.options).length

def interfaceDescriptionBlock (snaplen : Nat) : PcapngBlock where
  type := 0x00000001
  totalLength := 20
  body := Bytes.littleEndian 2 linktypeRaw ++ (Bytes.littleEndian 2 0 ++
    Bytes.littleEndian 4 snaplen)
  trailingLength := 20

/-- The blocks are written one behind the other; `idb` is the end of the first one. -/
theorem writeInterface_extend (memory : Memory) {written : Bytes} {idb : Nat} (snaplen : Nat)
    (next : idb = written.length) (inside : idb + 20 ≤ memory.size) :
    (do
      let memory ← (memory.store 0 written).write? idb (Bytes.littleEndian 4 0x00000001)
      let memory ← memory.write? (idb + 4) (Bytes.littleEndian 4 (sizeofIntfDescrBlock + 4))
      let memory ← memory.write? (idb + 10) (Bytes.littleEndian 2 0)
      let memory ← memory.write? (idb + 8) (Bytes.littleEndian 2 linktypeRaw)
      let memory ← memory.write? (idb + 12) (Bytes.littleEndian 4 snaplen)
      memory.write? (idb + sizeofIntfDescrBlock) (memory.slice (idb + 4) 4)) =
      some (memory.store 0 (written ++ (interfaceDescriptionBlock snaplen).encode)) := by
  simp only [sizeofIntfDescrBlock, Option.bind_eq_bind]
  rw [Memory.write?_extend_bind (by omega) (by simp; omega),
    Memory.write?_extend_bind (by simp; omega) (by simp; omega),
    Memory.store_extend_slice _ 0 _ 2,
    Memory.write?_extend_bind (by simp; omega) (by simp; omega)]
  -- the link type fills the gap left in front of the reserved field
  generalize gapped : memory.slice _ 2 = gap
  have width : gap.length = 2 := by rw [← gapped, Memory.slice_length]
  rw [Memory.write?_field _ (written ++ Bytes.littleEndian 4 1 ++ Bytes.littleEndian 4 (16 + 4)) gap
      (Bytes.littleEndian 2 0) (by simp) (by simp; omega) (by simp [width])
      (by simp [width]; omega), Option.bind_some,
    Memory.write?_extend_bind (by simp; omega) (by simp; omega)]
  rw [Memory.slice_field _ (written ++ Bytes.littleEndian 4 1) (Bytes.littleEndian 4 (16 + 4))
      (Bytes.littleEndian 2 linktypeRaw ++ (Bytes.littleEndian 2 0 ++
        Bytes.littleEndian 4 snaplen)) (by simp only [List.append_assoc]) (by simp; omega) (by simp),
    Memory.write?_extend _ (by simp; omega) (by simp; omega)]
  simp only [PcapngBlock.encode, interfaceDescriptionBlock, List.append_assoc]

/-- The preamble is the two blocks, and it fills its allocation. -/
theorem getPcapngPreamble_eq (short : info.Short) (dumper : Dumper) (malloc : Nat → UInt8) :
    getPcapngPreamble info dumper malloc =
      some (pcapngFormat.encodeAll
        [sectionHeaderBlock info, interfaceDescriptionBlock dumper.snaplen]) := by
  obtain ⟨device, os, appver⟩ := short
  generalize hwBytes : (BlockOption.mk 0x2 info.device).encode = hw
  generalize osBytes : (BlockOption.mk 0x3 info.os).encode = system
  generalize appBytes : (BlockOption.mk 0x4 info.appver).encode = app
  have hwTotal : (pcapngOption 0x2 info.device).totLength = hw.length := by
    rw [pcapngOption_of_lt _ device, hwBytes]
  have osTotal : (pcapngOption 0x3 info.os).totLength = system.length := by
    rw [pcapngOption_of_lt _ os, osBytes]
  have appTotal : (pcapngOption 0x4 info.appver).totLength = app.length := by
    rw [pcapngOption_of_lt _ appver, appBytes]
  have options : optionFormat.encodeAll info.options = hw ++ (system ++ app) := by
    simp [Format.encodeAll, optionFormat, DeviceInfo.options, hwBytes, osBytes, appBytes]
  simp only [getPcapngPreamble, hwTotal, osTotal, appTotal, sizeofSectionHdrBlock,
    Option.bind_eq_bind]
  rw [Memory.write?_bind (by simp; omega)]
  repeat rw [Memory.write?_extend_bind (by simp) (by simp; omega)]
  rw [writePcapngOpt_extend _ _ device (by simp) (by grind),
    Option.bind_some, hwBytes,
    writePcapngOpt_extend _ _ os (by simp; omega) (by grind),
    Option.bind_some, osBytes,
    writePcapngOpt_extend _ _ appver (by simp; omega) (by grind),
    Option.bind_some, appBytes]
  simp only [List.append_assoc]
  rw [Memory.slice_field _ (Bytes.littleEndian 4 0x0A0D0D0A) _ _ rfl (by simp) (by simp),
    Memory.write?_extend_bind (by simp; omega) (by simp)]
  have total : 28 + (hw ++ (system ++ app)).length =
      24 + hw.length + system.length + app.length + 4 := by
    grind
  have shb : Bytes.littleEndian 4 0x0A0D0D0A ++ (Bytes.littleEndian 4
      (24 + hw.length + system.length + app.length + 4) ++ (Bytes.littleEndian 4 0x1a2b3c4d ++
        (Bytes.littleEndian 2 1 ++ (Bytes.littleEndian 2 0 ++ (Bytes.littleEndian 8 (2 ^ 64 - 1) ++
          (hw ++ (system ++ app))))))) ++
      Bytes.littleEndian 4 (24 + hw.length + system.length + app.length + 4) =
        (sectionHeaderBlock info).encode := by
    simp only [PcapngBlock.encode, sectionHeaderBlock, total, options, List.append_assoc]
  have size : (sectionHeaderBlock info).encode.length =
      24 + hw.length + system.length + app.length + 4 := by
    rw [← shb]
    simp
    omega
  rw [shb]
  have interface := writeInterface_extend
    ⟨24 + hw.length + system.length + app.length + 4 + (sizeofIntfDescrBlock + 4), malloc⟩
    dumper.snaplen size.symm (Nat.le_refl _)
  have whole := congrArg (Option.bind · fun memory =>
    some (memory.slice 0 (24 + hw.length + system.length + app.length + 4 +
      (sizeofIntfDescrBlock + 4)))) interface
  simp only [Option.bind_eq_bind, Option.bind_assoc, Option.bind_some] at whole
  rw [whole]
  have width : 24 + hw.length + system.length + app.length + 4 + (sizeofIntfDescrBlock + 4) =
      ((sectionHeaderBlock info).encode ++
        (interfaceDescriptionBlock dumper.snaplen).encode).length := by
    rw [List.length_append, size]
    rfl
  rw [width, Memory.slice_store_self]
  simp only [Format.encodeAll, pcapngFormat, List.flatMap_cons, List.flatMap_nil, List.append_nil]

/-! ## Well-formedness -/

theorem BlockOption.four_dvd_encode (option : BlockOption) : 4 ∣ option.encode.length := by
  have aligned := four_dvd_add_padding option.value.length
  rw [option.encode_length]
  omega

theorem DeviceInfo.four_dvd_options (info : DeviceInfo) :
    4 ∣ (optionFormat.encodeAll info.options).length := by
  have device := (BlockOption.mk 0x2 info.device).four_dvd_encode
  have os := (BlockOption.mk 0x3 info.os).four_dvd_encode
  have appver := (BlockOption.mk 0x4 info.appver).four_dvd_encode
  simp only [Format.encodeAll, optionFormat, DeviceInfo.options, List.flatMap_cons,
    List.flatMap_nil, List.append_nil, List.length_append]
  omega

theorem DeviceInfo.Short.options_fit (short : info.Short) :
    ∀ option ∈ info.options, optionFormat.Fits option := by
  obtain ⟨device, os, appver⟩ := short
  intro option member
  simp only [DeviceInfo.options, List.mem_cons, List.not_mem_nil, or_false] at member
  rcases member with rfl | rfl | rfl
  · exact ⟨(by decide : 2 < 2 ^ 16), Nat.lt_trans device (by decide)⟩
  · exact ⟨(by decide : 3 < 2 ^ 16), Nat.lt_trans os (by decide)⟩
  · exact ⟨(by decide : 4 < 2 ^ 16), Nat.lt_trans appver (by decide)⟩

theorem DeviceInfo.Short.options_length (short : info.Short) :
    (optionFormat.encodeAll info.options).length < 200000 := by
  obtain ⟨device, os, appver⟩ := short
  have first := padding_lt info.device.length
  have second := padding_lt info.os.length
  have third := padding_lt info.appver.length
  simp only [Format.encodeAll, optionFormat, DeviceInfo.options, List.flatMap_cons,
    List.flatMap_nil, List.append_nil, List.length_append, BlockOption.encode_length]
  omega

theorem sectionHeaderBlock_fits (short : info.Short) :
    (sectionHeaderBlock info).Fits := by
  have bound := short.options_length
  have total : (sectionHeaderBlock info).totalLength < 2 ^ 32 := by
    simp only [sectionHeaderBlock]
    omega
  refine ⟨(by decide : 0x0A0D0D0A < 2 ^ 32), total, ?_, total⟩
  simp only [sectionHeaderBlock, List.length_append, Bytes.littleEndian_length]
  omega

theorem sectionHeaderBlock_wellFormed (info : DeviceInfo) :
    (sectionHeaderBlock info).WellFormed := by
  refine ⟨rfl, ?_⟩
  have aligned := info.four_dvd_options
  simp only [sectionHeaderBlock]
  omega

theorem interfaceDescriptionBlock_fits (snaplen : Nat) :
    (interfaceDescriptionBlock snaplen).Fits := by
  refine ⟨(by decide : 1 < 2 ^ 32), (by decide : 20 < 2 ^ 32), ?_, (by decide : 20 < 2 ^ 32)⟩
  simp [interfaceDescriptionBlock]

theorem interfaceDescriptionBlock_wellFormed (snaplen : Nat) :
    (interfaceDescriptionBlock snaplen).WellFormed := ⟨rfl, (by decide : 4 ∣ 20)⟩

/-- A PCAP header, or a section header block with padded options and an interface description
block. -/
def WellFormedPreamble (info : DeviceInfo) (mode : PcapDumpMode) (preamble : Bytes) : Prop :=
  match mode with
  | .pcapngDump => ∃ shb idb,
      Decoder.decodeAll PcapngBlock.decode preamble = some [shb, idb] ∧
      (shb.type = 0x0A0D0D0A ∧ shb.WellFormed) ∧ (idb.type = 0x00000001 ∧ idb.WellFormed) ∧
      Decoder.decodeAll BlockOption.decode (shb.body.drop 16) = some info.options
  | _ => ∃ snaplen network, PcapHeader.decode preamble = some (⟨2, 4, snaplen, network⟩, [])

theorem pcapGetPreamble_wellFormed (short : info.Short) (dumper : Dumper) (malloc : Nat → UInt8) :
    ∃ preamble, pcapGetPreamble info dumper malloc = some preamble ∧
      WellFormedPreamble info dumper.mode preamble := by
  have header := getPcapFileHeader_decode dumper []
  unfold pcapGetPreamble
  cases mode : dumper.mode with
  | pcapDump => exact ⟨_, if_neg nofun, _, _, header⟩
  | pcapDumpWithTrailer => exact ⟨_, if_neg nofun, _, _, header⟩
  | pcapngDump =>
    refine ⟨_, (if_pos rfl).trans (getPcapngPreamble_eq short dumper malloc),
      sectionHeaderBlock info, interfaceDescriptionBlock dumper.snaplen, ?_,
      ⟨rfl, sectionHeaderBlock_wellFormed info⟩,
      ⟨rfl, interfaceDescriptionBlock_wellFormed dumper.snaplen⟩, ?_⟩
    · apply pcapngFormat.decodeAll_encodeAll
      intro block member
      simp only [List.mem_cons, List.not_mem_nil, or_false] at member
      rcases member with rfl | rfl
      · exact sectionHeaderBlock_fits short
      · exact interfaceDescriptionBlock_fits dumper.snaplen
    · have behind : (sectionHeaderBlock info).body.drop 16 =
          optionFormat.encodeAll info.options := by
        simp only [sectionHeaderBlock, ← List.append_assoc]
        exact List.drop_left' (by simp)
      exact optionFormat.decodeAll_encodeAll info.options short.options_fit

end PcapdroidFormal.Dump
