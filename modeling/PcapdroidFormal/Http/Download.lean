import PcapdroidFormal.Dump.Boundaries
import PcapdroidFormal.Dump.Preamble
import PcapdroidFormal.Http.Server

/-!
# Downloading a capture

A client that is ready and in the list of the server downloads a capture of its
own: the preamble, and the buffers from then on.  The three encoders meet
here.  The buffers are cut at the ends of records and blocks, so the preamble
and any number of the last buffers is a complete file, and the chunked coding
gives it back.
-/

namespace PcapdroidFormal.Http

open Foundation Foundation.Chunked Dump

variable {info : DeviceInfo} {dumper : Dumper} {preamble : Bytes} {malloc : Nat → UInt8}
  {buffers : List Bytes}

/-! ## The file behind a preamble -/

/-- A reader gets to the end of the file. -/
def ParsesCompletely (mode : PcapDumpMode) (file : Bytes) : Prop :=
  match mode with
  | .pcapngDump => ∃ blocks, Decoder.decodeAll PcapngBlock.decode file = some blocks ∧
      ∀ block ∈ blocks, block.WellFormed
  | _ => ∃ header rest records, PcapHeader.decode file = some (header, rest) ∧
      Decoder.decodeAll PcapRecord.decode rest = some records

/-- The preamble depends on the configuration of the dumper only. -/
theorem pcapGetPreamble_of_config (short : info.Short) {live : Dumper}
    (same : live.config = dumper.config) (malloc contents : Nat → UInt8) :
    pcapGetPreamble info live contents = pcapGetPreamble info dumper malloc := by
  obtain ⟨mode, snaplen, -⟩ : live.mode = dumper.mode ∧ live.snaplen = dumper.snaplen ∧
      live.maxDumpSize = dumper.maxDumpSize := by
    simpa only [Dumper.config, Prod.mk.injEq] using same
  simp only [pcapGetPreamble, getPcapngPreamble_eq short, getPcapFileHeader, mode, snaplen]

theorem wellFormedPreamble_ne_nil {mode : PcapDumpMode}
    (wellFormed : WellFormedPreamble info mode preamble) : preamble ≠ [] := by
  rintro rfl
  cases mode with
  | pcapDump | pcapDumpWithTrailer =>
    obtain ⟨_, _, decoded⟩ := wellFormed
    exact absurd decoded nofun
  | pcapngDump =>
    obtain ⟨_, _, decoded, _⟩ := wellFormed
    exact absurd decoded nofun

theorem pcapngPreamble_frames (short : info.Short) (snaplen : Nat) :
    pcapngFormat.Frames PcapngBlock.WellFormed
      (pcapngFormat.encodeAll [sectionHeaderBlock info, interfaceDescriptionBlock snaplen]) := by
  refine ⟨_, fun block member => ?_, rfl⟩
  simp only [List.mem_cons, List.not_mem_nil, or_false] at member
  rcases member with rfl | rfl
  · exact ⟨sectionHeaderBlock_fits short, sectionHeaderBlock_wellFormed info⟩
  · exact ⟨interfaceDescriptionBlock_fits snaplen, interfaceDescriptionBlock_wellFormed snaplen⟩

/-- Whole items behind the preamble make a complete file. -/
theorem preamble_parsesCompletely (short : info.Short) {items : Bytes}
    (got : pcapGetPreamble info dumper malloc = some preamble)
    (whole : WholeItems dumper.mode items) :
    ParsesCompletely dumper.mode (preamble ++ items) := by
  unfold pcapGetPreamble at got
  cases mode : dumper.mode with
  | pcapngDump =>
    rw [mode] at whole
    rw [if_pos mode, getPcapngPreamble_eq short] at got
    obtain rfl := Option.some.inj got
    exact ((pcapngPreamble_frames short dumper.snaplen).append whole).decodeAll
  | pcapDump | pcapDumpWithTrailer =>
    rw [mode] at whole
    rw [if_neg (mode ▸ nofun)] at got
    obtain rfl := Option.some.inj got
    obtain ⟨records, decoded, -⟩ := Format.Frames.decodeAll whole
    exact ⟨_, _, records, getPcapFileHeader_decode dumper items, decoded⟩

/-! ## The body of a response -/

/-- The header is sent with the first buffer, so a client that gets no buffer gets no file. -/
def downloaded (preamble : Bytes) (buffers : List Bytes) : Bytes :=
  if buffers = [] then [] else preamble ++ buffers.flatten

theorem chunkedBody_dechunk (header : preamble ≠ []) (nonempty : ∀ buffer ∈ buffers, buffer ≠ []) :
    dechunk (chunkedBody preamble buffers ++ lastChunk) = some (downloaded preamble buffers) := by
  unfold chunkedBody downloaded
  split
  next => exact dechunk_chunks [] nofun
  next =>
    refine dechunk_chunks (preamble :: buffers) fun data member => ?_
    grind

/-- What was written to a client that joined after `joined` of the buffers; `ending` follows
the body that is complete up to the last chunk. -/
structure Downloads (mimeType : String) (mode : PcapDumpMode) (preamble ending : Bytes)
    (buffers : List Bytes) (client : ClientHandler) : Prop where
  response : ∃ body, client.written = okResponse mimeType ++ (body ++ ending) ∧
    dechunk (body ++ lastChunk) = some (downloaded preamble (buffers.drop client.joined))
  parses : buffers.drop client.joined ≠ [] →
    ParsesCompletely mode (downloaded preamble (buffers.drop client.joined))

theorem Downloads.of_written (short : info.Short)
    {mimeType : String} {ending : Bytes}
    {client : ClientHandler} (got : pcapGetPreamble info dumper malloc = some preamble)
    (whole : ∀ buffer ∈ buffers, WholeBuffer dumper.mode buffer)
    (written : client.written = okResponse mimeType ++
      (chunkedBody preamble (buffers.drop client.joined) ++ ending)) :
    Downloads mimeType dumper.mode preamble ending buffers client := by
  have since : ∀ buffer ∈ buffers.drop client.joined, WholeBuffer dumper.mode buffer :=
    fun buffer member => whole buffer (List.mem_of_mem_drop member)
  obtain ⟨_, preambleIs, wellFormed⟩ := pcapGetPreamble_wellFormed short dumper malloc
  obtain rfl := Option.some.inj (got.symm.trans preambleIs)
  refine ⟨⟨_, written, ?_⟩, fun some => ?_⟩
  · exact chunkedBody_dechunk (wellFormedPreamble_ne_nil wellFormed)
      fun buffer member => (since buffer member).nonempty
  · rw [downloaded, if_neg some]
    exact preamble_parsesCompletely short got
      (WholeItems.flatten fun buffer member => (since buffer member).items)

/-! ## The downloads of a capture -/

/-- For every run of the server over the buffers of a dump, a client that became ready and was
added to the list, and whose writes succeeded, downloads the capture from the later of the two on,
up to the last chunk once it is closed. -/
theorem clients_download_capture {info : DeviceInfo} (short : info.Short) (appname : Int → Bytes)
    (mode : PcapDumpMode) (snaplen maxDumpSize : Nat) (malloc : Nat → UInt8)
    (calls : List Call) (now : UInt64) (valid : ∀ call ∈ calls, call.SecretsInPcapng mode)
    (mimeType : String) :
    ∃ dumper final preamble,
      performAll appname (pcapNewDumper mode snaplen maxDumpSize malloc) calls = some dumper ∧
      dumper.pcapDestroyDumper now = some final ∧
      dumper.config = (mode, snaplen, maxDumpSize) ∧
      (∀ live : Dumper, live.config = (mode, snaplen, maxDumpSize) →
        ∀ contents, pcapGetPreamble info live contents = some preamble) ∧
      WellFormedPreamble info mode preamble ∧
      (∀ buffer ∈ dumpedBuffers final.events, WholeBuffer mode buffer) ∧
      ∀ events : List ServerEvent,
        let server := run (HttpServer.step mimeType preamble) startDumper events
        server.dumped <+: dumpedBuffers final.events →
        (∀ client ∈ server.clients, client.readyForData = true → client.ioFailed = false →
          Downloads mimeType mode preamble [] server.dumped client) ∧
        ∀ client ∈ server.finished, client.readyForData = true → client.ioFailed = false →
          Downloads mimeType mode preamble lastChunk server.dumped client := by
  obtain ⟨dumper, final, performed, destroyed, configured, whole⟩ :=
    dumpedBuffers_whole appname mode snaplen maxDumpSize malloc calls now valid
  have fresh : (pcapNewDumper mode snaplen maxDumpSize malloc).config =
    (mode, snaplen, maxDumpSize) := rfl
  obtain ⟨preamble, got, wellFormed⟩ := pcapGetPreamble_wellFormed short
    (pcapNewDumper mode snaplen maxDumpSize malloc) malloc
  refine ⟨dumper, final, preamble, performed, destroyed, configured, fun live config contents =>
    (pcapGetPreamble_of_config short (config.trans fresh.symm) malloc contents).trans got,
    wellFormed, whole, fun events => ?_⟩
  intro server among
  have serving : Serving mimeType preamble server :=
    run_invariant (HttpServer.step mimeType preamble) (fun _ event serving => serving.step event)
      Serving.startDumper events
  have handled : ∀ buffer ∈ server.dumped, WholeBuffer mode buffer :=
    fun buffer member => whole buffer (among.subset member)
  refine ⟨fun client present ready unfailed => ?_, fun client present ready unfailed => ?_⟩
  · obtain ⟨-, -, -, written⟩ := (serving.clients client present).ready ready unfailed
    exact .of_written short got handled (by rw [List.append_nil]; exact written)
  · obtain ⟨-, complete⟩ := serving.finished client present ready unfailed
    exact .of_written short got handled (complete ready unfailed)

/-- A client downloads the one record of a capture. -/
theorem clients_download_record :
    ∃ preamble client,
      (run (HttpServer.step (mimeTypeOf false) preamble) startDumper
        [.accept "capture.pcap", .request none .capture none, .register,
          .dumpData [7, 0, 0, 0, 9, 0, 0, 0, 2, 0, 0, 0, 3, 0, 0, 0, 1, 2] fun _ => none,
          .stopDumper fun _ => none]).finished = [client] ∧
      Downloads (mimeTypeOf false) .pcapDump preamble lastChunk
        [[7, 0, 0, 0, 9, 0, 0, 0, 2, 0, 0, 0, 3, 0, 0, 0, 1, 2]] client := by
  obtain ⟨dumper, final, preamble, performed, destroyed, -, -, -, -, downloads⟩ :=
    clients_download_capture
      (⟨by decide, by decide, by decide⟩ : DeviceInfo.Short ⟨[80], [65], [49]⟩)
      (fun _ => []) .pcapDump 2 0 (fun _ => 0)
      [.dumpPacket 5 ⟨[1, 2, 3], ⟨7, 9⟩, 1000⟩] 6
      (fun call member => by cases List.mem_singleton.mp member; trivial) (mimeTypeOf false)
  have dumped : ((performAll (fun _ => []) (pcapNewDumper .pcapDump 2 0 fun _ => 0)
      [.dumpPacket 5 ⟨[1, 2, 3], ⟨7, 9⟩, 1000⟩]).bind fun dumper =>
        dumper.pcapDestroyDumper 6).map (fun final => dumpedBuffers final.events) =
      some [[7, 0, 0, 0, 9, 0, 0, 0, 2, 0, 0, 0, 3, 0, 0, 0, 1, 2]] := by decide
  rw [performed, Option.bind_some, destroyed, Option.map_some] at dumped
  obtain ⟨-, finished⟩ := downloads [.accept "capture.pcap", .request none .capture none,
    .register, .dumpData [7, 0, 0, 0, 9, 0, 0, 0, 2, 0, 0, 0, 3, 0, 0, 0, 1, 2] fun _ => none,
    .stopDumper fun _ => none] (by rw [Option.some.inj dumped]; exact List.prefix_rfl)
  exact ⟨preamble, _, rfl, finished _ (List.mem_singleton.mpr rfl) rfl rfl⟩

/-- A client that is ready before it is added to the list misses the buffer dumped in between.
As it gets no buffer it gets no header either.  A secret that is dumped in a PCAP capture puts a
PCAPNG block between its records. -/
theorem capture_without_header_or_with_block :
    (∃ client body,
      (run (HttpServer.step (mimeTypeOf false)
          (getPcapFileHeader (pcapNewDumper .pcapDump 2 0 fun _ => 0))) startDumper
        [.accept "capture.pcap", .request none .capture none,
          .dumpData [7, 0, 0, 0, 9, 0, 0, 0, 2, 0, 0, 0, 3, 0, 0, 0, 1, 2] fun _ => none,
          .register, .stopDumper fun _ => none]).finished = [client] ∧
      client.readyForData = true ∧ client.ioFailed = false ∧
      client.written = okResponse (mimeTypeOf false) ++ body ∧ dechunk body = some []) ∧
    ∃ buffer,
      ((performAll (fun _ => []) (pcapNewDumper .pcapDump 2 0 fun _ => 0)
        [.dumpSecret [65] (some fun _ => 0)]).bind fun dumper =>
          dumper.pcapDestroyDumper 6).map (fun final => dumpedBuffers final.events) =
        some [buffer] ∧
      Decoder.decodeAll PcapRecord.decode buffer = none :=
  ⟨⟨_, lastChunk, rfl, rfl, rfl, rfl, by decide⟩,
    [10, 0, 0, 0, 24, 0, 0, 0, 75, 83, 76, 84, 2, 0, 0, 0, 65, 10, 0, 0, 24, 0, 0, 0],
    by decide, by decide⟩

end PcapdroidFormal.Http
