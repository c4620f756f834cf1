import PcapdroidFormal.Foundation.Chunked
import PcapdroidFormal.Foundation.Runs

/-!
# The HTTP server

`HTTPServer` lets clients download the dump while it is written.  A pool thread
handles the request of a client; once that is done and the client is in the list
of the server, every buffer of the dump is sent to it in the chunked transfer
coding, behind the preamble of the capture.  Any write can fail, and a client is
then closed without the last chunk.
-/

namespace PcapdroidFormal.Http

open Foundation Foundation.Chunked

def maxClients : Nat := 8

def asciiBytes (text : String) : Bytes := text.toList.map fun letter => UInt8.ofNat letter.toNat

def mimeTypeOf (pcapngFormat : Bool) : String :=
  if pcapngFormat then "application/x-pcapng" else "application/vnd.tcpdump.pcap"

/-- The response to a request for the capture. -/
def okResponse (mimeType : String) : Bytes :=
  asciiBytes ("HTTP/1.1 200 OK\r\n" ++ "Content-Type: " ++ mimeType ++ "\r\n" ++
    "Connection: close\r\n" ++ "Transfer-Encoding: chunked\r\n" ++ "\r\n")

/-- The response to a request for the root. -/
def redirectResponse (fname : String) : Bytes :=
  asciiBytes ("HTTP/1.1 302 Found\r\n" ++ "Location: /" ++ fname ++ "\r\n" ++ "\r\n")

/-- What a call writes before an exception: everything, or the first bytes only. -/
abbrev Fault := Option Nat

/-- `ClientHandler`.  `written` is what went to the socket; `joined` is the number of buffers
dumped before the client was both ready and in the list, and `ioFailed` tells if a write has
failed. -/
structure ClientHandler where
  fname : String
  written : Bytes
  hasError : Bool
  readyForData : Bool
  headerSent : Bool
  isClosed : Bool
  joined : Nat
  ioFailed : Bool

namespace ClientHandler

def fresh (fname : String) : ClientHandler := ⟨fname, [], false, false, false, false, 0, false⟩

/-- Write to the socket. -/
def write (client : ClientHandler) (bytes : Bytes) (fault : Fault) : ClientHandler :=
  match fault with
  | none => { client with written := client.written ++ bytes }
  | some count =>
    { client with written := client.written ++ bytes.take count, ioFailed := true }

def closeWithError (client : ClientHandler) : ClientHandler :=
  if client.isClosed then client else { client with hasError := true, isClosed := true }

section

variable (client : ClientHandler)

@[simp] theorem closeWithError_readyForData :
    client.closeWithError.readyForData = client.readyForData := by
  unfold closeWithError
  split <;> rfl

@[simp] theorem closeWithError_ioFailed : client.closeWithError.ioFailed = client.ioFailed := by
  unfold closeWithError
  split <;> rfl

@[simp] theorem closeWithError_isClosed : client.closeWithError.isClosed = true := by
  unfold closeWithError
  split
  next closed => exact closed
  next => rfl

end

/-- `close(null)`: the chunked stream is terminated, and a failure to do so is ignored. -/
def close (client : ClientHandler) (fault : Fault) : ClientHandler :=
  if client.isClosed then client
  else if client.readyForData then { client.write lastChunk fault with isClosed := true }
  else { client with isClosed := true }

section

variable (client : ClientHandler)

@[simp] theorem write_readyForData (bytes : Bytes) (fault : Fault) :
    (client.write bytes fault).readyForData = client.readyForData := by
  cases fault <;> rfl

@[simp] theorem close_readyForData (fault : Fault) :
    (client.close fault).readyForData = client.readyForData := by
  unfold close
  split
  next => rfl
  next =>
    split
    next => exact write_readyForData client lastChunk fault
    next => rfl

@[simp] theorem close_isClosed (fault : Fault) : (client.close fault).isClosed = true := by
  unfold close
  split
  next closed => exact closed
  next => split <;> rfl

end

/-- `sendChunk`; `header` is what `CaptureService.getPcapHeader` returns. -/
def sendChunk (header : Bytes) (client : ClientHandler) (data : Bytes) (fault : Fault) :
    ClientHandler :=
  let first := if client.headerSent then [] else chunk header
  match fault with
  | none => { client.write (first ++ chunk data) none with headerSent := true }
  | some count =>
    { client.write (first ++ chunk data) (some count) with
      headerSent := client.headerSent || decide (first.length ≤ count) }.closeWithError

end ClientHandler

/-- How the pool thread fares with the request of a client. -/
inductive Request where
  | capture
  | root
  | bad

/-- `ClientHandler.run`, when `dumped` buffers have been dumped. -/
def ClientHandler.handleRequest (mimeType : String) (dumped : Nat) (client : ClientHandler)
    (request : Request) (fault : Fault) : ClientHandler :=
  if client.readyForData || client.isClosed then client
  else
    match request, fault with
    | .capture, none =>
      { client.write (okResponse mimeType) none with readyForData := true, joined := dumped }
    | .capture, some count => (client.write (okResponse mimeType) (some count)).closeWithError
    | .root, none => (client.write (redirectResponse client.fname) none).close none
    | .root, some count =>
      (client.write (redirectResponse client.fname) (some count)).closeWithError
    | .bad, _ => client.closeWithError

/-- `HTTPServer`.  `submitted` is the client that `run` has handed to the pool but not added to
`mClients` yet, `finished` are the clients that were removed from it, and `dumped` the buffers
handled so far. -/
structure HttpServer where
  submitted : Option ClientHandler
  clients : List ClientHandler
  finished : List ClientHandler
  dumped : List Bytes
  running : Bool

/-- The request of a client in the list, or of the submitted one. -/
inductive ServerEvent where
  | accept (fname : String)
  | register
  | request (index : Option Nat) (request : Request) (fault : Fault)
  | dumpData (data : Bytes) (faults : Nat → Fault)
  | stopDumper (faults : Nat → Fault)

namespace HttpServer

variable (mimeType : String) (header : Bytes) (server : HttpServer)

/-- `dumpData`: clients that are ready get the buffer, closed ones are removed. -/
def dumpData (data : Bytes) (faults : Nat → Fault) : HttpServer :=
  let served := server.clients.mapIdx fun index client =>
    if client.readyForData then client.sendChunk header data (faults index) else client
  { server with
    clients := served.filter (!·.isClosed)
    finished := server.finished ++ served.filter (·.isClosed)
    dumped := server.dumped ++ [data] }

/-- The end of `run`: clients that are not ready are interrupted, the others are closed. -/
def stopDumper (faults : Nat → Fault) : HttpServer :=
  let closed := server.clients.mapIdx fun index client =>
    if client.readyForData then client.close (faults index) else client.closeWithError
  { server with clients := [], finished := server.finished ++ closed, running := false }

/-- A client is accepted and handed to the pool. -/
def accept (fname : String) : HttpServer :=
  if maxClients ≤ server.clients.length then server
  else { server with submitted := some (.fresh fname) }

/-- `mClients.add`: the client may be ready by now. -/
def register (client : ClientHandler) : HttpServer :=
  { server with
    submitted := none
    clients := server.clients ++ [{ client with joined := server.dumped.length }] }

/-- The thread of the server accepts a client or ends only after it has added the one before.
Once it has ended, nothing happens to the server. -/
def step (event : ServerEvent) : HttpServer :=
  if server.running then
    match event, server.submitted with
    | .accept fname, none => server.accept fname
    | .register, some client => server.register client
    | .request none request fault, some client =>
      -- `joined` is set when the client is added
      { server with submitted := some (client.handleRequest mimeType 0 request fault) }
    | .request (some index) request fault, _ =>
      { server with
        clients := server.clients.modify index fun client =>
          client.handleRequest mimeType server.dumped.length request fault }
    | .dumpData data faults, _ => server.dumpData header data faults
    | .stopDumper faults, none => server.stopDumper faults
    | _, _ => server
  else server

end HttpServer

def startDumper : HttpServer := ⟨none, [], [], [], true⟩

/-! ## What a client has received -/

/-- The body of the response after some buffers. -/
def chunkedBody (header : Bytes) (buffers : List Bytes) : Bytes :=
  if buffers = [] then [] else (header :: buffers).flatMap chunk

theorem chunkedBody_snoc (header : Bytes) (buffers : List Bytes) (data : Bytes) :
    chunkedBody header (buffers ++ [data]) = chunkedBody header buffers ++
      ((if buffers = [] then chunk header else []) ++ chunk data) := by
  cases buffers with
  | nil => simp [chunkedBody]
  | cons buffer buffers => simp [chunkedBody]

section Server

variable (mimeType : String) (header : Bytes)

/-- A client in the list: it waits for its request, or it has received all buffers since. -/
structure Streaming (dumped : List Bytes) (client : ClientHandler) : Prop where
  waiting : client.readyForData = false → client.isClosed = false →
    client.written = [] ∧ client.headerSent = false
  ready : client.readyForData = true → client.ioFailed = false →
    client.isClosed = false ∧ client.joined ≤ dumped.length ∧
    client.headerSent = !(dumped.drop client.joined).isEmpty ∧
    client.written = okResponse mimeType ++ chunkedBody header (dumped.drop client.joined)

/-- A client that was closed without a failure after it was ready. -/
def Complete (dumped : List Bytes) (client : ClientHandler) : Prop :=
  client.readyForData = true → client.ioFailed = false →
    client.written = okResponse mimeType ++
      (chunkedBody header (dumped.drop client.joined) ++ lastChunk)

structure Serving (server : HttpServer) : Prop where
  /-- The submitted client has got no buffer. -/
  submitted : ∀ client ∈ server.submitted, Streaming mimeType header [] client
  clients : ∀ client ∈ server.clients, Streaming mimeType header server.dumped client
  finished : ∀ client ∈ server.finished, client.readyForData = true → client.ioFailed = false →
    server.running = false ∧ Complete mimeType header server.dumped client

variable {mimeType header} {dumped : List Bytes} {client : ClientHandler}

theorem Streaming.fresh (fname : String) : Streaming mimeType header dumped (.fresh fname) where
  waiting _ _ := ⟨rfl, rfl⟩
  ready := nofun

/-- A client that is added gets the buffers from now on. -/
theorem Streaming.register (streaming : Streaming mimeType header [] client)
    (dumped : List Bytes) :
    Streaming mimeType header dumped { client with joined := dumped.length } where
  waiting := streaming.waiting
  ready ready unfailed := by
    obtain ⟨opened, -, unsent, written⟩ := streaming.ready ready unfailed
    rw [List.drop_nil] at unsent written
    refine ⟨opened, Nat.le_refl _, ?_, ?_⟩
    · rw [List.drop_length]
      exact unsent
    · rw [List.drop_length]
      exact written

section

variable (streaming : Streaming mimeType header dumped client)
include streaming

/-- A client that is not ready does not get the buffer. -/
theorem Streaming.skip (data : Bytes) (waiting : client.readyForData = false) :
    Streaming mimeType header (dumped ++ [data]) client where
  waiting := streaming.waiting
  ready ready := absurd (waiting.symm.trans ready) nofun

theorem Streaming.sendChunk (data : Bytes) (fault : Fault) (isReady : client.readyForData = true) :
    Streaming mimeType header (dumped ++ [data]) (client.sendChunk header data fault) := by
  cases fault with
  | none =>
    refine ⟨fun waiting => absurd (isReady.symm.trans waiting) nofun, fun _ unfailed => ?_⟩
    obtain ⟨opened, joined, sent, written⟩ := streaming.ready isReady unfailed
    have since : (dumped ++ [data]).drop client.joined = dumped.drop client.joined ++ [data] :=
      List.drop_append_of_le_length joined
    refine ⟨opened, ?_, ?_, ?_⟩
    · rw [List.length_append]
      exact Nat.le_add_right_of_le joined
    · change true = !((dumped ++ [data]).drop client.joined).isEmpty
      rw [since]
      cases dumped.drop client.joined <;> rfl
    · change client.written ++ ((if client.headerSent = true then [] else chunk header) ++
        chunk data) = _ ++ chunkedBody header ((dumped ++ [data]).drop client.joined)
      rw [since, chunkedBody_snoc, written, sent, List.append_assoc]
      congr 3
      cases dumped.drop client.joined <;> rfl
  | some count =>
    have failed : (client.sendChunk header data (some count)).ioFailed = true :=
      ClientHandler.closeWithError_ioFailed _
    have kept : (client.sendChunk header data (some count)).readyForData = true :=
      (ClientHandler.closeWithError_readyForData _).trans isReady
    exact ⟨fun waiting => absurd (kept.symm.trans waiting) nofun,
      fun _ unfailed => absurd (failed.symm.trans unfailed) nofun⟩

end

/-- A client that is closed before it was ready never receives the capture. -/
theorem Streaming.of_unready (closed : client.isClosed = true)
    (unready : client.readyForData = false) : Streaming mimeType header dumped client where
  waiting _ opened := absurd (closed.symm.trans opened) nofun
  ready ready := absurd (unready.symm.trans ready) nofun

section

variable (streaming : Streaming mimeType header dumped client)
include streaming

theorem Streaming.handleRequest (request : Request) (fault : Fault) :
    Streaming mimeType header dumped
      (client.handleRequest mimeType dumped.length request fault) := by
  unfold ClientHandler.handleRequest
  split
  next => exact streaming
  next idle =>
    simp only [Bool.or_eq_true, not_or, Bool.not_eq_true] at idle
    obtain ⟨unready, opened⟩ := idle
    obtain ⟨nothing, unsent⟩ := streaming.waiting unready opened
    -- every other outcome closes a client that was not ready
    have closedNow (other : ClientHandler) (closed : other.isClosed = true)
        (same : other.readyForData = client.readyForData) :
        Streaming mimeType header dumped other := .of_unready closed (same.trans unready)
    cases request with
    | capture =>
      cases fault with
      | none =>
        refine ⟨nofun, fun _ _ => ⟨opened, Nat.le_refl _, ?_, ?_⟩⟩
        · change client.headerSent = !(dumped.drop dumped.length).isEmpty
          grind
        · change client.written ++ okResponse mimeType =
            okResponse mimeType ++ chunkedBody header (dumped.drop dumped.length)
          have empty : chunkedBody header [] = [] := rfl
          rw [nothing, List.drop_length, empty, List.nil_append, List.append_nil]
      | some count => exact closedNow _ (by simp) (by simp)
    | root => cases fault <;> exact closedNow _ (by simp) (by simp)
    | bad => exact closedNow _ (by simp) (by simp)

/-- A client that is ready is closed with the last chunk. -/
theorem Streaming.close (fault : Fault) (isReady : client.readyForData = true) :
    Complete mimeType header dumped (client.close fault) := by
  intro _ unfailed
  cases failed : client.ioFailed with
  | true =>
    -- an earlier failure is remembered
    have kept : (client.close fault).ioFailed = true := by
      unfold ClientHandler.close
      split
      next => exact failed
      next => cases fault <;> simp [isReady, ClientHandler.write, failed]
    exact absurd (kept.symm.trans unfailed) nofun
  | false =>
    obtain ⟨opened, -, -, written⟩ := streaming.ready isReady failed
    have closing : client.close fault = { client.write lastChunk fault with isClosed := true } := by
      simp [ClientHandler.close, opened, isReady]
    rw [closing] at unfailed ⊢
    cases fault with
    | none =>
      change client.written ++ lastChunk = _
      rw [written, List.append_assoc]
      rfl
    | some count => exact absurd unfailed nofun

end

/-! ## The server -/

theorem Serving.startDumper : Serving mimeType header startDumper := ⟨nofun, nofun, nofun⟩

variable {server : HttpServer}

/-- Every element of a modified list is an old one, or the image of an old one. -/
theorem mem_modify {α : Type} {change : α → α} {items : List α} {index : Nat} {item : α}
    (present : item ∈ items.modify index change) :
    item ∈ items ∨ ∃ old ∈ items, item = change old := by
  obtain ⟨position, found⟩ := List.mem_iff_getElem?.mp present
  grind

section

variable (serving : Serving mimeType header server)
include serving

theorem Serving.accept (fname : String) : Serving mimeType header (server.accept fname) := by
  unfold HttpServer.accept
  split
  next => exact serving
  next =>
    refine ⟨fun client present => ?_, serving.clients, serving.finished⟩
    obtain rfl := Option.some.inj present
    exact .fresh fname

theorem Serving.register (present : server.submitted = some client) :
    Serving mimeType header (server.register client) := by
  refine ⟨nofun, fun other member => ?_, serving.finished⟩
  rcases List.mem_append.mp member with old | new
  · exact serving.clients other old
  · obtain rfl := List.mem_singleton.mp new
    exact (serving.submitted client present).register server.dumped

theorem Serving.submittedRequest (present : server.submitted = some client) (request : Request)
    (fault : Fault) : Serving mimeType header { server with
      submitted := some (client.handleRequest mimeType 0 request fault) } := by
  refine ⟨fun other same => ?_, serving.clients, serving.finished⟩
  obtain rfl := Option.some.inj same
  exact (serving.submitted client present).handleRequest request fault

theorem Serving.request (index : Nat) (request : Request) (fault : Fault) :
    Serving mimeType header { server with
      clients := server.clients.modify index fun client =>
        client.handleRequest mimeType server.dumped.length request fault } := by
  refine ⟨serving.submitted, fun client present => ?_, serving.finished⟩
  rcases mem_modify present with old | ⟨old, member, rfl⟩
  · exact serving.clients client old
  · exact (serving.clients old member).handleRequest request fault

theorem Serving.dumpData (running : server.running = true) (data : Bytes) (faults : Nat → Fault) :
    Serving mimeType header (server.dumpData header data faults) := by
  have served : ∀ client ∈ server.clients.mapIdx fun index client =>
      if client.readyForData then client.sendChunk header data (faults index) else client,
      Streaming mimeType header (server.dumped ++ [data]) client := by
    intro client present
    obtain ⟨index, inside, rfl⟩ := List.mem_mapIdx.mp present
    have streaming := serving.clients _ (List.getElem_mem inside)
    split
    next ready => exact streaming.sendChunk data (faults index) ready
    next waiting => exact streaming.skip data (Bool.not_eq_true _ ▸ waiting)
  refine ⟨serving.submitted, fun client present => served client (List.mem_filter.mp present).1, ?_⟩
  intro client present ready unfailed
  rcases List.mem_append.mp present with old | new
  · exact absurd (running.symm.trans (serving.finished client old ready unfailed).1) nofun
  · -- a client is removed here only if it was never ready or a write failed
    obtain ⟨member, closed⟩ := List.mem_filter.mp new
    obtain ⟨opened, -⟩ := (served client member).ready ready unfailed
    exact absurd (closed.symm.trans opened) nofun

theorem Serving.stopDumper (running : server.running = true) (faults : Nat → Fault) :
    Serving mimeType header (server.stopDumper faults) := by
  refine ⟨serving.submitted, nofun, fun client present ready unfailed => ⟨rfl, ?_⟩⟩
  rcases List.mem_append.mp present with old | new
  · exact absurd (running.symm.trans (serving.finished client old ready unfailed).1) nofun
  · obtain ⟨index, inside, rfl⟩ := List.mem_mapIdx.mp new
    have streaming := serving.clients _ (List.getElem_mem inside)
    split at ready
    next isReady =>
      rw [if_pos isReady]
      exact streaming.close (faults index) isReady
    next waiting =>
      rw [ClientHandler.closeWithError_readyForData] at ready
      exact absurd ready waiting

end

theorem Serving.step (event : ServerEvent) (serving : Serving mimeType header server) :
    Serving mimeType header (server.step mimeType header event) := by
  unfold HttpServer.step
  split
  next running =>
    split
    next fname _ => exact serving.accept fname
    next client present => exact serving.register present
    next request fault client present => exact serving.submittedRequest present request fault
    next index request fault => exact serving.request index request fault
    next data faults => exact serving.dumpData running data faults
    next faults _ => exact serving.stopDumper running faults
    next => exact serving
  next => exact serving

end Server

end PcapdroidFormal.Http
