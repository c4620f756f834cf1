import PcapdroidFormal.Foundation.JavaText
import PcapdroidFormal.Register.Descriptor

/-!
# Reassembly of HTTP messages

`HTTPReassembly` collects the chunks of one direction of a connection and hands
each message to its listener as a whole.  The headers are parsed as they come, one
chunk at a time; the body ends after `Content-Length` bytes, or with the last chunk
of the chunked coding.  What is behind the end of a message is handled as a chunk of
its own.  `none` is an exception.
-/

namespace PcapdroidFormal.Http

open Foundation Foundation.JavaText
open Register (PayloadChunk ChunkType)

variable {start : Nat}

def maxHeadersSize : Nat := 1024

inductive ContentEncoding where
  | unknown
  | gzip
  | deflate
  | brotli
  deriving DecidableEq, Repr

/-- What depends on the platform: the default charset of `InputStreamReader`, the lower case
of the default locale, and the streams that undo a content encoding, which may fail with an
`IOException`. -/
structure Platform where
  decode : Bytes → List Char
  toLowerCase : List Char → List Char
  decompress : ContentEncoding → Bytes → Option Bytes

/-- `Utils.getEndOfHTTPHeaders`, from the position `i` on. -/
def endOfHeadersFrom (i : Nat) : Bytes → Nat
  | [] => 0
  | byte :: rest =>
      if (byte :: rest).take 4 = [13, 10, 13, 10] then i + 4 else endOfHeadersFrom (i + 1) rest

def getEndOfHTTPHeaders (buf : Bytes) : Nat := endOfHeadersFrom 0 buf

def startsWith (line : List Char) (start : String) : Bool := start.toList.isPrefixOf line

/-- A chunk that the listener is called with. -/
structure ReassembledChunk extends PayloadChunk where
  contentType : Option (List Char)
  path : Option (List Char)
  deriving DecidableEq

def subchunk (chunk : PayloadChunk) (start size : Nat) : Option PayloadChunk :=
  if start + size ≤ chunk.payload.length then
    some { chunk with payload := (chunk.payload.drop start).take size }
  else none

/-- `reassembleChunks`; the first chunk of an empty list does not exist. -/
def joinChunks : List PayloadChunk → Option PayloadChunk
  | [] => none
  | [chunk] => some chunk
  | chunk :: chunks =>
    some { chunk with payload := (chunk :: chunks).flatMap (·.payload) }

/-- `HTTPReassembly`.  `reassembled` are the chunks that the listener was called with, and
`headerLines` the header lines that were parsed, in lower case. -/
structure HttpReassembly where
  readingHeaders : Bool
  chunkedEncoding : Bool
  contentEncoding : ContentEncoding
  contentType : Option (List Char)
  path : Option (List Char)
  contentLength : Int
  headersSize : Nat
  headers : List PayloadChunk
  body : List PayloadChunk
  reassembleChunks : Bool
  invalidHttp : Bool
  reassembled : List ReassembledChunk
  headerLines : List (List Char)

namespace HttpReassembly

/-- The constructor. -/
def new (reassembleChunks : Bool) : HttpReassembly where
  readingHeaders := true
  chunkedEncoding := false
  contentEncoding := .unknown
  contentType := none
  path := none
  contentLength := -1
  headersSize := 0
  headers := []
  body := []
  reassembleChunks := reassembleChunks
  invalidHttp := false
  reassembled := []
  headerLines := []

variable (state : HttpReassembly)

def reset : HttpReassembly :=
  { state with
    readingHeaders := true
    contentEncoding := .unknown
    chunkedEncoding := false
    contentLength := -1
    contentType := none
    path := none
    headersSize := 0
    headers := []
    body := [] }

/-! ## Headers -/

/-- The path of a request, without the query. -/
def requestPath (line : List Char) : Option (List Char) :=
  if startsWith line "GET " || startsWith line "POST " || startsWith line "HEAD " ||
      startsWith line "PUT " then
    let target := (line.dropWhile (· ≠ ' ')).drop 1
    if ' ' ∈ target then some ((target.takeWhile (· ≠ ' ')).takeWhile (· ≠ '?')) else none
  else none

/-- Set the path of a request from its first line. -/
def readRequestLine (text : List Char) : HttpReassembly :=
  match readLine text with
  | none => state
  | some (line, _) =>
    match requestPath line with
    | none => state
    | some path => { state with path := some path }

def encodingNamed (name : List Char) : Option ContentEncoding :=
  if name = "gzip".toList then some .gzip
  else if name = "deflate".toList then some .deflate
  else if name = "br".toList then some .brotli
  else none

def chunkedLine : List Char := "transfer-encoding: chunked".toList

/-- The effect of a header line, in lower case. -/
def readHeader (line : List Char) : HttpReassembly :=
  if startsWith line "content-encoding: " then
    match encodingNamed (line.drop 18) with
    | none => state
    | some encoding => { state with contentEncoding := encoding }
  else if startsWith line "content-type: " then
    { state with contentType := some ((line.drop 14).takeWhile (· ≠ ';')) }
  else if startsWith line "content-length: " then
    match parseInt 10 (line.drop 16) with
    | none => state
    | some length => { state with contentLength := length }
  else if startsWith line "upgrade: " then { state with reassembleChunks := false }
  else if line = chunkedLine then { state with chunkedEncoding := true }
  else state

/-- One turn of the loop over the header lines. -/
def readHeaderLine (line : List Char) : HttpReassembly :=
  { state.readHeader line with headerLines := state.headerLines ++ [line] }

variable (platform : Platform)

def readHeaderLines (text : List Char) : HttpReassembly :=
  (leadingLines text).foldl (fun state line => state.readHeaderLine (platform.toLowerCase line))
    state

def parseHeaders (text : List Char) (size : Nat) : HttpReassembly :=
  let started := if state.headersSize = 0 then state.readRequestLine text else state
  { started with headersSize := state.headersSize + size }.readHeaderLines platform text

/-- Read the part of the headers that is in a chunk, and return where its body starts. -/
def readHeaders (chunk : PayloadChunk) : Option (HttpReassembly × Nat) :=
  let headersEnd := getEndOfHTTPHeaders chunk.payload
  let headersSize := if headersEnd = 0 then chunk.payload.length else headersEnd
  let parsed := state.parseHeaders platform (platform.decode (chunk.payload.take headersSize))
    headersSize
  if 0 < headersEnd then
    (subchunk chunk 0 headersEnd).map fun part =>
      ({ parsed with readingHeaders := false, headers := parsed.headers ++ [part] }, headersEnd)
  else
    let checked :=
      if maxHeadersSize < parsed.headersSize then
        { parsed with readingHeaders := false, reassembleChunks := false, invalidHttp := true }
      else parsed
    some ({ checked with headers := checked.headers ++ [chunk] }, chunk.payload.length)

/-- Without a way to tell the end of the body there is no reassembly, and each chunk is passed
to the listener. -/
def checkBounds : HttpReassembly :=
  let reassemble := state.reassembleChunks &&
    (state.readingHeaders || decide (0 ≤ state.contentLength) || state.chunkedEncoding)
  { state with
    reassembleChunks := reassemble
    readingHeaders := state.readingHeaders && reassemble }

/-! ## Body -/

/-- The length at the front of a chunk of the chunked coding, and the size of its line. -/
def readChunkLength (bytes : Bytes) : Option (Int × Nat) := do
  let (line, _) ← readLine (platform.decode bytes)
  let length ← parseInt 16 line
  some (length, line.length + 2)

/-- The part of a chunk that belongs to the body. -/
structure BodyPart where
  start : Nat
  size : Int
  complete : Bool

/-- Find the body in a chunk, behind the length of a chunk of the chunked coding. -/
def findBody (payload : Bytes) (bodyStart : Nat) : HttpReassembly × BodyPart :=
  let size : Int := payload.length - bodyStart
  let length :=
    if state.chunkedEncoding && decide (state.contentLength < 0) && decide (0 < size) then
      readChunkLength platform (payload.drop bodyStart)
    else none
  match length with
  | none => (state, ⟨bodyStart, size, false⟩)
  | some (length, lineSize) =>
    ({ state with contentLength := length },
      ⟨bodyStart + lineSize, size - lineSize, decide (length = 0)⟩)

def endsBody (part : BodyPart) : Bool :=
  decide (0 < state.contentLength) && decide (state.contentLength ≤ part.size)

/-- `body_size` without what is behind the end of the body. -/
def bodySize (part : BodyPart) : Int :=
  if state.endsBody part then state.contentLength else part.size

/-- The bytes that are missing behind a part of the body. -/
def lengthAfter (part : BodyPart) : Int :=
  if state.endsBody part then -1
  else if 0 < state.contentLength then state.contentLength - part.size
  else state.contentLength

/-- `new_body_start`; the chunked coding has a line end behind each chunk. -/
def newBodyStart (part : BodyPart) : Option Nat :=
  if state.endsBody part then
    some (part.start + state.contentLength.toNat + if state.chunkedEncoding then 2 else 0)
  else none

/-- Add a part of a chunk to the body, and return where the next message may start. -/
def addBody (chunk : PayloadChunk) (part : BodyPart) : Option (HttpReassembly × Option Nat) :=
  if 0 < part.size then do
    let size := state.bodySize part
    let added ←
      if part.start = 0 ∧ size = chunk.payload.length then some chunk
      else subchunk chunk part.start size.toNat
    some ({ state with contentLength := state.lengthAfter part, body := state.body ++ [added] },
      state.newBodyStart part)
  else some (state, none)

def decodeBody (payload : Bytes) : Bytes :=
  if state.contentEncoding = .unknown then payload
  else (platform.decompress state.contentEncoding payload).getD payload

/-- What the listener is called with: the headers, and the body behind them. -/
def joinMessage : Option ReassembledChunk := do
  let headers ← joinChunks state.headers
  let message ←
    if state.body = [] then some headers
    else (joinChunks state.body).map fun body =>
      { body with payload := headers.payload ++ state.decodeBody platform body.payload }
  some { message with
    type := if state.invalidHttp then .raw else message.type
    contentType := state.contentType
    path := state.path }

/-- The message is complete, or not reassembled. -/
def isComplete : Bool :=
  (decide (state.contentLength ≤ 0) || !state.reassembleChunks) && !state.chunkedEncoding

/-- Call the listener if the message is complete. -/
def passMessage : Option HttpReassembly :=
  if state.isComplete then
    (state.joinMessage platform).map fun message =>
      { state with reassembled := state.reassembled ++ [message] }.reset
  else some state

/-- The payload of a chunk after `decodeBody`, which replaces the payload of its argument: that
is the chunk itself if it is the only chunk of the body. -/
def payloadAfter (chunk : PayloadChunk) : Bytes :=
  if state.isComplete && decide (state.body = [chunk]) then state.decodeBody platform chunk.payload
  else chunk.payload

/-- What is behind the end of a message, which should be processed as a new chunk. -/
def restOf (chunk : PayloadChunk) : Option Nat → Option (Option PayloadChunk)
  | none => some none
  | some start =>
    let payload := state.payloadAfter platform chunk
    if start < payload.length then
      (subchunk { chunk with payload := payload } start (payload.length - start)).map some
    else some none

/-- The chunked coding is over, or not undone. -/
def endChunked (complete : Bool) : HttpReassembly :=
  { state with
    chunkedEncoding := state.chunkedEncoding && !complete && state.reassembleChunks }

/-- Pass the message on, and return what should be processed as a new chunk. -/
def finishBody (chunk : PayloadChunk) (newBodyStart : Option Nat) :
    Option (HttpReassembly × Option PayloadChunk) := do
  let passed ← state.passMessage platform
  let rest ← state.restOf platform chunk newBodyStart
  some (passed, rest)

/-- Read the body in a chunk, and return what should be processed as a new chunk. -/
def readBody (chunk : PayloadChunk) (bodyStart : Nat) :
    Option (HttpReassembly × Option PayloadChunk) := do
  let (found, part) := state.findBody platform chunk.payload bodyStart
  let (added, newBodyStart) ← found.addBody chunk part
  (added.endChunked part.complete).finishBody platform chunk newBodyStart

/-! ## Chunks -/

/-- Read the headers in a chunk, if there are any, and return where its body starts. -/
def findHeaders (chunk : PayloadChunk) : Option (HttpReassembly × Nat) :=
  if state.readingHeaders then state.readHeaders platform chunk else some (state, 0)

/-- `handleChunk` up to its recursive call, with the argument of that call. -/
def handleFirst (chunk : PayloadChunk) : Option (HttpReassembly × Option PayloadChunk) := do
  let (read, bodyStart) ← state.findHeaders platform chunk
  let checked := read.checkBounds
  if checked.readingHeaders then some (checked, none)
  else checked.readBody platform chunk bodyStart

/-! ## The parts of one call -/

end HttpReassembly

theorem subchunk_eq {chunk : PayloadChunk} {size : Nat}
    (fits : start + size ≤ chunk.payload.length) :
    subchunk chunk start size =
      some { chunk with payload := (chunk.payload.drop start).take size } := if_pos fits

theorem joinChunks_eq {chunks : List PayloadChunk} (nonempty : chunks ≠ []) :
    ∃ chunk, joinChunks chunks = some chunk ∧ chunk.payload = chunks.flatMap (·.payload) := by
  cases chunks with
  | nil => exact absurd rfl nonempty
  | cons chunk chunks =>
    cases chunks with
    | nil => exact ⟨chunk, rfl, by simp⟩
    | cons second chunks => exact ⟨_, rfl, rfl⟩

namespace HttpReassembly

variable {platform : Platform} {state : HttpReassembly} {chunk : PayloadChunk}
  {next : HttpReassembly} {part : BodyPart} {rest : PayloadChunk} {bodyStart : Nat}

theorem endOfHeadersFrom_bounds {i : Nat} {buf : Bytes} (found : endOfHeadersFrom i buf ≠ 0) :
    i + 4 ≤ endOfHeadersFrom i buf ∧ endOfHeadersFrom i buf ≤ i + buf.length := by
  fun_induction endOfHeadersFrom i buf with
  | case1 => exact absurd rfl found
  | case2 i byte rest ends =>
    have length := congrArg List.length ends
    simp only [List.length_take, List.length_cons, List.length_nil] at length ⊢
    omega
  | case3 i byte rest _ ih =>
    obtain ⟨lower, upper⟩ := ih found
    rw [List.length_cons]
    omega

theorem getEndOfHTTPHeaders_le (buf : Bytes) : getEndOfHTTPHeaders buf ≤ buf.length := by
  by_cases found : getEndOfHTTPHeaders buf = 0
  · omega
  · have := (endOfHeadersFrom_bounds found).2
    rwa [Nat.zero_add] at this

/-- A part that is not empty reaches to the end of the chunk. -/
def BodyPart.Fits (payload : Bytes) (part : BodyPart) : Prop :=
  0 < part.size → (part.start : Int) + part.size = payload.length

theorem findBody_fits (platform : Platform) (state : HttpReassembly) (payload : Bytes)
    (bodyStart : Nat) :
    (state.findBody platform payload bodyStart).2.Fits payload := by
  unfold findBody BodyPart.Fits
  dsimp only
  split
  · intro positive
    dsimp only at positive ⊢
    omega
  · intro positive
    dsimp only at positive ⊢
    push_cast
    omega

theorem bodySize_bounds (state : HttpReassembly) (positive : 0 < part.size) :
    0 < state.bodySize part ∧ state.bodySize part ≤ part.size := by
  unfold bodySize
  split
  next ends =>
    simp only [endsBody, Bool.and_eq_true, decide_eq_true_eq] at ends
    exact ends
  next => exact ⟨positive, Int.le_refl _⟩

/-- A part of a chunk is added as a slice of its payload, also if it is the whole chunk. -/
theorem addBody_eq (fits : part.Fits chunk.payload) (positive : 0 < part.size) :
    state.addBody chunk part = some ({ state with
        contentLength := state.lengthAfter part
        body := state.body ++ [{ chunk with
          payload := (chunk.payload.drop part.start).take (state.bodySize part).toNat }] },
        state.newBodyStart part) := by
  have reaches := fits positive
  obtain ⟨lower, upper⟩ := bodySize_bounds state positive
  unfold addBody
  rw [if_pos positive]
  dsimp only
  split
  next whole =>
    obtain ⟨start, size⟩ := whole
    have all : (chunk.payload.drop part.start).take (state.bodySize part).toNat =
        chunk.payload := by
      rw [start, List.drop_zero, size, Int.toNat_natCast, List.take_length]
    rw [all]
    rfl
  next =>
    rw [subchunk_eq (by omega)]
    rfl

theorem addBody_of_empty (empty : part.size ≤ 0) :
    state.addBody chunk part = some (state, none) := if_neg (Int.not_lt.mpr empty)

theorem newBodyStart_pos (found : state.newBodyStart part = some start) : 0 < start:= by
  unfold newBodyStart at found
  split at found
  next ends =>
    obtain rfl := Option.some.inj found
    simp only [endsBody, Bool.and_eq_true, decide_eq_true_eq] at ends
    omega
  next => cases found

theorem payloadAfter_cases (platform : Platform) (state : HttpReassembly)
    (chunk : PayloadChunk) :
    state.payloadAfter platform chunk = chunk.payload ∨ state.body = [chunk] := by
  unfold payloadAfter
  split
  next replaced =>
    simp only [Bool.and_eq_true, decide_eq_true_eq] at replaced
    exact .inr replaced.2
  next => exact .inl rfl

theorem restOf_none (state : HttpReassembly) (chunk : PayloadChunk) :
    state.restOf platform chunk none = some none := rfl

theorem restOf_some (state : HttpReassembly) (chunk : PayloadChunk) (start : Nat) :
    state.restOf platform chunk (some start) = some
      (if start < (state.payloadAfter platform chunk).length then
        some { chunk with payload := (state.payloadAfter platform chunk).drop start }
      else none) := by
  unfold restOf
  dsimp only
  split
  next inside =>
    rw [subchunk_eq (Nat.le_of_eq (Nat.add_sub_cancel' (Nat.le_of_lt inside)))]
    dsimp only
    rw [List.take_of_length_le (Nat.le_of_eq (List.length_drop ..))]
    rfl
  next => rfl

/-- The listener is called with the message, or nothing happens. -/
theorem passMessage_cases (passed : state.passMessage platform = some next) :
    (state.isComplete = true ∧ ∃ message, state.joinMessage platform = some message ∧
      next = { state with reassembled := state.reassembled ++ [message] }.reset) ∨
    state.isComplete = false ∧ next = state := by
  unfold passMessage at passed
  split at passed
  next complete =>
    obtain ⟨message, joined, rfl⟩ := Option.map_eq_some_iff.mp passed
    exact .inl ⟨complete, message, joined, rfl⟩
  next incomplete =>
    exact .inr ⟨Bool.not_eq_true _ ▸ incomplete, (Option.some.inj passed).symm⟩

/-! ## Termination

What is processed as a new chunk is shorter, unless `decodeBody` has replaced the payload of
the chunk.  It can do so in the first call only: later the headers of another message are read,
or the body has a chunk already. -/

/-- The payload of a chunk may be replaced by `decodeBody`. -/
def mayReplace (state : HttpReassembly) : Nat :=
  if state.readingHeaders = false ∧ state.body = [] then 1 else 0

theorem readBody_decreases
    (read : state.readBody platform chunk bodyStart = some (next, some rest)) :
    next.mayReplace = 0 ∧ (rest.payload.length < chunk.payload.length ∨
      bodyStart = 0 ∧ state.body = [] ∧ chunk.payload ≠ []) := by
  have fits := findBody_fits platform state chunk.payload bodyStart
  have start_le : bodyStart ≤ (state.findBody platform chunk.payload bodyStart).2.start := by
    unfold findBody
    dsimp only
    split
    · exact Nat.le_refl _
    · exact Nat.le_add_right _ _
  have same : (state.findBody platform chunk.payload bodyStart).1.body = state.body := by
    unfold findBody
    dsimp only
    split <;> rfl
  unfold readBody at read
  generalize state.findBody platform chunk.payload bodyStart = found at fits start_le same read
  obtain ⟨found, part⟩ := found
  dsimp only at fits start_le same read
  rcases Int.lt_or_le 0 part.size with positive | empty
  · rw [addBody_eq fits positive] at read
    simp only [finishBody, Option.bind_eq_bind, Option.bind_some, Option.bind_eq_some_iff,
      Option.some.injEq, Prod.mk.injEq] at read
    obtain ⟨passed, pass, left, behind, rfl, rfl⟩ := read
    refine ⟨?_, ?_⟩
    · -- The message was passed on, or its body has a chunk.
      unfold mayReplace
      refine if_neg fun replace => ?_
      rcases passMessage_cases pass with ⟨-, message, -, rfl⟩ | ⟨-, rfl⟩
      · exact absurd replace.1 (by simp [reset])
      · exact absurd replace.2 (by simp [endChunked])
    · cases ends : found.newBodyStart part with
      | none =>
        rw [ends, restOf_none] at behind
        cases behind
      | some start =>
        rw [ends, restOf_some, Option.some.injEq] at behind
        split at behind
        next inside =>
          obtain rfl := Option.some.inj behind
          rcases payloadAfter_cases platform (endChunked _ part.complete) chunk with
            kept | alone
          · rw [kept] at inside ⊢
            have := newBodyStart_pos ends
            exact .inl (by rw [List.length_drop]; omega)
          · obtain ⟨first, single⟩ := List.append_eq_singleton_iff.mp alone |>.resolve_right
              fun other => absurd other.2 (List.cons_ne_nil _ _)
            have length := congrArg (·.payload.length) (List.singleton_inj.mp single)
            have reaches := fits positive
            have bounds := bodySize_bounds found positive
            simp only [List.length_take, List.length_drop] at length
            refine .inr ⟨by omega, same ▸ first, fun empty => ?_⟩
            rw [empty, List.length_nil] at reaches
            omega
        next => cases behind
  · rw [addBody_of_empty empty] at read
    simp only [finishBody, Option.bind_eq_bind, Option.bind_some, Option.bind_eq_some_iff,
      Option.some.injEq, Prod.mk.injEq, restOf_none] at read
    obtain ⟨passed, pass, left, behind, rfl, rfl⟩ := read

/-- Reading headers keeps the body, and its start is not the start of the chunk. -/
theorem readHeaders_start {read : HttpReassembly}
    (headers : state.readHeaders platform chunk = some (read, bodyStart)) :
    bodyStart ≤ chunk.payload.length ∧ (bodyStart = 0 → chunk.payload = []) := by
  unfold readHeaders at headers
  dsimp only at headers
  split at headers
  next found =>
    obtain ⟨part, -, same⟩ := Option.map_eq_some_iff.mp headers
    obtain ⟨-, rfl⟩ := Prod.mk.inj same
    exact ⟨getEndOfHTTPHeaders_le _, fun zero => absurd zero (Nat.ne_of_gt found)⟩
  next =>
    obtain ⟨-, rfl⟩ := Prod.mk.inj (Option.some.inj headers)
    exact ⟨Nat.le_refl _, List.eq_nil_of_length_eq_zero⟩

theorem handleFirst_decreases (first : state.handleFirst platform chunk = some (next, some rest)) :
    Prod.Lex (· < ·) (· < ·) (next.mayReplace, rest.payload.length)
      (state.mayReplace, chunk.payload.length) := by
  unfold handleFirst at first
  simp only [Option.bind_eq_bind, Option.bind_eq_some_iff, Prod.exists] at first
  obtain ⟨read, bodyStart, headers, first⟩ := first
  split at first
  next => cases first
  next =>
    obtain ⟨zero, shorter | ⟨rfl, alone, nonempty⟩⟩ := readBody_decreases first
    · rw [zero]
      rcases Nat.eq_zero_or_pos state.mayReplace with same | more
      · rw [same]
        exact Prod.Lex.right _ shorter
      · exact Prod.Lex.left _ _ more
    · have more : state.mayReplace = 1 := by
        unfold findHeaders at headers
        split at headers
        next => exact absurd ((readHeaders_start headers).2 rfl) nonempty
        next reading =>
          obtain ⟨rfl, -⟩ := Prod.mk.inj (Option.some.inj headers)
          exact if_pos ⟨Bool.not_eq_true _ ▸ reading, alone⟩
      rw [zero, more]
      exact Prod.Lex.left _ _ Nat.zero_lt_one

def handleChunk (platform : Platform) (state : HttpReassembly) (chunk : PayloadChunk) :
    Option HttpReassembly :=
  match first : state.handleFirst platform chunk with
  | none => none
  | some (next, none) => some next
  | some (next, some rest) =>
    have := handleFirst_decreases first
    handleChunk platform next rest
termination_by (state.mayReplace, chunk.payload.length)
decreasing_by assumption

theorem handleChunk_eq (platform : Platform) (state : HttpReassembly) (chunk : PayloadChunk) :
    state.handleChunk platform chunk = (state.handleFirst platform chunk).bind fun first =>
      match first.2 with
      | none => some first.1
      | some rest => first.1.handleChunk platform rest := by
  rw [handleChunk]
  split <;> simp [*]

/-- The chunks of a connection, one after the other. -/
def handleChunks (platform : Platform) (state : HttpReassembly) (chunks : List PayloadChunk) :
    Option HttpReassembly :=
  chunks.foldlM (fun state chunk => state.handleChunk platform chunk) state

end HttpReassembly

end PcapdroidFormal.Http
