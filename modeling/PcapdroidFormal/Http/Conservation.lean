import PcapdroidFormal.Http.Reassembly
import PcapdroidFormal.Http.Server

/-!
# No byte is lost

Whatever the chunks are, `handleChunk` returns: it finds the chunks that it takes
out of its lists, and the slices that it takes of a payload are inside of it.
Without the chunked coding and without a content encoding, the bytes that were
passed to the listener and those that are still in the lists are the bytes of all
chunks, in their order.
-/

namespace PcapdroidFormal.Http

open Foundation Foundation.JavaText
open Register (PayloadChunk)

namespace HttpReassembly

def bytesOf (chunks : List PayloadChunk) : Bytes := chunks.flatMap (·.payload)

theorem bytesOf_append (chunks more : List PayloadChunk) :
    bytesOf (chunks ++ more) = bytesOf chunks ++ bytesOf more := List.flatMap_append

theorem bytesOf_singleton (chunk : PayloadChunk) : bytesOf [chunk] = chunk.payload :=
  List.flatMap_singleton ..

/-- The payloads that the listener was called with, the headers and the body. -/
def content (state : HttpReassembly) : Bytes :=
  state.reassembled.flatMap (·.payload) ++ (bytesOf state.headers ++ bytesOf state.body)

/-! ## Headers -/

def declaredEncoding (line : List Char) : Option ContentEncoding :=
  if startsWith line "content-encoding: " then encodingNamed (line.drop 18) else none

def declaredType (line : List Char) : Option (List Char) :=
  if startsWith line "content-type: " then some ((line.drop 14).takeWhile (· ≠ ';')) else none

def declaredLength (line : List Char) : Option Int :=
  if startsWith line "content-length: " then parseInt 10 (line.drop 16) else none

/-- A header line that asks to undo a coding. -/
def isCodingLine (line : List Char) : Bool :=
  decide (line = chunkedLine) || (declaredEncoding line).isSome

/-- The names of the headers differ in their ninth character. -/
theorem startsWith_ninth {line : List Char} {start : String} (starts : startsWith line start = true)
    (long : 8 < start.toList.length) : (line)[8]? = start.toList[8]? := by
  obtain ⟨rest, rfl⟩ := List.isPrefixOf_iff_prefix.mp starts
  exact List.getElem?_append_left long

/-- A line is one header at most, so each field depends on one header only. -/
theorem readHeaderLine_eq (state : HttpReassembly) (line : List Char) :
    state.readHeaderLine line = { state with
      contentEncoding := (declaredEncoding line).getD state.contentEncoding
      contentType := (declaredType line).or state.contentType
      contentLength := (declaredLength line).getD state.contentLength
      reassembleChunks := state.reassembleChunks && !startsWith line "upgrade: "
      chunkedEncoding := state.chunkedEncoding || decide (line = chunkedLine)
      headerLines := state.headerLines ++ [line] } := by
  have other (start : String) (long : 8 < start.toList.length)
      (differ : (line)[8]? ≠ start.toList[8]?) : startsWith line start = false :=
    Bool.eq_false_iff.mpr fun starts => differ (startsWith_ninth starts long)
  have unchunked (differ : (line)[8]? ≠ some '-') : ¬line = chunkedLine := by
    rintro rfl
    exact differ (by decide)
  unfold readHeaderLine readHeader declaredEncoding declaredType declaredLength
  split
  next starts =>
    have ninth := startsWith_ninth starts (by decide)
    rw [other "content-type: " (by decide) (by rw [ninth]; decide),
      other "content-length: " (by decide) (by rw [ninth]; decide),
      other "upgrade: " (by decide) (by rw [ninth]; decide)]
    cases encodingNamed (line.drop 18) <;> simp [unchunked (by rw [ninth]; decide)]
  next =>
    split
    next starts =>
      have ninth := startsWith_ninth starts (by decide)
      rw [other "content-length: " (by decide) (by rw [ninth]; decide),
        other "upgrade: " (by decide) (by rw [ninth]; decide)]
      simp [unchunked (by rw [ninth]; decide)]
    next =>
      split
      next starts =>
        have ninth := startsWith_ninth starts (by decide)
        rw [other "upgrade: " (by decide) (by rw [ninth]; decide)]
        cases parseInt 10 (line.drop 16) <;> simp [unchunked (by rw [ninth]; decide)]
      next =>
        split
        next starts =>
          have ninth := startsWith_ninth starts (by decide)
          simp [starts, unchunked (by rw [ninth]; decide)]
        next stays =>
          rw [Bool.eq_false_iff.mpr stays]
          split <;> simp [*]

/-- Two states with the same chunks. -/
structure SameChunks (first second : HttpReassembly) : Prop where
  readingHeaders : second.readingHeaders = first.readingHeaders
  headersSize : second.headersSize = first.headersSize
  headers : second.headers = first.headers
  body : second.body = first.body
  invalidHttp : second.invalidHttp = first.invalidHttp
  reassembled : second.reassembled = first.reassembled

/-- Two states with the same codings of the body. -/
def SameCoding (first second : HttpReassembly) : Prop :=
  second.chunkedEncoding = first.chunkedEncoding ∧ second.contentEncoding = first.contentEncoding

variable {platform : Platform} {state : HttpReassembly} {chunk : PayloadChunk}

section

variable (lines : List (List Char)) (state : HttpReassembly) (text : List Char)

theorem readRequestLine_eq :
    state.readRequestLine text = { state with
      path := ((readLine text).bind fun line => requestPath line.1).or state.path } := by
  unfold readRequestLine
  cases readLine text with
  | none => rfl
  | some line =>
    dsimp only [Option.bind_some]
    cases requestPath line.1 <;> rfl

/-- The last header of a kind counts. -/
theorem foldl_readHeaderLine :
    lines.foldl readHeaderLine state = { state with
      contentEncoding := lines.foldl (fun encoding line => (declaredEncoding line).getD encoding)
        state.contentEncoding
      contentType := lines.foldl (fun type line => (declaredType line).or type) state.contentType
      contentLength := lines.foldl (fun length line => (declaredLength line).getD length)
        state.contentLength
      reassembleChunks := state.reassembleChunks && lines.all (!startsWith · "upgrade: ")
      chunkedEncoding := state.chunkedEncoding || decide (chunkedLine ∈ lines)
      headerLines := state.headerLines ++ lines } := by
  induction lines generalizing state with
  | nil => simp
  | cons line lines ih =>
    rw [List.foldl_cons, ih, readHeaderLine_eq]
    simp [Bool.or_assoc, Bool.and_assoc, eq_comm]

theorem foldl_getD_of_none {α β : Type} {declared : α → Option β} {lines : List α}
    (silent : ∀ line ∈ lines, declared line = none) (value : β) :
    lines.foldl (fun value line => (declared line).getD value) value = value := by
  induction lines with
  | nil => rfl
  | cons line lines ih =>
    obtain ⟨here, others⟩ := List.forall_mem_cons.mp silent
    simpa [here] using ih others

/-- Lines that ask for no coding change none. -/
theorem foldl_readHeaderLine_coding {lines : List (List Char)}
    (plain : ∀ line ∈ lines, isCodingLine line = false) :
    SameCoding state (lines.foldl readHeaderLine state) := by
  simp only [isCodingLine, Bool.or_eq_false_iff, decide_eq_false_iff_not,
    Option.isSome_eq_false_iff, Option.isNone_iff_eq_none] at plain
  rw [foldl_readHeaderLine]
  refine ⟨?_, foldl_getD_of_none (fun line member => (plain line member).2) _⟩
  simpa using fun member => absurd rfl (plain chunkedLine member).1

/-- The path is read from the first part of the headers. -/
def pathAfter (state : HttpReassembly) (text : List Char) : Option (List Char) :=
  if state.headersSize = 0 then
    ((readLine text).bind fun line => requestPath line.1).or state.path
  else state.path

theorem parseHeaders_eq (size : Nat) :
    state.parseHeaders platform text size =
      ((leadingLines text).map platform.toLowerCase).foldl readHeaderLine { state with
          path := state.pathAfter text
          headersSize := state.headersSize + size } := by
  unfold parseHeaders readHeaderLines pathAfter
  rw [List.foldl_map, readRequestLine_eq]
  split <;> rfl

end

theorem parseHeaders_same (platform : Platform) (state : HttpReassembly) (text : List Char)
    (size : Nat) :
    SameChunks { state with headersSize := state.headersSize + size }
        (state.parseHeaders platform text size) ∧
      state.headerLines <+: (state.parseHeaders platform text size).headerLines ∧
      ((∀ line ∈ (state.parseHeaders platform text size).headerLines, isCodingLine line = false) →
        SameCoding state (state.parseHeaders platform text size)) := by
  rw [parseHeaders_eq]
  have read := foldl_readHeaderLine ((leadingLines text).map platform.toLowerCase)
    { state with
      path := state.pathAfter text
      headersSize := state.headersSize + size }
  refine ⟨read ▸ ⟨rfl, rfl, rfl, rfl, rfl, rfl⟩, read ▸ List.prefix_append _ _, fun plain => ?_⟩
  rw [read] at plain
  exact foldl_readHeaderLine_coding
    { state with
      path := state.pathAfter text
      headersSize := state.headersSize + size }
    fun line member => plain line (List.mem_append_right _ member)

structure HeadersRead (state : HttpReassembly) (chunk : PayloadChunk) (read : HttpReassembly)
    (bodyStart : Nat) : Prop where
  headers : bytesOf read.headers = bytesOf state.headers ++ chunk.payload.take bodyStart
  nonempty : read.headers ≠ []
  body : read.body = state.body
  reassembled : read.reassembled = state.reassembled
  reading : read.readingHeaders = true → state.readingHeaders = true ∧
    bodyStart = chunk.payload.length
  lines : state.headerLines <+: read.headerLines
  coding : (∀ line ∈ read.headerLines, isCodingLine line = false) → SameCoding state read

theorem findHeaders_read (platform : Platform)
    (ready : state.readingHeaders = false → state.headers ≠ []) (chunk : PayloadChunk) :
    ∃ read bodyStart,
      state.findHeaders platform chunk = some (read, bodyStart) ∧
      HeadersRead state chunk read bodyStart := by
  unfold findHeaders
  split
  next reading =>
    unfold readHeaders
    dsimp only
    generalize (if getEndOfHTTPHeaders chunk.payload = 0 then chunk.payload.length
      else getEndOfHTTPHeaders chunk.payload) = size
    obtain ⟨⟨-, -, headers, body, -, reassembled⟩, lines, coding⟩ :=
      parseHeaders_same platform state (platform.decode (chunk.payload.take size)) size
    generalize state.parseHeaders platform (platform.decode (chunk.payload.take size)) size = parsed
      at headers body reassembled lines coding ⊢
    split
    next found =>
      rw [subchunk_eq (Nat.le_trans (Nat.le_of_eq (Nat.zero_add _)) (getEndOfHTTPHeaders_le _))]
      refine ⟨_, _, rfl, ?_, by simp, body, reassembled, by simp, lines, coding⟩
      simp [headers, bytesOf_append, bytesOf_singleton]
    next =>
      refine ⟨_, _, rfl, ?_, by simp, ?_, ?_, fun _ => ⟨reading, rfl⟩, ?_, ?_⟩
      all_goals split
      all_goals simp_all [bytesOf_append, bytesOf_singleton, SameCoding]
  next reading =>
    have waiting : state.readingHeaders = false := Bool.not_eq_true _ ▸ reading
    refine ⟨state, 0, rfl, by simp, ready waiting, rfl, rfl, fun still => ?_,
      List.prefix_refl _, fun _ => ⟨rfl, rfl⟩⟩
    exact absurd still reading

/-- The end of the headers does not depend on what is behind it. -/
theorem endOfHeadersFrom_append {i : Nat} {buf : Bytes} (found : endOfHeadersFrom i buf ≠ 0)
    (rest : Bytes) : endOfHeadersFrom i (buf ++ rest) = endOfHeadersFrom i buf := by
  induction buf generalizing i with
  | nil => exact absurd rfl found
  | cons byte buf ih =>
    have bounds := endOfHeadersFrom_bounds found
    have same : (byte :: buf ++ rest).take 4 = (byte :: buf).take 4 :=
      List.take_append_of_le_length (by omega)
    rw [endOfHeadersFrom] at found ⊢
    rw [List.cons_append, endOfHeadersFrom, ← List.cons_append, same]
    split at found
    next ends => rw [if_pos ends, if_pos ends]
    next goesOn => rw [if_neg goesOn, if_neg goesOn, ih found]

/-- Headers that end in a chunk. -/
theorem findHeaders_whole {header rest : Bytes} (reading : state.readingHeaders = true)
    (ends : getEndOfHTTPHeaders header = header.length) (nonempty : header ≠ [])
    (shape : chunk.payload = header ++ rest) :
    state.findHeaders platform chunk = some
      ({ state.parseHeaders platform (platform.decode header) header.length with
        readingHeaders := false
        headers := state.headers ++ [{ chunk with payload := header }] }, header.length) := by
  have positive := List.length_pos_iff.mpr nonempty
  have found : getEndOfHTTPHeaders chunk.payload = header.length := by
    rw [shape]
    exact (endOfHeadersFrom_append (ends.trans_ne (Nat.ne_of_gt positive)) rest).trans ends
  have same := (parseHeaders_same platform state (platform.decode header) header.length).1.headers
  have part : (chunk.payload.drop 0).take header.length = header := by
    rw [List.drop_zero, shape, List.take_left]
  unfold findHeaders readHeaders
  simp only [reading, found, if_true, Nat.ne_of_gt positive, if_false, positive]
  rw [subchunk_eq (by rw [shape, List.length_append]; omega), part, shape, List.take_left,
    Option.map_some, same]

/-! ## Bodies -/

/-- A state between two calls: the body is empty while headers are read, and there are headers
when the body is read. -/
structure Ready (state : HttpReassembly) : Prop where
  body : state.readingHeaders = true → state.body = []
  headers : state.readingHeaders = false → state.headers ≠ []

/-- No coding of the body is to be undone. -/
def Uncoded (state : HttpReassembly) : Prop :=
  state.chunkedEncoding = false ∧ state.contentEncoding = .unknown

variable (platform : Platform)

theorem decodeBody_unknown (unknown : state.contentEncoding = .unknown)
    (payload : Bytes) : state.decodeBody platform payload = payload := if_pos unknown

theorem payloadAfter_unknown (unknown : state.contentEncoding = .unknown)
    (chunk : PayloadChunk) : state.payloadAfter platform chunk = chunk.payload := by
  simp [payloadAfter, decodeBody_unknown platform unknown]

/-- The listener is called with the headers and the body behind them. -/
theorem joinMessage_eq (nonempty : state.headers ≠ []) :
    ∃ message, state.joinMessage platform = some message ∧
      message.payload = bytesOf state.headers ++ (if state.body = [] then []
        else state.decodeBody platform (bytesOf state.body)) ∧
      message.contentType = state.contentType ∧ message.path = state.path := by
  obtain ⟨headers, joined, bytes⟩ := joinChunks_eq nonempty
  unfold joinMessage
  rw [joined]
  by_cases empty : state.body = []
  · simp [empty, bytes, bytesOf]
  · obtain ⟨body, added, content⟩ := joinChunks_eq empty
    simp [empty, added, bytes, content, bytesOf]

/-- A message is passed on if it is complete. -/
def PassedOn (state next : HttpReassembly) : Prop :=
  (state.isComplete = false ∧ next = state) ∨ state.isComplete = true ∧ ∃ message,
    next = { state with reassembled := state.reassembled ++ [message] }.reset ∧
    message.payload = bytesOf state.headers ++ bytesOf state.body ∧
    message.contentType = state.contentType ∧ message.path = state.path

theorem finishBody_passedOn (state : HttpReassembly)
    (unknown : state.contentEncoding = .unknown) (nonempty : state.headers ≠ [])
    (chunk : PayloadChunk) (start : Option Nat) :
    ∃ next, PassedOn state next ∧ state.finishBody platform chunk start = some (next,
      start.bind fun start => if start < chunk.payload.length then
        some { chunk with payload := chunk.payload.drop start } else none) := by
  obtain ⟨message, joined, payload, fields⟩ := joinMessage_eq platform nonempty
  have rest : state.restOf platform chunk start = some (start.bind fun start =>
      if start < chunk.payload.length then some { chunk with payload := chunk.payload.drop start }
      else none) := by
    cases start with
    | none => rfl
    | some start => rw [restOf_some, payloadAfter_unknown platform unknown]; rfl
  unfold finishBody passMessage
  rw [joined, rest]
  cases complete : state.isComplete with
  | false => exact ⟨state, .inl ⟨complete, rfl⟩, rfl⟩
  | true =>
    refine ⟨_, .inr ⟨complete, message, rfl, payload.trans ?_, fields⟩, rfl⟩
    rw [decodeBody_unknown platform unknown]
    split
    next empty => rw [empty]; rfl
    next => rfl

theorem passMessage_content (waiting : state.readingHeaders = false)
    (nonempty : state.headers ≠ []) :
    ∃ next, state.passMessage platform = some next ∧ next.Ready ∧
      next.headerLines = state.headerLines ∧
      (state.Uncoded → next.Uncoded ∧ next.content = state.content) := by
  unfold passMessage
  split
  · obtain ⟨message, joined, payload, -⟩ := joinMessage_eq platform nonempty
    rw [joined]
    refine ⟨_, rfl, ⟨fun _ => rfl, fun reading => by cases reading⟩, rfl, fun uncoded => ?_⟩
    refine ⟨⟨rfl, rfl⟩, ?_⟩
    rw [decodeBody_unknown platform uncoded.2] at payload
    by_cases empty : state.body = [] <;> simp [content, reset, payload, empty, bytesOf]
  · exact ⟨state, rfl, ⟨fun reading => absurd (waiting.symm.trans reading) (by simp),
      fun _ => nonempty⟩, rfl, fun uncoded => ⟨uncoded, rfl⟩⟩

theorem finishBody_content (state : HttpReassembly)
    (waiting : state.readingHeaders = false) (nonempty : state.headers ≠ [])
    (chunk : PayloadChunk) (start : Option Nat) :
    ∃ next rest, state.finishBody platform chunk start = some (next, rest) ∧ next.Ready ∧
      next.headerLines = state.headerLines ∧ (state.Uncoded → next.Uncoded ∧
        next.content ++ bytesOf rest.toList =
          state.content ++ (start.map chunk.payload.drop).getD []) := by
  obtain ⟨next, passed, ready, lines, kept⟩ := passMessage_content platform waiting nonempty
  unfold finishBody
  rw [passed]
  cases start with
  | none =>
    refine ⟨next, none, rfl, ready, lines, fun uncoded => ⟨(kept uncoded).1, ?_⟩⟩
    exact congrArg (· ++ []) (kept uncoded).2
  | some start =>
    refine ⟨next, _, congrArg (Option.bind · _) (restOf_some state chunk start), ready, lines,
      fun uncoded => ⟨(kept uncoded).1, ?_⟩⟩
    rw [(kept uncoded).2, payloadAfter_unknown platform uncoded.2]
    split
    · simp [bytesOf]
    next behind => simp [bytesOf, List.drop_eq_nil_of_le (Nat.not_lt.mp behind)]

/-- The part of a chunk has all bytes that are missing. -/
theorem addBody_whole {part : BodyPart} {data rest : Bytes} (nonempty : data ≠ [])
    (missing : state.contentLength = data.length)
    (shape : chunk.payload.drop part.start = data ++ rest)
    (size : part.size = (data ++ rest).length) :
    state.addBody chunk part = some
      ({ state with
        contentLength := -1
        body := state.body ++ [{ chunk with payload := data }] },
        some (part.start + data.length + if state.chunkedEncoding then 2 else 0)) := by
  have positive := List.length_pos_iff.mpr nonempty
  have length := congrArg List.length shape
  rw [List.length_drop] at length
  rw [List.length_append] at length size
  have ends : state.endsBody part = true := by
    simp only [endsBody, Bool.and_eq_true, decide_eq_true_eq]
    omega
  rw [addBody_eq (fun _ => by omega) (by omega), lengthAfter, newBodyStart, bodySize, if_pos ends,
    if_pos ends, if_pos ends, missing, shape, Int.toNat_natCast, List.take_left]

/-- The bytes that are added to the body are those in front of the next message. -/
theorem addBody_content (state : HttpReassembly) {part : BodyPart}
    (fits : part.Fits chunk.payload) :
    ∃ added start, state.addBody chunk part = some (added, start) ∧
      added.readingHeaders = state.readingHeaders ∧ added.headers = state.headers ∧
      added.headerLines = state.headerLines ∧ SameCoding state added ∧
      (state.Uncoded → added.content ++ (start.map chunk.payload.drop).getD [] =
        state.content ++ if 0 < part.size then chunk.payload.drop part.start else []) := by
  rcases Int.lt_or_le 0 part.size with positive | empty
  · refine ⟨_, _, addBody_eq fits positive, rfl, rfl, rfl, ⟨rfl, rfl⟩, fun uncoded => ?_⟩
    have split : (chunk.payload.drop part.start).take (state.bodySize part).toNat ++
        ((state.newBodyStart part).map chunk.payload.drop).getD [] =
        chunk.payload.drop part.start := by
      have reaches := fits positive
      unfold bodySize newBodyStart
      split
      · simp [uncoded.1, ← List.drop_drop]
      · rw [List.take_of_length_le (by rw [List.length_drop]; omega)]
        exact List.append_nil _
    rw [if_pos positive]
    refine Eq.trans ?_ (congrArg (state.content ++ ·) split)
    simp [content, bytesOf]
  · refine ⟨state, none, addBody_of_empty empty, rfl, rfl, rfl, ⟨rfl, rfl⟩, fun _ => ?_⟩
    rw [if_neg (Int.not_lt.mpr empty)]
    rfl

theorem readBody_content (state : HttpReassembly)
    (waiting : state.readingHeaders = false) (nonempty : state.headers ≠ [])
    (chunk : PayloadChunk) (bodyStart : Nat) :
    ∃ next rest, state.readBody platform chunk bodyStart = some (next, rest) ∧ next.Ready ∧
      next.headerLines = state.headerLines ∧ (state.Uncoded → next.Uncoded ∧
        next.content ++ bytesOf rest.toList =
          state.content ++ chunk.payload.drop bodyStart) := by
  have fits := findBody_fits platform state chunk.payload bodyStart
  have plain (uncoded : state.Uncoded) : state.findBody platform chunk.payload bodyStart =
      (state, ⟨bodyStart, chunk.payload.length - bodyStart, false⟩) := by
    simp [findBody, uncoded.1]
  have same : (state.findBody platform chunk.payload bodyStart).1.readingHeaders =
        state.readingHeaders ∧
      (state.findBody platform chunk.payload bodyStart).1.headers = state.headers ∧
      (state.findBody platform chunk.payload bodyStart).1.headerLines = state.headerLines := by
    unfold findBody
    dsimp only
    split <;> exact ⟨rfl, rfl, rfl⟩
  unfold readBody
  generalize state.findBody platform chunk.payload bodyStart = found at fits plain same ⊢
  obtain ⟨found, part⟩ := found
  obtain ⟨oldReading, oldHeaders, oldLines⟩ := same
  obtain ⟨added, start, addition, reading, headers, lines, coding, bytes⟩ :=
    addBody_content found fits
  obtain ⟨next, rest, finished, ready, kept, content⟩ :=
    finishBody_content platform (added.endChunked part.complete)
      ((reading.trans oldReading).trans waiting) (headers.trans oldHeaders ▸ nonempty) chunk start
  dsimp only at addition ⊢
  rw [addition]
  refine ⟨next, rest, finished, ready, kept.trans (lines.trans oldLines), fun uncoded => ?_⟩
  obtain ⟨rfl, rfl⟩ := Prod.mk.inj (plain uncoded)
  have unchunked : added.chunkedEncoding = false := coding.1.trans uncoded.1
  obtain ⟨next_uncoded, total⟩ := content
    ⟨by simp [endChunked, unchunked], coding.2.trans uncoded.2⟩
  refine ⟨next_uncoded, total.trans ((bytes uncoded).trans (congrArg _ ?_))⟩
  split
  next => rfl
  next empty => exact (List.drop_eq_nil_of_le (by simp at empty; omega)).symm

/-! ## Chunks -/

variable (ready : state.Ready)
include ready

theorem handleFirst_content (chunk : PayloadChunk) :
    ∃ next rest, state.handleFirst platform chunk = some (next, rest) ∧ next.Ready ∧
      state.headerLines <+: next.headerLines ∧
      ((∀ line ∈ next.headerLines, isCodingLine line = false) → state.Uncoded → next.Uncoded ∧
        next.content ++ bytesOf rest.toList = state.content ++ chunk.payload) := by
  obtain ⟨read, bodyStart, found, headers⟩ := findHeaders_read platform ready.headers chunk
  -- Headers are read in front of an empty body.
  have order : bytesOf state.body = [] ∨ bodyStart = 0 := by
    cases reading : state.readingHeaders with
    | true => exact .inl (by rw [ready.body reading]; rfl)
    | false =>
      simp only [findHeaders, reading, Bool.false_eq_true, if_false, Option.some.injEq] at found
      exact .inr (Prod.mk.inj found).2.symm
  have bytes : read.checkBounds.content ++ chunk.payload.drop bodyStart =
      state.content ++ chunk.payload := by
    have total := List.take_append_drop bodyStart chunk.payload
    have parts := headers.headers
    simp only [content, checkBounds, headers.reassembled, headers.body, parts]
    rcases order with empty | zero
    · simp [empty, total]
    · simp [zero]
  have coding (plain : ∀ line ∈ read.headerLines, isCodingLine line = false)
      (uncoded : state.Uncoded) : read.checkBounds.Uncoded :=
    ⟨(headers.coding plain).1.trans uncoded.1, (headers.coding plain).2.trans uncoded.2⟩
  unfold handleFirst
  rw [found]
  dsimp only [Option.bind_eq_bind, Option.bind_some]
  split
  next reading =>
    have still : read.readingHeaders = true := (Bool.and_eq_true_iff.mp reading).1
    obtain ⟨before, all⟩ := headers.reading still
    refine ⟨_, none, rfl, ⟨fun _ => headers.body.trans (ready.body before), fun waiting => ?_⟩,
      headers.lines, fun plain uncoded => ⟨coding plain uncoded, ?_⟩⟩
    · exact absurd (reading.symm.trans waiting) (by simp)
    · rw [← bytes, all, List.drop_length]
      rfl
  next waiting =>
    obtain ⟨next, rest, finished, after, lines, content⟩ := readBody_content platform
      read.checkBounds (Bool.not_eq_true _ ▸ waiting) headers.nonempty chunk bodyStart
    refine ⟨next, rest, finished, after, lines ▸ headers.lines, fun plain uncoded => ?_⟩
    obtain ⟨done, total⟩ := content (coding (lines ▸ plain) uncoded)
    exact ⟨done, total.trans bytes⟩

/-- A call returns, whatever the chunk is. -/
theorem handleChunk_content (chunk : PayloadChunk) :
    ∃ next, state.handleChunk platform chunk = some next ∧ next.Ready ∧
      state.headerLines <+: next.headerLines ∧
      ((∀ line ∈ next.headerLines, isCodingLine line = false) → state.Uncoded → next.Uncoded ∧
        next.content = state.content ++ chunk.payload) := by
  fun_induction handleChunk platform state chunk with
  | case1 state chunk failed =>
    obtain ⟨next, rest, first, -⟩ := handleFirst_content platform ready chunk
    exact absurd (failed.symm.trans first) (by simp)
  | case2 state chunk next found =>
    obtain ⟨_, _, first, after, lines, content⟩ := handleFirst_content platform ready chunk
    obtain ⟨rfl, rfl⟩ := Prod.mk.inj (Option.some.inj (first.symm.trans found))
    exact ⟨_, rfl, after, lines, fun plain uncoded => by simpa [bytesOf] using content plain uncoded⟩
  | case3 state chunk next rest found _ ih =>
    obtain ⟨_, _, first, after, lines, content⟩ := handleFirst_content platform ready chunk
    obtain ⟨rfl, rfl⟩ := Prod.mk.inj (Option.some.inj (first.symm.trans found))
    obtain ⟨final, handled, done, more, total⟩ := ih after
    refine ⟨final, handled, done, lines.trans more, fun plain uncoded => ?_⟩
    obtain ⟨between, bytes⟩ := content (fun line member => plain line (more.subset member)) uncoded
    obtain ⟨ends, rest⟩ := total plain between
    exact ⟨ends, rest.trans (by simpa [bytesOf] using bytes)⟩

theorem handleChunks_content (chunks : List PayloadChunk) :
    ∃ final, state.handleChunks platform chunks = some final ∧
      state.headerLines <+: final.headerLines ∧
      ((∀ line ∈ final.headerLines, isCodingLine line = false) → state.Uncoded →
        final.content = state.content ++ bytesOf chunks) := by
  induction chunks generalizing state with
  | nil => exact ⟨state, rfl, List.prefix_refl _, fun _ _ => (List.append_nil _).symm⟩
  | cons chunk chunks ih =>
    obtain ⟨next, first, after, lines, bytes⟩ := handleChunk_content platform ready chunk
    obtain ⟨final, rest, more, total⟩ := ih after
    refine ⟨final, ?_, lines.trans more, fun plain uncoded => ?_⟩
    · exact (congrArg (Option.bind · _) first).trans rest
    · obtain ⟨between, front⟩ := bytes (fun line member => plain line (more.subset member)) uncoded
      rw [total plain between, front, List.append_assoc]
      rfl

end HttpReassembly

/-- Without the chunked coding and a content encoding, the bytes that were passed on and those
that are kept are the bytes of all chunks; every call returns. -/
theorem reassembly_keeps_bytes (platform : Platform) (reassembleChunks : Bool)
    (chunks : List PayloadChunk) :
    ∃ final, (HttpReassembly.new reassembleChunks).handleChunks platform chunks = some final ∧
      ((∀ line ∈ final.headerLines, HttpReassembly.isCodingLine line = false) →
        final.reassembled.flatMap (·.payload) ++ (final.headers.flatMap (·.payload) ++
          final.body.flatMap (·.payload)) = chunks.flatMap (·.payload)) := by
  have ready : (HttpReassembly.new reassembleChunks).Ready := ⟨fun _ => rfl, fun reading => by
    cases reading⟩
  obtain ⟨final, handled, -, bytes⟩ := HttpReassembly.handleChunks_content platform ready chunks
  exact ⟨final, handled, fun plain => bytes plain ⟨rfl, rfl⟩⟩

/-- A platform for texts of ASCII characters, without decoders. -/
def asciiPlatform : Platform where
  decode bytes := bytes.map fun byte => Char.ofNat byte.toNat
  toLowerCase text := text.map Char.toLower
  decompress _ _ := none

def textChunk (text : String) : PayloadChunk := ⟨asciiBytes text, true, 0, .http⟩

theorem reassembly_keeps_request : ∃ final,
    (HttpReassembly.new true).handleChunks asciiPlatform
      [textChunk "GET /a HTTP/1.1\r\nContent-Length: 1\r\n\r\nx"] = some final ∧
    final.reassembled.flatMap (·.payload) ++ (final.headers.flatMap (·.payload) ++
      final.body.flatMap (·.payload)) =
        asciiBytes "GET /a HTTP/1.1\r\nContent-Length: 1\r\n\r\nx" := by
  obtain ⟨final, handled, bytes⟩ := reassembly_keeps_bytes asciiPlatform true
    [textChunk "GET /a HTTP/1.1\r\nContent-Length: 1\r\n\r\nx"]
  refine ⟨final, handled, (bytes ?_).trans (List.append_nil _)⟩
  have lines := congrArg (Option.map fun final => final.headerLines.all fun line =>
    !HttpReassembly.isCodingLine line) handled
  have plain : ((HttpReassembly.new true).handleChunks asciiPlatform
      [textChunk "GET /a HTTP/1.1\r\nContent-Length: 1\r\n\r\nx"]).map (fun final =>
        final.headerLines.all fun line => !HttpReassembly.isCodingLine line) = some true := by
    rw [HttpReassembly.handleChunks, List.foldlM_cons, HttpReassembly.handleChunk_eq]
    decide +kernel
  rw [plain, Option.map_some, Option.some.injEq, eq_comm, List.all_eq_true] at lines
  exact fun line member => Bool.not_eq_true' _ ▸ lines line member

end PcapdroidFormal.Http
