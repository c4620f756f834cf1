import PcapdroidFormal.Http.Conservation
import PcapdroidFormal.Foundation.JavaInt

/-!
# Bodies in the chunked coding

The lengths of the chunks are read in place of `Content-Length`.  The last one is
zero, and then nothing tells where the body ends: the line end behind it and all
that follows is added to the body, and the next message is not found.
-/

namespace PcapdroidFormal.Http

open Foundation Foundation.JavaText
open Foundation.Chunked
open Register (PayloadChunk)

variable {pieces : List (JavaArray UInt8)} {message : ReassembledChunk} {value : Nat}
  {header : Bytes} {chunk : PayloadChunk} {platform : Platform} {rest : Bytes}

/-! ## Lengths -/

def asciiText (bytes : Bytes) : List Char := bytes.map fun byte => Char.ofNat byte.toNat

theorem digit_hexDigit (small : value < 16) :
    digit 16 (Char.ofNat (hexDigit value).toNat) = some value := by
  have all : ∀ value : Fin 16, digit 16 (Char.ofNat (hexDigit value.val).toNat) =
    some value.val := by decide
  exact all ⟨value, small⟩

theorem digitsValue_hexDigits {digits : List Nat} (small : ∀ value ∈ digits, value < 16)
    (sofar : Nat) : digitsValue 16 sofar (asciiText (digits.map hexDigit)) =
      some (digits.foldl (fun value digit => 16 * value + digit) sofar) := by
  induction digits generalizing sofar with
  | nil => rfl
  | cons value digits ih =>
    obtain ⟨first, others⟩ := List.forall_mem_cons.mp small
    change (digit 16 (Char.ofNat (hexDigit value).toNat)).bind _ = _
    rw [digit_hexDigit first]
    exact ih others _

/-- The digits of a length, most significant first. -/
theorem hexText_digits (value : Nat) : ∃ digits, hexText value = digits.map hexDigit ∧
    digits ≠ [] ∧ (∀ digit ∈ digits, digit < 16) ∧
    digits.foldl (fun value digit => 16 * value + digit) 0 = value := by
  unfold hexText
  split
  next zero => exact ⟨[0], rfl, by simp, by simp, zero.symm⟩
  next positive =>
    refine ⟨_, rfl, ?_, fun digit member => ?_, ?_⟩
    · rwa [Ne, List.reverse_eq_nil_iff, Nat.digits_eq_nil_iff_eq_zero]
    · exact Nat.digits_lt_base (by decide) (List.mem_reverse.mp member)
    · rw [foldl_reverse_digits, Nat.ofDigits_digits]

theorem unsigned_hexText (value : Nat) : unsigned 16 (asciiText (hexText value)) = some value := by
  obtain ⟨digits, text, nonempty, small, total⟩ := hexText_digits value
  rw [text, unsigned, if_neg (by simpa [asciiText] using nonempty),
    digitsValue_hexDigits small, total]

theorem parseInt_hexText (small : value < 2 ^ 31) :
    parseInt 16 (asciiText (hexText value)) = some (value : Int) := by
  have read := unsigned_hexText value
  unfold parseInt
  split
  next letters text =>
    rw [text] at read
    exact absurd read (by simp [unsigned, digitsValue, show digit 16 '-' = none from by decide])
  next letters text =>
    rw [text] at read
    exact absurd read (by simp [unsigned, digitsValue, show digit 16 '+' = none from by decide])
  next =>
    simp only [read, Option.filter_some, small, decide_true, if_true]
    rfl

theorem hexText_bytes (value : Nat) : ∀ byte ∈ hexText value, byte < 128 ∧
    isLineEnd (Char.ofNat byte.toNat) = false := by
  obtain ⟨digits, text, -, small, -⟩ := hexText_digits value
  have all : ∀ digit : Fin 16, hexDigit digit.val < 128 ∧
    isLineEnd (Char.ofNat (hexDigit digit.val).toNat) = false := by decide
  rw [text]
  intro byte member
  obtain ⟨digit, inside, rfl⟩ := List.mem_map.mp member
  exact all ⟨digit, small digit inside⟩

namespace HttpReassembly

variable {platform : Platform} {state : HttpReassembly} {chunk : PayloadChunk} {bodyStart : Nat}
  {rest : Bytes}

/-- A length is read in front of its line end. -/
theorem readChunkLength_hexText (ascii : AsciiCompatible platform.decode)
    (small : value < 2 ^ 31) (rest : Bytes) :
    readChunkLength platform (hexText value ++ (crlf ++ rest)) =
      some ((value : Int), (hexText value).length + 2) := by
  have text : platform.decode (hexText value ++ (crlf ++ rest)) =
      asciiText (hexText value) ++ '\r' :: '\n' :: platform.decode rest := by
    rw [ascii.append fun byte member => (hexText_bytes value byte member).1,
      @AsciiCompatible.append _ ascii crlf (by simp [crlf])]
    rfl
  have line : ∀ letter ∈ asciiText (hexText value), isLineEnd letter = false := by
    intro letter member
    obtain ⟨byte, inside, rfl⟩ := List.mem_map.mp member
    exact (hexText_bytes value byte inside).2
  simp only [readChunkLength, text, readLine_crlf line, Option.bind_eq_bind, Option.bind_some,
    parseInt_hexText small]
  simp [asciiText]

/-- The body of a message is read in the chunked coding, at the start of a chunk of it. -/
structure InChunks (state : HttpReassembly) : Prop where
  reading : state.readingHeaders = false
  chunked : state.chunkedEncoding = true
  length : state.contentLength = -1
  encoding : state.contentEncoding = .unknown
  headers : state.headers ≠ []

theorem findBody_chunked (ascii : AsciiCompatible platform.decode) (chunked : state.InChunks)
    (small : value < 2 ^ 31) {payload : Bytes}
    (shape : payload.drop bodyStart = hexText value ++ (crlf ++ rest)) :
    state.findBody platform payload bodyStart = ({ state with contentLength := value },
      ⟨bodyStart + ((hexText value).length + 2), rest.length, decide (value = 0)⟩) := by
  have length := congrArg List.length shape
  simp only [List.length_drop, List.length_append, crlf, List.length_cons,
    List.length_nil] at length
  have positive : (0 : Int) < payload.length - bodyStart := by omega
  unfold findBody
  simp only [chunked.chunked, chunked.length, positive, shape,
    readChunkLength_hexText ascii small, decide_true, Bool.and_self, if_true,
    (by decide : decide ((-1 : Int) < 0) = true)]
  refine congrArg (Prod.mk _) ?_
  simp only [BodyPart.mk.injEq, true_and, Int.natCast_eq_zero, and_true]
  push_cast
  omega

theorem handleFirst_inChunks (chunked : state.InChunks) :
    state.handleFirst platform chunk = state.readBody platform chunk 0 := by
  have same : state.checkBounds = state := by
    obtain ⟨reading, chunked, -⟩ := chunked
    cases state
    simp_all [checkBounds]
  unfold handleFirst findHeaders
  simp only [chunked.reading, Bool.false_eq_true, if_false, Option.bind_eq_bind, Option.bind_some,
    same]

variable (ascii : AsciiCompatible platform.decode)
include ascii

/-- A chunk that is not the last one. -/
theorem readBody_piece (chunked : state.InChunks) {data : Bytes} (nonempty : data ≠ [])
    (small : data.length < 2 ^ 31) (more : rest ≠ [])
    (shape : chunk.payload.drop bodyStart = Chunked.chunk data ++ rest) :
    ∃ next, state.readBody platform chunk bodyStart =
        some (next, some { chunk with payload := rest }) ∧
      (next.reassembled = state.reassembled →
        next = { state with body := state.body ++ [{ chunk with payload := data }] }) := by
  have positive := List.length_pos_iff.mpr nonempty
  have left := List.length_pos_iff.mpr more
  simp only [Chunked.chunk, List.append_assoc] at shape
  have found := findBody_chunked ascii chunked small shape
  have behind : chunk.payload.drop (bodyStart + ((hexText data.length).length + 2)) =
      data ++ (crlf ++ rest) := by
    rw [← List.drop_drop, shape, ← List.append_assoc]
    exact List.drop_left' (by simp [crlf])
  have start : chunk.payload.drop (bodyStart + ((hexText data.length).length + 2) +
      data.length + 2) = rest := by
    rw [← List.drop_drop, ← List.drop_drop, behind, List.drop_left]
    rfl
  have inside := congrArg List.length start
  rw [List.length_drop] at inside
  unfold readBody
  rw [found]
  dsimp only
  rw [addBody_whole nonempty rfl behind rfl]
  obtain ⟨next, passed, finished⟩ := finishBody_passedOn platform
    (endChunked { state with
      contentLength := -1
      body := state.body ++ [{ chunk with payload := data }] } (decide (data.length = 0)))
    chunked.encoding chunked.headers chunk
    (some (bodyStart + ((hexText data.length).length + 2) + data.length + 2))
  refine ⟨next, ?_, fun same => ?_⟩
  · simp only [Option.bind_eq_bind, Option.bind_some, chunked.chunked, if_true] at finished ⊢
    rw [start, if_pos (by omega)] at finished
    exact finished
  · obtain ⟨-, isChunked, length, -⟩ := chunked
    rcases passed with ⟨incomplete, rfl⟩ | ⟨-, message, rfl, -⟩
    · cases state
      simp_all [endChunked, isComplete]
    · simp [reset, endChunked] at same

/-- The last chunk takes all that follows into the body. -/
theorem readBody_last (chunked : state.InChunks)
    (shape : chunk.payload.drop bodyStart = lastChunk ++ rest) :
    ∃ next message, state.readBody platform chunk bodyStart = some (next, none) ∧
      next.reassembled = state.reassembled ++ [message] ∧
      message.payload = bytesOf state.headers ++ (bytesOf state.body ++ (crlf ++ rest)) := by
  simp only [lastChunk, List.append_assoc] at shape
  have found := findBody_chunked ascii chunked (by decide : 0 < 2 ^ 31) shape
  have fits := findBody_fits platform state chunk.payload bodyStart
  have behind : chunk.payload.drop (bodyStart + ((hexText 0).length + 2)) = crlf ++ rest := by
    rw [← List.drop_drop, shape]
    rfl
  rw [found] at fits
  unfold readBody
  rw [found]
  dsimp only at fits ⊢
  rw [addBody_eq fits (by simp [crlf]; omega)]
  simp only [lengthAfter, bodySize, newBodyStart, endsBody, Int.natCast_zero, Int.lt_irrefl,
    decide_false, Bool.false_and, Bool.false_eq_true, if_false, behind, Int.toNat_natCast,
    List.take_length]
  obtain ⟨next, passed, finished⟩ := finishBody_passedOn platform
    (endChunked { state with
      contentLength := ((0 : Nat) : Int)
      body := state.body ++ [{ chunk with payload := crlf ++ rest }] } (decide (0 = 0)))
    chunked.encoding chunked.headers chunk none
  rcases passed with ⟨incomplete, -⟩ | ⟨-, message, rfl, payload, -⟩
  · simp [endChunked, isComplete] at incomplete
  · exact ⟨_, message, finished, rfl, payload.trans (by simp [endChunked, bytesOf])⟩

end HttpReassembly

/-! ## The first message -/

inductive FirstMessage (platform : Platform) :
    HttpReassembly → PayloadChunk → ReassembledChunk → Bytes → Prop
  | passed {state next : HttpReassembly} {chunk : PayloadChunk} {left : Option PayloadChunk}
      {message : ReassembledChunk} :
      state.handleFirst platform chunk = some (next, left) →
      next.reassembled = state.reassembled ++ [message] →
      FirstMessage platform state chunk message (left.toList.flatMap (·.payload))
  | later {state next : HttpReassembly} {chunk rest : PayloadChunk} {left : Bytes}
      {message : ReassembledChunk} :
      state.handleFirst platform chunk = some (next, some rest) →
      next.reassembled = state.reassembled →
      FirstMessage platform next rest message left →
      FirstMessage platform state chunk message left

open HttpReassembly

/-- Behind the last chunk nothing is left, and behind the others too much. -/
theorem firstMessage_chunked (ascii : AsciiCompatible platform.decode)
    (nonempty : ∀ piece ∈ pieces, piece.items ≠ []) {start state : HttpReassembly}
    (chunked : state.InChunks) (same : start.reassembled = state.reassembled) {bodyStart : Nat}
    (first : start.handleFirst platform chunk = state.readBody platform chunk bodyStart)
    (shape : chunk.payload.drop bodyStart =
      pieces.flatMap (fun piece => Chunked.chunk piece.items) ++ (lastChunk ++ rest))
    (found : FirstMessage platform start chunk message rest) :
    message.payload ≠ bytesOf state.headers ++ (bytesOf state.body ++
      pieces.flatMap (·.items)) := by
  induction pieces generalizing start state chunk bodyStart with
  | nil =>
    obtain ⟨after, emitted, read, added, payload⟩ := readBody_last ascii chunked shape
    cases found with
    | passed handled passed =>
      obtain ⟨rfl, rfl⟩ := Prod.mk.inj (Option.some.inj (handled.symm.trans (first.trans read)))
      rw [added, same] at passed
      obtain ⟨rfl⟩ := List.append_cancel_left passed
      simp [payload, crlf]
    | later handled _ _ =>
      have := (Prod.mk.inj (Option.some.inj (handled.symm.trans (first.trans read)))).2
      cases this
  | cons piece pieces ih =>
    obtain ⟨here, others⟩ := List.forall_mem_cons.mp nonempty
    rw [List.flatMap_cons, List.append_assoc] at shape
    obtain ⟨after, read, kept⟩ :=
      readBody_piece ascii chunked here piece.bound (by simp [lastChunk, crlf]) shape
    cases found with
    | passed handled _ =>
      have left := (Prod.mk.inj (Option.some.inj (handled.symm.trans (first.trans read)))).2
      have length := congrArg (fun left => (left.toList.flatMap (·.payload)).length) left
      simp [lastChunk, crlf] at length
      omega
    | later handled unchanged found =>
      obtain ⟨rfl, next⟩ := Prod.mk.inj (Option.some.inj (handled.symm.trans (first.trans read)))
      obtain rfl := Option.some.inj next
      obtain rfl := kept (unchanged.trans same)
      have chunked : InChunks { state with
          body := state.body ++ [{ chunk with payload := piece.items }] } :=
        ⟨chunked.reading, chunked.chunked, chunked.length, chunked.encoding, chunked.headers⟩
      have behind := ih others chunked rfl (handleFirst_inChunks chunked) rfl found
      simpa [bytesOf] using behind

/-! ## Whole messages -/

/-- The header lines of a text, as they are compared. -/
def headerLinesOf (platform : Platform) (header : Bytes) : List (List Char) :=
  (leadingLines (platform.decode header)).map platform.toLowerCase

/-- The headers of a message in the chunked coding. -/
structure ChunkedHead (platform : Platform) (header : Bytes) : Prop where
  ends : getEndOfHTTPHeaders header = header.length
  nonempty : header ≠ []
  chunked : chunkedLine ∈ headerLinesOf platform header
  noLength : ∀ line ∈ headerLinesOf platform header, startsWith line "content-length: " = false
  noEncoding : ∀ line ∈ headerLinesOf platform header,
    startsWith line "content-encoding: " = false

/-- A chunk with a message whose body is in the chunked coding, and what is behind it. -/
def chunkedMessage (header : Bytes) (pieces : List (JavaArray UInt8)) (rest : Bytes) : Bytes :=
  header ++ (pieces.flatMap (fun piece => Chunked.chunk piece.items) ++ (lastChunk ++ rest))

/-- The body is read behind the headers. -/
theorem handleFirst_chunkedHead (head : ChunkedHead platform header)
    (shape : chunk.payload = header ++ rest) :
    ∃ state : HttpReassembly, state.InChunks ∧ state.reassembled = [] ∧ bytesOf state.headers = header ∧
      state.body = [] ∧ (HttpReassembly.new true).handleFirst platform chunk =
        state.readBody platform chunk header.length := by
  have length : (headerLinesOf platform header).foldl
      (fun length line => (declaredLength line).getD length) (-1) = -1 :=
    foldl_getD_of_none (fun line member => by simp [declaredLength, head.noLength line member]) _
  have encoding : (headerLinesOf platform header).foldl
      (fun encoding line => (declaredEncoding line).getD encoding) .unknown = .unknown :=
    foldl_getD_of_none
      (fun line member => by simp [declaredEncoding, head.noEncoding line member]) _
  unfold handleFirst
  rw [findHeaders_whole rfl head.ends head.nonempty shape, parseHeaders_eq,
    foldl_readHeaderLine]
  simp only [new, Option.bind_eq_bind, Option.bind_some, checkBounds, Bool.false_and,
    Bool.false_eq_true, if_false]
  exact ⟨_, ⟨rfl, (Bool.false_or _).trans (decide_eq_true head.chunked), length, encoding, by simp⟩, rfl,
    by simp [bytesOf], rfl, rfl⟩

theorem firstMessage_chunkedMessage (ascii : AsciiCompatible platform.decode)
    (head : ChunkedHead platform header) (nonempty : ∀ piece ∈ pieces, piece.items ≠ [])
    (shape : chunk.payload = chunkedMessage header pieces rest)
    (found : FirstMessage platform (.new true) chunk message rest) :
    message.payload ≠ header ++ pieces.flatMap (·.items) := by
  obtain ⟨state, chunked, passed, headers, body, first⟩ := handleFirst_chunkedHead head shape
  have differ := firstMessage_chunked ascii nonempty chunked passed.symm first
    (by rw [shape, chunkedMessage, List.drop_left]) found
  rwa [headers, body] at differ

/-- A body in the chunked coding is never decoded exactly. -/
theorem chunked_body_not_decoded {platform : Platform} (ascii : AsciiCompatible platform.decode)
    {header : Bytes} (head : ChunkedHead platform header) {pieces : List (JavaArray UInt8)}
    (nonempty : ∀ piece ∈ pieces, piece.items ≠ []) (rest : Bytes) {chunk : PayloadChunk}
    (shape : chunk.payload = chunkedMessage header pieces rest) :
    ¬∃ message, FirstMessage platform (.new true) chunk message rest ∧
      message.payload = header ++ pieces.flatMap (·.items) := by
  rintro ⟨message, found, payload⟩
  exact firstMessage_chunkedMessage ascii head nonempty shape found payload

def chunkedReply : Bytes := asciiBytes "HTTP/1.1 200 OK\r\nTransfer-Encoding: chunked\r\n\r\n"

def onePiece : List (JavaArray UInt8) := [⟨asciiBytes "abc", by decide⟩]

theorem asciiPlatform_ascii : AsciiCompatible asciiPlatform.decode :=
  ⟨rfl, fun _ _ _ _ => by simp [asciiPlatform]⟩

theorem chunkedReply_head : ChunkedHead asciiPlatform chunkedReply := by
  constructor <;> decide +kernel

/-- The listener is not called with the headers and "abc". -/
theorem chunked_reply_not_decoded :
    ¬∃ message, FirstMessage asciiPlatform (.new true)
      ⟨chunkedMessage chunkedReply onePiece [], false, 0, .http⟩ message [] ∧
      message.payload = chunkedReply ++ asciiBytes "abc" := by
  rintro ⟨message, found, payload⟩
  exact firstMessage_chunkedMessage asciiPlatform_ascii chunkedReply_head (by decide) rfl found
    (payload.trans (by decide))

theorem chunked_pipeline_not_decoded :
    ¬∃ message, FirstMessage asciiPlatform (.new true)
      ⟨chunkedMessage chunkedReply onePiece chunkedReply, false, 0, .http⟩ message chunkedReply ∧
      message.payload = chunkedReply ++ onePiece.flatMap (·.items) :=
  chunked_body_not_decoded asciiPlatform_ascii chunkedReply_head (by decide) chunkedReply rfl

end PcapdroidFormal.Http
