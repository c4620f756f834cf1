import PcapdroidFormal.Dns.Bounds

/-!
# DNS responses on the wire

The responses of the DNS protocol and their encoding: names are labels that end with the root
or with a pointer to an earlier name.  The names are told by their label lengths, so a label
may hold any bytes.
-/

namespace PcapdroidFormal.Dns

open PcapdroidFormal.Core (Host ZdtunIp sizeofDnsPacket)
open Foundation

variable {cursor : Cursor} {rest : Bytes}

/-! ## Messages -/

structure Label where
  bytes : Bytes
  nonempty : 0 < bytes.length
  short : bytes.length ≤ 63

def Label.encode (label : Label) : Bytes := UInt8.ofNat label.bytes.length :: label.bytes

/-- Labels, and a pointer of 14 bits if the name does not end with the root. -/
structure WireName where
  labels : List Label
  pointer : Option (Fin 16384)

namespace WireName

/-- The end of a name. -/
def encodeEnd : Option (Fin 16384) → Bytes
  | none => [0]
  | some offset => [UInt8.ofNat (0xc0 + offset.val / 256), UInt8.ofNat (offset.val % 256)]

def encode (name : WireName) : Bytes := name.labels.flatMap Label.encode ++ encodeEnd name.pointer

/-- Pointers lead to earlier bytes of the message. -/
def placed (name : WireName) (position : Nat) : Bool :=
  name.pointer.all fun offset => decide (offset.val < position)

/-- The only zero byte of the encoded name is its last. -/
def EndsAtZero (name : WireName) : Prop :=
  (∀ label ∈ name.labels, (0 : UInt8) ∉ label.bytes) ∧
    ∀ offset ∈ name.pointer, offset.val % 256 = 0

/-- The labels have neither a zero byte nor a byte `0xc0`, but for the last one before the root,
and a pointer has the first byte `0xc0` or the second byte zero. -/
def EndsAtStop (name : WireName) : Prop :=
  (∀ label ∈ name.labels, (0 : UInt8) ∉ label.bytes) ∧
    match name.pointer with
    | none => (0xc0 : UInt8) ∉ (name.labels.flatMap Label.encode).dropLast
    | some offset => (∀ label ∈ name.labels, (0xc0 : UInt8) ∉ label.bytes) ∧
        (offset.val < 256 ∨ offset.val % 256 = 0)

end WireName

structure Question where
  name : WireName
  qtype : UInt16
  qclass : UInt16

def Question.encode (question : Question) : Bytes :=
  question.name.encode ++
    (Bytes.bigEndian 2 question.qtype.toNat ++ Bytes.bigEndian 2 question.qclass.toNat)

structure ResourceRecord where
  name : WireName
  type : UInt16
  «class» : UInt16
  ttl : UInt32
  rdata : Bytes
  short : rdata.length < 65536

namespace ResourceRecord

variable (record : ResourceRecord)

/-- The type, the class, the TTL and the length of the data. -/
def fixed : Bytes :=
  Bytes.bigEndian 2 record.type.toNat ++ (Bytes.bigEndian 2 record.«class».toNat ++
    (Bytes.bigEndian 4 record.ttl.toNat ++ Bytes.bigEndian 2 record.rdata.length))

def encode : Bytes := record.name.encode ++ (record.fixed ++ record.rdata)

/-- The address of an A record with 4 bytes of data or of an AAAA record with 16. -/
def address : Option ZdtunIp :=
  if (record.type = 1 ∧ record.rdata.length = 4) ∨ (record.type = 28 ∧ record.rdata.length = 16)
  then some (rspAddr record.rdata) else none

end ResourceRecord

structure Response where
  id : UInt16
  flags : UInt16
  questions : List Question
  answers : List ResourceRecord
  authority : UInt16
  additional : UInt16
  records : Bytes
  isResponse : flags.toNat &&& 0x8000 = 0x8000
  fewQuestions : questions.length < 65536
  fewAnswers : answers.length < 65536

namespace Response

variable (response : Response)

def header : Bytes :=
  Bytes.bigEndian 2 response.id.toNat ++ (Bytes.bigEndian 2 response.flags.toNat ++
    (Bytes.bigEndian 2 response.questions.length ++ (Bytes.bigEndian 2 response.answers.length ++
      (Bytes.bigEndian 2 response.authority.toNat ++
        Bytes.bigEndian 2 response.additional.toNat))))

def encode : Bytes :=
  response.header ++ (response.questions.flatMap Question.encode ++
    (response.answers.flatMap ResourceRecord.encode ++ response.records))

/-- The positions of encoded parts that follow each other. -/
def positions (position : Nat) : List Bytes → List Nat
  | [] => []
  | part :: parts => position :: positions (position + part.length) parts

/-- Every pointer leads to an earlier offset. -/
def placed : Bool :=
  let names := response.questions.map Question.name ++ response.answers.map ResourceRecord.name
  let parts := response.questions.map Question.encode ++
    response.answers.map ResourceRecord.encode
  (names.zip (positions sizeofDnsPacket parts)).all fun entry => entry.1.placed entry.2

/-- The message is at the start of a payload. -/
def FitsIn (l7 : Memory) : Prop := ∃ rest, l7.slice 0 l7.size = response.encode ++ rest

/-- The names that the parser finds the end of. -/
def NamesFound : Prop :=
  (∀ question ∈ response.questions, question.name.EndsAtZero) ∧
    ∀ record ∈ response.answers.take maxReplies, record.name.EndsAtStop

/-- What there is to learn from a response. -/
def addresses : List ZdtunIp := (response.answers.take maxReplies).filterMap ResourceRecord.address

end Response

/-! ## Names -/

theorem Label.length_byte (label : Label) :
    UInt8.ofNat label.bytes.length ≠ 0 ∧ UInt8.ofNat label.bytes.length ≠ 0xc0 := by
  have value : (UInt8.ofNat label.bytes.length).toNat = label.bytes.length := by
    exact Nat.mod_eq_of_lt (Nat.lt_of_le_of_lt label.short (by decide))
  have low := label.nonempty
  have high := label.short
  constructor
  · intro zero
    rw [zero] at value
    grind
  · intro pointer
    rw [pointer] at value
    grind

/-- A byte that is in no label and no length of one. -/
theorem notMem_labels {labels : List Label} {byte : UInt8}
    (length : ∀ label : Label, UInt8.ofNat label.bytes.length ≠ byte)
    (absent : ∀ label ∈ labels, byte ∉ label.bytes) :
    byte ∉ labels.flatMap Label.encode := by
  intro member
  obtain ⟨label, inside, encoded⟩ := List.mem_flatMap.mp member
  rcases List.mem_cons.mp encoded with first | content
  · exact length label first.symm
  · exact absent label inside content

theorem WireName.pointer_byte (offset : Fin 16384) :
    (UInt8.ofNat (0xc0 + offset.val / 256)).toNat = 0xc0 + offset.val / 256 := by
  rw [UInt8.toNat_ofNat']
  omega

theorem WireName.pointer_ne_zero (offset : Fin 16384) :
    UInt8.ofNat (0xc0 + offset.val / 256) ≠ 0 := by
  intro zero
  have value := pointer_byte offset
  rw [zero, UInt8.toNat_zero] at value
  omega

/-- The parser skips such a name of a question, with its type and class. -/
theorem Question.skipped {question : Question} (ends : question.name.EndsAtZero) :
    SkippedQuery question.encode := by
  obtain ⟨labels, pointers⟩ := ends
  have noZero : (0 : UInt8) ∉ question.name.labels.flatMap Label.encode :=
    notMem_labels (fun label => label.length_byte.1) labels
  have trailer : (Bytes.bigEndian 2 question.qtype.toNat ++
      Bytes.bigEndian 2 question.qclass.toNat).length = 4 := by simp
  have plain {text : Bytes} (absent : (0 : UInt8) ∉ text) :
      ∀ byte ∈ text, (byte == 0) = false := by
    grind
  cases pointer : question.name.pointer with
  | none =>
    refine ⟨_, _, plain noZero, trailer, ?_⟩
    rw [encode, WireName.encode, pointer, WireName.encodeEnd, List.append_assoc]
    rfl
  | some offset =>
    have low := pointers offset pointer
    have high := WireName.pointer_ne_zero offset
    have absent : (0 : UInt8) ∉ question.name.labels.flatMap Label.encode ++
        [UInt8.ofNat (0xc0 + offset.val / 256)] := by
      grind
    refine ⟨_, _, plain absent, trailer, ?_⟩
    rw [encode, WireName.encode, pointer, WireName.encodeEnd, low, List.append_assoc,
      List.append_assoc]
    rfl

/-- The parser skips such a name of an answer. -/
theorem WireName.skipped {name : WireName} (ends : name.EndsAtStop) : SkippedName name.encode := by
  obtain ⟨zeros, stops⟩ := ends
  have noZero : (0 : UInt8) ∉ name.labels.flatMap Label.encode :=
    notMem_labels (fun label => label.length_byte.1) zeros
  have plain {front : Bytes} (noZero : (0 : UInt8) ∉ front) (noPointer : (0xc0 : UInt8) ∉ front) :
      ∀ byte ∈ front, endsName byte = false := by
    intro byte member
    rw [Bool.eq_false_iff]
    intro stopped
    rcases endsName_eq stopped with rfl | rfl
    · exact noZero member
    · exact noPointer member
  unfold encode
  cases pointer : name.pointer with
  | none =>
    rw [pointer] at stops
    generalize name.labels.flatMap Label.encode = text at noZero stops
    have inside := fun member => noZero (List.mem_of_mem_dropLast member)
    by_cases last : (0xc0 : UInt8) ∈ text
    · -- the loop breaks at the last byte of the labels and skips the root with it
      refine ⟨text.dropLast, plain inside stops, .inr ⟨0, ?_⟩⟩
      obtain ⟨front, byte, rfl⟩ := List.eq_nil_or_concat text |>.resolve_left
        (List.ne_nil_of_mem last)
      grind [encodeEnd]
    · exact ⟨text, plain noZero last, .inl rfl⟩
  | some offset =>
    rw [pointer] at stops
    obtain ⟨labels, ends⟩ := stops
    have noPointer : (0xc0 : UInt8) ∉ name.labels.flatMap Label.encode :=
      notMem_labels (fun label => label.length_byte.2) labels
    by_cases small : offset.val < 256
    · refine ⟨_, plain noZero noPointer, .inr ⟨UInt8.ofNat (offset.val % 256), ?_⟩⟩
      rw [encodeEnd, Nat.div_eq_of_lt small]
      rfl
    · -- the first byte of the pointer is passed, and its second one is the zero
      have first := pointer_ne_zero offset
      have other : UInt8.ofNat (0xc0 + offset.val / 256) ≠ 0xc0 := by
        intro same
        have value := pointer_byte offset
        rw [same, show (0xc0 : UInt8).toNat = 192 from rfl] at value
        omega
      refine ⟨name.labels.flatMap Label.encode ++ [UInt8.ofNat (0xc0 + offset.val / 256)],
        plain ?_ ?_, .inl ?_⟩
      · grind
      · grind
      · rw [encodeEnd, ends.resolve_left small, List.append_assoc]
        rfl

/-! ## Records -/

namespace ResourceRecord

variable (record : ResourceRecord)

theorem length_fixed : record.fixed.length = 10 := by
  simp [fixed]

theorem recordType_fixed : recordType record.fixed = record.type.toNat := by
  have front : record.fixed.take 2 = Bytes.bigEndian 2 record.type.toNat :=
    List.take_left' (Bytes.bigEndian_length _ _)
  rw [recordType, front, Bytes.ofBigEndian_of_lt record.type.toNat_lt]

theorem recordLength_fixed : recordLength record.fixed = record.rdata.length := by
  have eight : (Bytes.bigEndian 2 record.type.toNat ++ (Bytes.bigEndian 2 record.«class».toNat ++
      Bytes.bigEndian 4 record.ttl.toNat)).length = 8 := by simp
  have split : record.fixed = (Bytes.bigEndian 2 record.type.toNat ++
      (Bytes.bigEndian 2 record.«class».toNat ++ Bytes.bigEndian 4 record.ttl.toNat)) ++
        Bytes.bigEndian 2 record.rdata.length := by
    rw [fixed, List.append_assoc, List.append_assoc]
  rw [recordLength, split, List.drop_left' eight, Bytes.ofBigEndian_of_lt record.short]

/-- The parser and the protocol agree on the records that have an address. -/
theorem address_eq :
    record.address = if hasAddress (recordType record.fixed) (recordLength record.fixed) then
      some (rspAddr record.rdata) else none := by
  have same : ((record.type = 1 ∧ record.rdata.length = 4) ∨
      (record.type = 28 ∧ record.rdata.length = 16)) ↔
        hasAddress (recordType record.fixed) (recordLength record.fixed) = true := by
    have type (number : UInt16) : record.type = number ↔ record.type.toNat = number.toNat :=
      UInt16.toNat_inj.symm
    rw [recordType_fixed, recordLength_fixed, type 1, type 28]
    simp [hasAddress]
  simp only [address, same]

/-- The answers are read one after another. -/
theorem readReplies_answers {l7 : Memory} {count : Nat}
    {answers : List ResourceRecord}
    (ahead : Cursor.Ahead l7 cursor (answers.flatMap encode ++ rest))
    (found : ∀ record ∈ answers.take count, record.name.EndsAtStop) :
    (readReplies l7 (min answers.length count) cursor).1 = (answers.take count).filterMap address:= by
  induction count generalizing answers cursor with
  | zero => rw [Nat.min_zero, List.take_zero, readReplies, List.filterMap_nil]
  | succ count ih =>
    cases answers with
    | nil => rw [List.length_nil, Nat.zero_min, List.take_nil, readReplies, List.filterMap_nil]
    | cons record answers =>
      rw [List.take_succ_cons, List.forall_mem_cons] at found
      rw [List.flatMap_cons, encode, List.append_assoc, List.append_assoc,
        List.append_assoc] at ahead
      obtain ⟨behind, next, _, step⟩ := @readReplies_record l7 cursor
        (min answers.length count) _ _ _ ahead (WireName.skipped found.1) record.length_fixed
      have data := next.front
      have others (moved : Cursor) (at_ : Cursor.Ahead l7 moved
          (record.rdata ++ (answers.flatMap encode ++ rest))) :
          (readReplies l7 (min answers.length count)
            (moved.advance record.rdata.length)).1 =
              (answers.take count).filterMap address :=
        ih at_.advance found.2
      rw [List.length_cons, Nat.succ_min_succ, step, List.take_succ_cons, List.filterMap_cons,
        address_eq, recordLength_fixed]
      unfold readAddress
      dsimp only
      split
      · rw [others _ (next.look 0 _), data]
        rfl
      · grind

end ResourceRecord

/-- The questions are skipped one after another. -/
theorem skipQueries_questions {l7 : Memory} {questions : List Question}
    (ahead : Cursor.Ahead l7 cursor (questions.flatMap Question.encode ++ rest))
    (found : ∀ question ∈ questions, question.name.EndsAtZero) :
    Cursor.Ahead l7 (skipQueries l7 questions.length cursor) rest := by
  induction questions generalizing cursor with
  | nil => exact ahead
  | cons question questions ih =>
    rw [List.forall_mem_cons] at found
    have skipped := Question.skipped found.1
    rw [List.flatMap_cons, List.append_assoc] at ahead
    have some : 0 < cursor.left := by
      have nonempty := List.length_pos_of_ne_nil skipped.ne_nil
      rw [ahead.left, List.length_append]
      omega
    obtain ⟨behind, _⟩ := skipQuery_skipped ahead skipped
    rw [List.length_cons, skipQueries, if_pos some]
    exact ih behind found.2

/-! ## Responses -/

namespace Response

variable {response : Response} {l7 : Memory}

theorem length_header : response.header.length = sizeofDnsPacket := by
  simp [header, sizeofDnsPacket]

variable (fits : response.FitsIn l7)
include fits

/-- The message is ahead of a cursor at the start of the payload. -/
theorem FitsIn.ahead : ∃ rest, Cursor.Ahead l7 (payloadStart l7) (response.encode ++ rest) := by
  obtain ⟨rest, content⟩ := fits
  have length : (response.encode ++ rest).length = l7.size := by
    rw [← content, Memory.slice_length]
  refine ⟨rest, ?_, ?_, ?_⟩
  · rw [length]
    rfl
  · rw [length]
    exact Nat.zero_add _
  · rw [length]
    exact content

theorem FitsIn.size_le : sizeofDnsPacket ≤ l7.size := by
  obtain ⟨rest, ahead⟩ := fits.ahead
  have total : (payloadStart l7).position + (response.encode ++ rest).length = l7.size :=
    ahead.atEnd
  rw [encode, List.length_append, List.length_append, length_header] at total
  omega

/-- The fields of the header that the parser reads. -/
theorem FitsIn.fields :
    ntohsAt l7 2 = response.flags.toNat ∧ ntohsAt l7 4 = response.questions.length ∧
      ntohsAt l7 6 = response.answers.length := by
  obtain ⟨rest, ahead⟩ := fits.ahead
  have width (value : Nat) : (Bytes.bigEndian 2 value).length = 2 := Bytes.bigEndian_length _ _
  have start : (payloadStart l7).position = 0 := rfl
  simp only [encode, header, List.append_assoc] at ahead
  have flagsAhead := ahead.advance
  have questionsAhead := flagsAhead.advance
  have answersAhead := questionsAhead.advance
  have flagsField := flagsAhead.front
  have questionsField := questionsAhead.front
  have answersField := answersAhead.front
  simp only [width, Cursor.advance_position, start] at flagsField questionsField answersField
  refine ⟨?_, ?_, ?_⟩
  · rw [ntohsAt, flagsField, Bytes.ofBigEndian_of_lt response.flags.toNat_lt]
  · rw [ntohsAt, questionsField, Bytes.ofBigEndian_of_lt response.fewQuestions]
  · rw [ntohsAt, answersField, Bytes.ofBigEndian_of_lt response.fewAnswers]

/-- The addresses that the parser finds behind the header. -/
theorem parseReplies_eq (found : response.NamesFound) (position : cursor.position = 0)
    (left : cursor.left = l7.size) : (parseReplies l7 cursor).1 = response.addresses := by
  obtain ⟨rest, ahead⟩ := fits.ahead
  obtain ⟨_, questions, answers⟩ := fits.fields
  rw [encode, List.append_assoc] at ahead
  have behind := ahead.advance
  have here : Cursor.Ahead l7 (cursor.advance sizeofDnsPacket)
      (response.questions.flatMap Question.encode ++
        (response.answers.flatMap ResourceRecord.encode ++ (response.records ++ rest))) := by
    rw [List.append_assoc, List.append_assoc] at behind
    refine ⟨?_, ?_, ?_⟩
    · rw [Cursor.advance_left, left]
      exact behind.left
    · rw [Cursor.advance_position, position]
      exact behind.atEnd
    · rw [Cursor.advance_position, position]
      exact behind.content
  rw [parseReplies, questions, answers]
  exact ResourceRecord.readReplies_answers (skipQueries_questions here found.1) found.2

end Response

theorem slice_payloadOf (bytes : Bytes) :
    (payloadOf bytes).slice 0 (payloadOf bytes).size = bytes := by
  apply List.ext_getElem?
  intro index
  have size : (payloadOf bytes).size = bytes.length := rfl
  rw [Memory.slice_getElem?, Nat.zero_add, size]
  by_cases inside : index < bytes.length
  · rw [if_pos inside, List.getElem?_eq_getElem inside]
    exact congrArg some (List.getD_eq_getElem _ _ inside)
  · grind

theorem Response.fitsIn_payloadOf (response : Response) :
    response.FitsIn (payloadOf response.encode) :=
  ⟨[], by rw [slice_payloadOf, List.append_nil]⟩

/-- Responses without a question are not learned, and responses with a question and with names
that the parser finds the end of are learned exactly. -/
theorem dns_answers_are_learned {query : Host} (dotted : query.contains '.' = true)
    {response : Response} {l7 : Memory} (fits : response.FitsIn l7) :
    (response.questions = [] → (processDnsReply query l7).calls = []) ∧
    (response.questions ≠ [] → response.NamesFound →
      (processDnsReply query l7).calls = response.addresses.map fun address => (address, query)) := by
  obtain ⟨flags, questions, answers⟩ := fits.fields
  have large : ¬ l7.size < sizeofDnsPacket := Nat.not_lt_of_le fits.size_le
  rw [processDnsReply, if_neg (by rw [dotted, decide_eq_false large]; decide)]
  constructor
  · intro none
    have refused : (checkHeader l7).2 = false := by
      rw [Bool.eq_false_iff]
      intro accepted
      have some := (checkHeader_accepted.mp accepted).2.1
      rw [questions, none] at some
      exact some rfl
    simp only [refused, Bool.false_eq_true, if_false]
  · intro none found
    obtain ⟨position, left, _⟩ := checkHeader_cursor fits.size_le
    have parsed := Response.parseReplies_eq fits found position left
    by_cases noAnswers : response.answers = []
    · have refused : (checkHeader l7).2 = false := by
        rw [Bool.eq_false_iff]
        intro accepted
        have some := (checkHeader_accepted.mp accepted).2.2
        rw [answers, noAnswers] at some
        exact some rfl
      have nothing : response.addresses = [] := by
        rw [Response.addresses, noAnswers, List.take_nil, List.filterMap_nil]
      simp only [refused, Bool.false_eq_true, if_false, nothing, List.map_nil]
    · have accepted : (checkHeader l7).2 = true := by
        refine checkHeader_accepted.mpr ⟨?_, ?_, ?_⟩
        · rw [flags]
          exact response.isResponse
        · rw [questions]
          exact fun zero => none (List.eq_nil_of_length_eq_zero zero)
        · rw [answers]
          exact fun zero => noAnswers (List.eq_nil_of_length_eq_zero zero)
      simp only [accepted, if_true, parsed]

def Label.single (byte : UInt8) : Label := ⟨[byte], Nat.zero_lt_one, show 1 ≤ 63 by decide⟩

def shortName : WireName := ⟨[.single 97, .single 98], none⟩

/-- An A record whose name is a pointer. -/
def pointedRecord (offset : Fin 16384) : ResourceRecord :=
  ⟨⟨[], some offset⟩, 1, 1, 10, [1, 2, 3, 4], by decide⟩

/-- One question for `a.b`, and one answer that points to it. -/
def shortResponse : Response where
  id := 7
  flags := 0x8180
  questions := [⟨shortName, 1, 1⟩]
  answers := [pointedRecord 12]
  authority := 0
  additional := 0
  records := []
  isResponse := by decide
  fewQuestions := by decide
  fewAnswers := by decide

theorem short_response_is_learned :
    "a.b".toList.contains '.' = true ∧ shortResponse.placed = true ∧
      (processDnsReply "a.b".toList (payloadOf shortResponse.encode)).calls =
        [(rspAddr [1, 2, 3, 4], "a.b".toList)] := by
  have found : shortResponse.NamesFound := by
    refine ⟨?_, ?_⟩
    · simp [shortResponse, shortName, WireName.EndsAtZero, Label.single]
    · intro record member
      obtain rfl := List.mem_singleton.mp member
      exact ⟨nofun, nofun, .inl (by decide)⟩
  exact ⟨by decide, by decide,
    (dns_answers_are_learned (by decide) shortResponse.fitsIn_payloadOf).2 (List.cons_ne_nil _ _)
      found⟩

/-- The answer without a question. -/
def unaskedResponse : Response :=
  { shortResponse with
    questions := []
    answers := [⟨shortName, 1, 1, 10, [1, 2, 3, 4], by decide⟩]
    fewQuestions := by decide
    fewAnswers := by decide }

/-- The name of the last answer is a pointer with the first byte `0xc1`. -/
def farResponse : Response :=
  { shortResponse with
    answers := List.replicate 16 (pointedRecord 12) ++ [pointedRecord 257]
    fewAnswers := by decide }

/-- Nothing is learned without a question, and the answer behind the far pointer is missed. -/
theorem dns_answers_are_missed :
    (unaskedResponse.placed = true ∧ unaskedResponse.addresses = [rspAddr [1, 2, 3, 4]] ∧
        (processDnsReply "a.b".toList (payloadOf unaskedResponse.encode)).calls = []) ∧
      (farResponse.placed = true ∧
        farResponse.addresses = List.replicate 17 (rspAddr [1, 2, 3, 4]) ∧
        (processDnsReply "a.b".toList (payloadOf farResponse.encode)).calls =
          List.replicate 16 (rspAddr [1, 2, 3, 4], "a.b".toList)) := by
  decide +kernel

end PcapdroidFormal.Dns
