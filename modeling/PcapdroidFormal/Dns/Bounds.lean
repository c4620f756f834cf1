import PcapdroidFormal.Dns.Skipping
import PcapdroidFormal.Dns.Spoof

/-!
# Reads of DNS payloads

The payloads of which the DNS functions read bytes behind the end.  `process_dns_reply` checks
the bytes that are left before it reads the type and the length of a record, but not before it
reads the address.  The loop of `spoof_dns_reply` ends four bytes before the end of the payload
at the latest, where the class of a question may still miss its last byte.
-/

namespace PcapdroidFormal.Dns

open PcapdroidFormal.Core (FiveTuple Host sizeofDnsPacket)
open Foundation

variable {name rest bytes fixed : Bytes} {count : Nat}

/-! ## Payloads that are cut -/

/-- The bytes end inside the address of one of the next records. -/
inductive CutAddress : Nat → Bytes → Prop where
  | here {count : Nat} {name fixed rest : Bytes} (skipped : SkippedName name)
      (ten : fixed.length = 10)
      (address : hasAddress (recordType fixed) (recordLength fixed) = true)
      (cut : rest.length < recordLength fixed) :
      CutAddress (count + 1) (name ++ (fixed ++ rest))
  | later {count : Nat} {name fixed data rest : Bytes} (skipped : SkippedName name)
      (ten : fixed.length = 10) (whole : data.length = recordLength fixed)
      (next : CutAddress count rest) :
      CutAddress (count + 1) (name ++ (fixed ++ (data ++ rest)))

/-- The same behind some questions. -/
inductive CutReply (replies : Nat) : Nat → Bytes → Prop where
  | answers {bytes : Bytes} (cut : CutAddress replies bytes) : CutReply replies 0 bytes
  | query {count : Nat} {query rest : Bytes} (skipped : SkippedQuery query)
      (next : CutReply replies count rest) : CutReply replies (count + 1) (query ++ rest)

/-- A response with questions and answers. -/
def HasAnswers (l7 : Memory) : Prop :=
  ntohsAt l7 2 &&& 0x8000 = 0x8000 ∧ ntohsAt l7 4 ≠ 0 ∧ ntohsAt l7 6 ≠ 0

/-- The bytes behind the DNS header. -/
def queriesOf (l7 : Memory) : Bytes := l7.slice sizeofDnsPacket (l7.size - sizeofDnsPacket)

/-- The reply ends inside the address of an A or AAAA record. -/
def EndsInAddress (l7 : Memory) : Prop :=
  sizeofDnsPacket ≤ l7.size ∧ HasAnswers l7 ∧
    CutReply (min (ntohsAt l7 6) maxReplies) (ntohsAt l7 4) (queriesOf l7)

/-- The request has one question, without the last byte of its class. -/
def EndsInClass (l7 : Memory) : Prop :=
  sizeofDnsPacket + 5 ≤ l7.size ∧ ntohsAt l7 4 = 1 ∧
    ∃ name qtype, (0 : UInt8) ∉ name ∧ queriesOf l7 = name ++ [0, 0, qtype, 0]

theorem CutAddress.ne_nil (cut : CutAddress count bytes) :
    bytes ≠ [] := by
  cases cut with
  | here skipped => exact List.append_ne_nil_of_left_ne_nil skipped.ne_nil _
  | later skipped => exact List.append_ne_nil_of_left_ne_nil skipped.ne_nil _

/-- A cut in a record or behind it. -/
theorem cutAddress_record_iff (skipped : SkippedName name) (ten : fixed.length = 10) :
    CutAddress (count + 1) (name ++ (fixed ++ rest)) ↔
      (hasAddress (recordType fixed) (recordLength fixed) = true ∧
        rest.length < recordLength fixed) ∨
      (recordLength fixed ≤ rest.length ∧ CutAddress count (rest.drop (recordLength fixed))) := by
  constructor
  · intro cut
    generalize same : name ++ (fixed ++ rest) = bytes at cut
    cases cut with
    | here otherSkipped otherTen address cut =>
      obtain ⟨rfl, tails⟩ := skipped.unique otherSkipped same
      obtain ⟨rfl, rfl⟩ := List.append_inj tails (ten.trans otherTen.symm)
      exact Or.inl ⟨address, cut⟩
    | later otherSkipped otherTen whole next =>
      obtain ⟨rfl, tails⟩ := skipped.unique otherSkipped same
      obtain ⟨rfl, rfl⟩ := List.append_inj tails (ten.trans otherTen.symm)
      grind
  · rintro (⟨address, cut⟩ | ⟨whole, next⟩)
    · exact .here skipped ten address cut
    · rw [← List.take_append_drop (recordLength fixed) rest]
      exact .later skipped ten (List.length_take_of_le whole) next

theorem not_cutAddress_of_short (skipped : SkippedName name)
    (short : rest.length < 10) : ¬ CutAddress count (name ++ rest) := by
  intro cut
  generalize same : name ++ rest = bytes at cut
  cases cut with
  | here otherSkipped otherTen address cut =>
    obtain ⟨_, rfl⟩ := skipped.unique otherSkipped same
    grind
  | later otherSkipped otherTen whole next =>
    obtain ⟨_, rfl⟩ := skipped.unique otherSkipped same
    grind

/-! ## Records -/

section Cursors

variable {l7 : Memory} {cursor : Cursor}

/-- One iteration of the loop over the answers, up to the address. -/
theorem readReplies_record {count : Nat} {name fixed rest : Bytes}
    (ahead : Cursor.Ahead l7 cursor (name ++ (fixed ++ rest))) (skipped : SkippedName name)
    (ten : fixed.length = 10) :
    ∃ behind, Cursor.Ahead l7 behind rest ∧
      (Cursor.ReadsInside l7 behind ↔ Cursor.ReadsInside l7 cursor) ∧
      readReplies l7 (count + 1) cursor =
        let found := readAddress l7 (recordType fixed) (recordLength fixed) behind
        let others := readReplies l7 count (found.2.advance (recordLength fixed))
        (found.1.toList ++ others.1, others.2) := by
  obtain ⟨named, reads⟩ := skipName_skipped ahead skipped
  have some : 0 < cursor.left := by
    have nonempty := List.length_pos_of_ne_nil skipped.ne_nil
    rw [ahead.left, List.length_append]
    omega
  have enough : ¬ (skipName l7 cursor).left < 10 := by
    rw [named.left, List.length_append, ten]
    omega
  have type : ntohsAt l7 (skipName l7 cursor).position = recordType fixed := by
    have field := named
    rw [← List.take_append_drop 2 fixed, List.append_assoc] at field
    have content := field.front
    rw [List.length_take_of_le (by omega)] at content
    rw [ntohsAt, content, recordType]
  have length : ntohsAt l7 ((skipName l7 cursor).position + 8) = recordLength fixed := by
    have field := named
    rw [← List.take_append_drop 8 fixed, List.append_assoc] at field
    have content := field.field
    rw [List.length_take_of_le (by omega), List.length_drop, ten] at content
    rw [ntohsAt, content, recordLength]
  have behind := ((named.look 0 2).look 8 2).advance
  rw [ten] at behind
  refine ⟨readRecord (skipName l7 cursor), behind, ?_, ?_⟩
  · have second := (named.look 0 2).readsInside_look (show 8 + 2 ≤ fixed.length by omega)
    have first := named.readsInside_look (show 0 + 2 ≤ fixed.length by omega)
    exact second.trans (first.trans reads)
  · rw [readReplies, if_pos some]
    grind

theorem readReplies_done (done : cursor.left ≤ 0) :
    readReplies l7 count cursor = ([], cursor) := by
  cases count with
  | zero => rfl
  | succ count => rw [readReplies, if_neg (by omega)]

theorem skipQueries_done (done : cursor.left ≤ 0) :
    skipQueries l7 count cursor = cursor := by
  cases count with
  | zero => rfl
  | succ count => rw [skipQueries, if_neg (by omega)]

theorem reads_subset_skipName : cursor.reads ⊆ (skipName l7 cursor).reads := by
  unfold skipName
  have scanned := @Cursor.reads_subset_skipUntil l7 endsName cursor.left.toNat cursor
  dsimp only
  split
  · split
    · exact scanned
    · exact scanned
  · exact scanned

theorem reads_subset_readAddress (recType addrLen : Nat) :
    cursor.reads ⊆ (readAddress l7 recType addrLen cursor).2.reads := by
  unfold readAddress
  split
  · exact List.subset_append_left _ _
  · exact List.Subset.refl _

/-- What was read before the loop over the answers stays recorded. -/
theorem reads_subset_readReplies (count : Nat) (cursor : Cursor) :
    cursor.reads ⊆ (readReplies l7 count cursor).2.reads := by
  induction count generalizing cursor with
  | zero => exact List.Subset.refl _
  | succ count ih =>
    rw [readReplies]
    split
    · have named := @reads_subset_skipName l7 cursor
      dsimp only
      split
      · exact named
      · have record : (skipName l7 cursor).reads ⊆ (readRecord (skipName l7 cursor)).reads :=
          List.Subset.trans (List.subset_append_left _ _) (List.subset_append_left _ _)
        refine List.Subset.trans named (List.Subset.trans record ?_)
        have others (found : Cursor) (length : Nat) :
            found.reads ⊆ (readReplies l7 count (found.advance length)).2.reads :=
          ih (found.advance length)
        exact List.Subset.trans (reads_subset_readAddress _ _) (others _ _)
    · exact List.Subset.refl _

/-- A record whose fields are there. -/
theorem readReplies_inside_record
    (ahead : Cursor.Ahead l7 cursor (name ++ (fixed ++ rest))) (skipped : SkippedName name)
    (ten : fixed.length = 10)
    (others : ∀ {cursor : Cursor} {bytes : Bytes}, Cursor.Ahead l7 cursor bytes →
      (Cursor.ReadsInside l7 (readReplies l7 count cursor).2 ↔
        Cursor.ReadsInside l7 cursor ∧ ¬ CutAddress count bytes)) :
    Cursor.ReadsInside l7 (readReplies l7 (count + 1) cursor).2 ↔
      Cursor.ReadsInside l7 cursor ∧ ¬ CutAddress (count + 1) (name ++ (fixed ++ rest)) := by
  obtain ⟨behind, found, reads, step⟩ := @readReplies_record l7 cursor count _ _ _ ahead skipped ten
  rw [step, ← reads, cutAddress_record_iff skipped ten]
  dsimp only
  generalize recordLength fixed = length
  unfold readAddress
  by_cases whole : length ≤ rest.length
  · -- The data of the record is there, and the cursor moves behind it.
    rw [← List.take_append_drop length rest] at found
    have dataLength : (rest.take length).length = length := List.length_take_of_le whole
    have inside := found.readsInside_look (show 0 + length ≤ (rest.take length).length by omega)
    rw [and_iff_right whole, or_iff_right (fun cut => absurd whole (by omega))]
    split
    · have next := (found.look 0 length).advance
      rw [dataLength] at next
      rw [others next]
      exact and_congr inside Iff.rfl
    · have next := found.advance
      rw [dataLength] at next
      exact others next
  · rw [or_iff_left (fun later => whole later.1), and_iff_left (by omega : rest.length < length)]
    split
    next address =>
      -- The address is read behind the end.
      have outside : ¬ Cursor.ReadsInside l7 (behind.look 0 length) := by
        refine Cursor.not_readsInside_look ?_ ?_
        · rw [← found.atEnd]
          omega
        · rw [← found.atEnd]
          omega
      refine iff_of_false (fun all => outside ?_) (fun noCut => noCut.2 address)
      exact fun offset member => all offset (reads_subset_readReplies _ _ member)
    next noAddress =>
      have done : (behind.advance length).left ≤ 0 := by
        rw [Cursor.advance_left, found.left]
        omega
      rw [readReplies_done done, and_iff_left noAddress]
      exact Iff.rfl

/-- The loop over the answers stays inside of the payload just if no address is cut. -/
theorem readReplies_inside (ahead : Cursor.Ahead l7 cursor bytes) :
    Cursor.ReadsInside l7 (readReplies l7 count cursor).2 ↔
      Cursor.ReadsInside l7 cursor ∧ ¬ CutAddress count bytes := by
  induction count generalizing cursor bytes with
  | zero =>
    have noCut : ¬ CutAddress 0 bytes := by rintro ⟨⟩
    rw [readReplies, and_iff_left noCut]
  | succ count ih =>
    by_cases empty : bytes = []
    · have noCut : ¬ CutAddress (count + 1) bytes := fun cut => cut.ne_nil empty
      have done : cursor.left ≤ 0 := by
        rw [ahead.left, empty, List.length_nil]
        omega
      rw [readReplies_done done, and_iff_left noCut]
    have some : 0 < cursor.left := by
      have positive := List.length_pos_of_ne_nil empty
      rw [ahead.left]
      omega
    by_cases named : ∃ name rest, bytes = name ++ rest ∧ SkippedName name
    · obtain ⟨name, rest, rfl, skipped⟩ := named
      by_cases short : rest.length < 10
      · obtain ⟨behind, reads⟩ := skipName_skipped ahead skipped
        have stops : (skipName l7 cursor).left < 10 := by
          rw [behind.left]
          omega
        rw [readReplies, if_pos some]
        rw [if_pos stops, and_iff_left (not_cutAddress_of_short skipped short)]
        exact reads
      · have ten : (rest.take 10).length = 10 := List.length_take_of_le (by omega)
        rw [← List.take_append_drop 10 rest] at ahead ⊢
        exact readReplies_inside_record ahead skipped ten ih
    · obtain ⟨left, reads⟩ := skipName_endless ahead fun name rest split skipped =>
        named ⟨name, rest, split, skipped⟩
      have noCut : ¬ CutAddress (count + 1) bytes := by
        intro cut
        cases cut with
        | here skipped => exact named ⟨_, _, rfl, skipped⟩
        | later skipped => exact named ⟨_, _, rfl, skipped⟩
      rw [readReplies, if_pos some]
      grind

/-- The questions in front of the answers make no difference. -/
theorem skipQueries_inside {count replies : Nat} {bytes : Bytes}
    (ahead : Cursor.Ahead l7 cursor bytes) :
    Cursor.ReadsInside l7 (readReplies l7 replies (skipQueries l7 count cursor)).2 ↔
      Cursor.ReadsInside l7 cursor ∧ ¬ CutReply replies count bytes := by
  induction count generalizing cursor bytes with
  | zero =>
    have same : CutReply replies 0 bytes ↔ CutAddress replies bytes := by
      constructor
      · rintro ⟨cut⟩
        exact cut
      · exact .answers
    rw [skipQueries, same, readReplies_inside ahead]
  | succ count ih =>
    by_cases some : 0 < cursor.left
    · rw [skipQueries, if_pos some]
      by_cases found : ∃ query rest, bytes = query ++ rest ∧ SkippedQuery query
      · obtain ⟨query, rest, rfl, skipped⟩ := found
        obtain ⟨behind, reads⟩ := skipQuery_skipped ahead skipped
        have same : CutReply replies (count + 1) (query ++ rest) ↔
            CutReply replies count rest := by
          constructor
          · intro cut
            generalize split : query ++ rest = bytes at cut
            cases cut with
            | query other next =>
              obtain ⟨_, rfl⟩ := skipped.unique other split
              exact next
          · exact .query skipped
        rw [ih behind, reads, same]
      · obtain ⟨left, reads⟩ := skipQuery_endless ahead fun query rest split skipped =>
          found ⟨query, rest, split, skipped⟩
        have noCut : ¬ CutReply replies (count + 1) bytes := by
          rintro ⟨⟩
          exact found ⟨_, _, rfl, ‹_›⟩
        rw [skipQueries_done left, readReplies_done left, reads, and_iff_left noCut]
    · have empty : bytes = [] := by
        rw [ahead.left] at some
        exact List.eq_nil_of_length_eq_zero (by omega)
      have noCut : ¬ CutReply replies (count + 1) bytes := by
        intro cut
        subst empty
        generalize split : ([] : Bytes) = bytes at cut
        cases cut with
        | query skipped next =>
          exact List.append_ne_nil_of_left_ne_nil skipped.ne_nil _ split.symm
      rw [skipQueries_done (by omega), readReplies_done (by omega), and_iff_left noCut]

end Cursors

/-! ## The functions -/

theorem checkHeader_accepted {l7 : Memory} : (checkHeader l7).2 = true ↔ HasAnswers l7 := by
  unfold checkHeader HasAnswers
  grind

/-- The header is inside of the payload. -/
theorem checkHeader_cursor {l7 : Memory} (large : sizeofDnsPacket ≤ l7.size) :
    (checkHeader l7).1.position = 0 ∧ (checkHeader l7).1.left = l7.size ∧
      Cursor.ReadsInside l7 (checkHeader l7).1 := by
  have start : Cursor.ReadsInside l7 (payloadStart l7) := List.forall_mem_nil _
  have twelve : 12 ≤ l7.size := large
  have look {cursor : Cursor} (atStart : cursor.position = 0)
      (inside : Cursor.ReadsInside l7 cursor) {offset : Nat} (small : offset + 2 ≤ 12) :
      Cursor.ReadsInside l7 (cursor.look offset 2) :=
    (Cursor.readsInside_look offset 2 (by omega)).mpr inside
  have flags := look rfl start (show 2 + 2 ≤ 12 by decide)
  have questions := look rfl flags (show 4 + 2 ≤ 12 by decide)
  have answers := look rfl questions (show 6 + 2 ≤ 12 by decide)
  unfold checkHeader
  split
  · split
    · exact ⟨rfl, rfl, answers⟩
    · exact ⟨rfl, rfl, questions⟩
  · exact ⟨rfl, rfl, flags⟩

/-- `process_dns_reply` stays inside of the payload unless an address is cut. -/
theorem processDnsReply_inside {query : Host} (dotted : query.contains '.' = true) (l7 : Memory) :
    (∀ offset ∈ (processDnsReply query l7).reads, offset < l7.size) ↔ ¬ EndsInAddress l7 := by
  unfold processDnsReply EndsInAddress
  by_cases small : l7.size < sizeofDnsPacket
  · grind
  · have large : sizeofDnsPacket ≤ l7.size := Nat.le_of_not_lt small
    obtain ⟨position, left, inside⟩ := checkHeader_cursor large
    rw [if_neg (by grind), and_iff_right large,
      ← checkHeader_accepted]
    cases accepted : (checkHeader l7).2 with
    | false =>
      simp only [accepted, Bool.false_eq_true, if_false, false_and, not_false_eq_true, iff_true]
      exact inside
    | true =>
      simp only [accepted, if_true, true_and]
      have ahead : Cursor.Ahead l7 ((checkHeader l7).1.advance sizeofDnsPacket)
          (queriesOf l7) := by
        have length : (queriesOf l7).length = l7.size - sizeofDnsPacket :=
          Memory.slice_length _ _ _
        constructor
        · rw [Cursor.advance_left, left, length]
          omega
        · rw [Cursor.advance_position, position, length]
          omega
        · rw [Cursor.advance_position, position, length, Nat.zero_add]
          rfl
      have reads := @skipQueries_inside l7 _ (ntohsAt l7 4) (min (ntohsAt l7 6) maxReplies) _ ahead
      exact reads.trans (and_iff_right inside)

/-- Offsets of the DNS header. -/
theorem header_inside {l7 : Memory} (large : sizeofDnsPacket + 5 ≤ l7.size) {offsets : List Nat}
    (small : ∀ offset ∈ offsets, offset < sizeofDnsPacket) :
    ∀ offset ∈ offsets, offset < l7.size := by
  grind

variable (helpers : IpHelpers) (tuple : FiveTuple) (l7 : Memory)

/-- Only the offsets of the comparison are read. -/
theorem expectBytes_reads_subset (checks : List (Nat × UInt8)) :
    (expectBytes l7 checks).2 ⊆ checks.map Prod.fst := by
  induction checks with
  | nil => exact List.Subset.refl _
  | cons check checks ih =>
    rw [expectBytes]
    grind

/-- The question and all that is compared of it is inside of the payload. -/
theorem spoofDnsReply_inside_of_found {helpers : IpHelpers} {tuple : FiveTuple} {l7 : Memory}
    (large : sizeofDnsPacket + 5 ≤ l7.size)
    (split : queriesOf l7 = name ++ 0 :: rest) (plain : (0 : UInt8) ∉ name)
    (room : 4 ≤ rest.length) :
    ∀ offset ∈ (spoofDnsReply helpers tuple l7).reads, offset < l7.size := by
  have ahead : QueriesAhead l7 0 (name ++ 0 :: rest) :=
    split ▸ queriesAhead_zero (by omega)
  have length : (name ++ 0 :: rest).length = l7.size - sizeofDnsPacket := by
    rw [← split, queriesOf, Memory.slice_length]
  have found := questionLength_found ahead plain room
  rw [length, Nat.zero_add, Nat.add_zero] at found
  rw [List.length_append, List.length_cons] at length
  have header : ∀ offset ∈ [4, 5], offset < l7.size := header_inside large (by decide)
  have scanned : ∀ offset ∈ List.range' sizeofDnsPacket (name.length + 1), offset < l7.size := by
    grind
  have checked : ∀ offset ∈ (expectBytes l7 (questionChecks name.length)).2,
      offset < l7.size := by
    intro offset member
    have target := expectBytes_reads_subset l7 _ member
    simp only [questionChecks, List.map_cons, List.map_nil, List.mem_cons, List.not_mem_nil,
      or_false] at target
    omega
  have copied : ∀ offset ∈ copiedOffsets name.length, offset < l7.size := by
    refine List.forall_mem_append.mpr ⟨header_inside large (by decide), fun offset member => ?_⟩
    grind
  have type : ∀ offset ∈ [sizeofDnsPacket + (name.length + 2)], offset < l7.size := by
    grind
  have before := List.forall_mem_append.mpr ⟨List.forall_mem_append.mpr ⟨header, scanned⟩, checked⟩
  have withType := List.forall_mem_append.mpr ⟨before, type⟩
  unfold spoofDnsReply
  rw [if_neg (by omega), found]
  split
  · exact header
  · dsimp only
    split
    · exact before
    · split
      · exact withType
      · grind

/-- There is no end of the question before the last four bytes. -/
theorem spoofDnsReply_inside_of_cut {helpers : IpHelpers} {tuple : FiveTuple} {l7 : Memory}
    {end₀ end₁ end₂ end₃ : UInt8} (single : ntohsAt l7 4 = 1)
    (split : queriesOf l7 = name ++ [end₀, end₁, end₂, end₃]) (plain : (0 : UInt8) ∉ name)
    (large : sizeofDnsPacket + 5 ≤ l7.size) :
    (∀ offset ∈ (spoofDnsReply helpers tuple l7).reads, offset < l7.size) ↔
      ¬ (end₀ = 0 ∧ end₁ = 0 ∧ end₃ = 0) := by
  have ahead : QueriesAhead l7 0 (name ++ [end₀, end₁, end₂, end₃]) :=
    split ▸ queriesAhead_zero (by omega)
  have length : (name ++ [end₀, end₁, end₂, end₃]).length = l7.size - sizeofDnsPacket := by
    rw [← split, queriesOf, Memory.slice_length]
  have cut := questionLength_cut ahead plain rfl
  have tail := @QueriesAhead.skip l7 0 name _ ahead
  rw [length, Nat.zero_add, Nat.add_zero] at cut
  rw [Nat.zero_add] at tail
  rw [List.length_append] at length
  have four : [end₀, end₁, end₂, end₃].length = 4 := rfl
  have byte₀ : l7.byte (sizeofDnsPacket + name.length) = end₀ := tail.byte
  have byte₁ : l7.byte (sizeofDnsPacket + (name.length + 1)) = end₁ :=
    (@QueriesAhead.skip l7 _ [end₀] _ tail).byte
  have byte₃ : l7.byte (sizeofDnsPacket + (name.length + 3)) = end₃ :=
    (@QueriesAhead.skip l7 _ [end₀, end₁, end₂] _ tail).byte
  have twelve : sizeofDnsPacket = 12 := rfl
  have before : ∀ offset ∈ [4, 5] ++ List.range' sizeofDnsPacket name.length,
      offset < l7.size := by
    grind
  unfold spoofDnsReply
  rw [if_neg (by omega), if_neg (not_not.mpr single), cut]
  dsimp only
  by_cases zeros : end₀ = 0 ∧ end₁ = 0 ∧ end₃ = 0
  · -- The last comparison reads the byte behind the payload.
    have checked : sizeofDnsPacket + (name.length + 4) ∈
        (expectBytes l7 (questionChecks name.length)).2 := by
      simp only [questionChecks, expectBytes, byte₀, byte₁, byte₃, zeros.1, zeros.2.1, zeros.2.2,
        if_true]
      split <;> simp
    have outside : ¬ sizeofDnsPacket + (name.length + 4) < l7.size := by omega
    refine iff_of_false (fun all => outside (all _ ?_)) (fun differ => differ zeros)
    split
    · grind
    · split
      · exact List.mem_append_left _ (List.mem_append_right _ checked)
      · exact List.mem_append_left _ (List.mem_append_left _ (List.mem_append_right _ checked))
  · -- A comparison before fails.
    obtain ⟨checked, failed, inside⟩ : ∃ checked,
        expectBytes l7 (questionChecks name.length) = (false, checked) ∧
          ∀ offset ∈ checked, offset < l7.size := by
      simp only [questionChecks, expectBytes, byte₀, byte₁, byte₃]
      by_cases zero₀ : end₀ = 0
      · by_cases zero₁ : end₁ = 0
        · have differs : end₃ ≠ 0 := fun zero₃ => zeros ⟨zero₀, zero₁, zero₃⟩
          rw [if_pos zero₀, if_pos zero₁, if_neg differs]
          refine ⟨_, rfl, ?_⟩
          simp only [List.forall_mem_cons, List.not_mem_nil, false_imp_iff, implies_true, and_true]
          omega
        · rw [if_pos zero₀, if_neg zero₁]
          refine ⟨_, rfl, ?_⟩
          simp only [List.forall_mem_cons, List.not_mem_nil, false_imp_iff, implies_true, and_true]
          omega
      · rw [if_neg zero₀]
        grind
    refine iff_of_true ?_ zeros
    rw [failed]
    exact List.forall_mem_append.mpr ⟨before, inside⟩

/-- The first zero byte is followed by four bytes, or there is none before the last four. -/
theorem question_end (four : 4 ≤ bytes.length) :
    (∃ name rest, bytes = name ++ 0 :: rest ∧ (0 : UInt8) ∉ name ∧ 4 ≤ rest.length) ∨
      ∃ name end₀ end₁ end₂ end₃, bytes = name ++ [end₀, end₁, end₂, end₃] ∧ (0 : UInt8) ∉ name:= by
  obtain ⟨front, tail, rfl, length⟩ : ∃ front tail, bytes = front ++ tail ∧ tail.length = 4 := by
    refine ⟨bytes.take (bytes.length - 4), bytes.drop (bytes.length - 4), ?_, ?_⟩
    · rw [List.take_append_drop]
    · grind
  rcases Cursor.first_stop (· == 0) front with none | ⟨name, last, rest, rfl, plain, stopped⟩
  · right
    obtain ⟨end₀, end₁, end₂, end₃, rfl⟩ := List.length_eq_four.mp length
    grind
  · grind

/-- `spoof_dns_reply` stays inside of the payload unless the class is cut. -/
theorem spoofDnsReply_inside :
    (∀ offset ∈ (spoofDnsReply helpers tuple l7).reads, offset < l7.size) ↔ ¬ EndsInClass l7 := by
  by_cases small : l7.size < sizeofDnsPacket + 5
  · rw [spoofDnsReply, if_pos small]
    exact iff_of_true (List.forall_mem_nil _) (fun cut => absurd cut.1 (by omega))
  have large : sizeofDnsPacket + 5 ≤ l7.size := Nat.le_of_not_lt small
  by_cases single : ntohsAt l7 4 = 1
  · have length : (queriesOf l7).length = l7.size - sizeofDnsPacket := Memory.slice_length _ _ _
    rcases question_end (show 4 ≤ (queriesOf l7).length by omega) with
      ⟨name, rest, split, plain, room⟩ | ⟨name, end₀, end₁, end₂, end₃, split, plain⟩
    · refine iff_of_true (spoofDnsReply_inside_of_found large split plain room) ?_
      rintro ⟨_, _, other, qtype, otherPlain, otherSplit⟩
      have noZero {text : Bytes} (noZeros : (0 : UInt8) ∉ text) :
          ∀ byte ∈ text, (byte == 0) = false := by
        grind
      obtain ⟨_, _, rfl⟩ := @Cursor.first_stop_unique (· == 0) _ _ _ _ _ _
        (split.symm.trans otherSplit) (noZero plain) rfl (noZero otherPlain) rfl
      grind
    · rw [spoofDnsReply_inside_of_cut single split plain large, not_iff_not]
      constructor
      · rintro ⟨rfl, rfl, rfl⟩
        exact ⟨large, single, name, end₂, plain, split⟩
      · rintro ⟨_, _, other, qtype, _, otherSplit⟩
        have tails := (List.append_inj' (split.symm.trans otherSplit) rfl).2
        grind
  · rw [spoofDnsReply, if_neg small, if_pos single]
    exact iff_of_true (header_inside large (by decide)) (fun cut => single cut.2.1)

theorem spoofDnsReply_outcome :
    (spoofDnsReply helpers tuple l7).outcome ≠ .outOfBuffer := by
  unfold spoofDnsReply
  split
  · rintro ⟨⟩
  split
  · rintro ⟨⟩
  dsimp only
  split
  · rintro ⟨⟩
  split
  · rintro ⟨⟩
  generalize l7.byte _ = qtype
  generalize (questionLength l7 (l7.size - sizeofDnsPacket) 0).1 = qlen
  obtain ⟨checksum, sent⟩ := sendReply_eq helpers tuple l7 qlen qtype
  rw [sent]
  rintro ⟨⟩

/-- The DNS functions stay inside of the payload, and of the buffer of the reply, just if the
payload does not end inside an address or inside the class of its question. -/
theorem dns_payloads_are_not_left {query : Host} (dotted : query.contains '.' = true)
    (helpers : IpHelpers) (tuple : FiveTuple) (l7 : Memory) :
    ((∀ offset ∈ (processDnsReply query l7).reads, offset < l7.size) ∧
        (∀ offset ∈ (spoofDnsReply helpers tuple l7).reads, offset < l7.size) ∧
        (spoofDnsReply helpers tuple l7).outcome ≠ .outOfBuffer) ↔
      ¬ EndsInAddress l7 ∧ ¬ EndsInClass l7 := by
  rw [processDnsReply_inside dotted, spoofDnsReply_inside]
  constructor
  · rintro ⟨reply, request, _⟩
    exact ⟨reply, request⟩
  · rintro ⟨reply, request⟩
    exact ⟨reply, request, spoofDnsReply_outcome helpers tuple l7⟩

/-- IPv4, without the values of the header and of the checksum. -/
def zeroHelpers : IpHelpers where
  iphdrLen := 20
  makeIphdr _ := List.replicate 20 0
  l3Checksum _ := 0
  length_makeIphdr _ := List.length_replicate

/-- A connection to the port 53 of a server. -/
def dnsTuple : FiveTuple where
  srcIp := 0x0200000a
  dstIp := 0x08080808
  srcPort := 0x3930
  dstPort := 0x3500
  ipver := 4
  ipproto := 17

/-- A response with the address of `a.b`. -/
def wholeReply : Bytes :=
  [0, 7, 0x81, 0x80, 0, 1, 0, 1, 0, 0, 0, 0] ++ [1, 97, 1, 98, 0, 0, 1, 0, 1] ++
    [0xc0, 0x0c, 0, 1, 0, 1, 0, 0, 0, 10, 0, 4, 1, 2, 3, 4]

theorem whole_reply_is_not_left :
    "a.b".toList.contains '.' = true ∧
      (∀ offset ∈ (processDnsReply "a.b".toList (payloadOf wholeReply)).reads,
        offset < (payloadOf wholeReply).size) ∧
      (∀ offset ∈ (spoofDnsReply zeroHelpers dnsTuple (payloadOf wholeReply)).reads,
        offset < (payloadOf wholeReply).size) ∧
      (spoofDnsReply zeroHelpers dnsTuple (payloadOf wholeReply)).outcome ≠ .outOfBuffer := by
  have dotted : "a.b".toList.contains '.' = true := by decide
  refine ⟨dotted, (dns_payloads_are_not_left dotted zeroHelpers dnsTuple _).mpr ⟨?_, ?_⟩⟩
  · exact (processDnsReply_inside dotted _).mp (by decide +kernel)
  · exact (spoofDnsReply_inside zeroHelpers dnsTuple _).mp (by decide +kernel)

/-- The response without the last byte of the address, and a request without the last byte of
the class. -/
theorem cut_payloads_are_left :
    wholeReply.length - 1 ∈
        (processDnsReply "a.b".toList (payloadOf wholeReply.dropLast)).reads ∧
      (payloadOf wholeReply.dropLast).size = wholeReply.length - 1 ∧
      17 ∈ (spoofDnsReply zeroHelpers dnsTuple
        (payloadOf [0, 7, 1, 0, 0, 1, 0, 0, 0, 0, 0, 0, 97, 0, 0, 1, 0])).reads ∧
      (payloadOf [0, 7, 1, 0, 0, 1, 0, 0, 0, 0, 0, 0, 97, 0, 0, 1, 0]).size = 17 := by
  decide +kernel

end PcapdroidFormal.Dns
