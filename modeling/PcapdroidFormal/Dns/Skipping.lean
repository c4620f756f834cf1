import PcapdroidFormal.Dns.Reply

/-!
# What the DNS parser skips

The parser finds the end of a question by the first zero byte, and the end of the name of an
answer by the first zero byte or the first byte `0xc0`.  Here is the grammar of what it takes
for a question and for a name, and where the cursor stands behind each.
-/

namespace PcapdroidFormal.Dns

open Foundation

variable {rest name first second behind query : Bytes}

/-- A question for the parser: any bytes up to the first zero, and four more. -/
def SkippedQuery (bytes : Bytes) : Prop :=
  ∃ name trailer : Bytes, (∀ byte ∈ name, (byte == 0) = false) ∧ trailer.length = 4 ∧
    bytes = name ++ 0 :: trailer

/-- The name of an answer for the parser. -/
def SkippedName (bytes : Bytes) : Prop :=
  ∃ front : Bytes, (∀ byte ∈ front, endsName byte = false) ∧
    (bytes = front ++ [0] ∨ ∃ low, bytes = front ++ [0xc0, low])

/-- `rec_type`, in the ten bytes behind a name. -/
def recordType (fixed : Bytes) : Nat := Bytes.ofBigEndian (fixed.take 2)

/-- `addr_len`. -/
def recordLength (fixed : Bytes) : Nat := Bytes.ofBigEndian (fixed.drop 8)

/-! ## Names -/

theorem endsName_eq {byte : UInt8} (stopped : endsName byte = true) : byte = 0 ∨ byte = 0xc0 := by
  simpa [endsName] using stopped

/-- A name has one byte at which the loop breaks, and nothing but the low byte of a pointer
behind it. -/
theorem SkippedName.stop (skipped : SkippedName name) :
    ∃ front last tail, name = front ++ last :: tail ∧ (∀ byte ∈ front, endsName byte = false) ∧
      endsName last = true ∧ tail.length = if last = 0 then 0 else 1 := by
  obtain ⟨front, plain, rfl | ⟨low, rfl⟩⟩ := skipped
  · exact ⟨front, 0, [], rfl, plain, rfl, rfl⟩
  · exact ⟨front, 0xc0, [low], rfl, plain, rfl, rfl⟩

/-- The bytes ahead start with one name at most. -/
theorem SkippedName.unique (skipped : SkippedName first)
    (other : SkippedName second) (same : first ++ rest = second ++ behind) :
    first = second ∧ rest = behind := by
  obtain ⟨front, last, tail, rfl, plain, stopped, length⟩ := skipped.stop
  obtain ⟨otherFront, otherLast, otherTail, rfl, otherPlain, otherStopped, otherLength⟩ :=
    other.stop
  refine List.append_inj same ?_
  rw [List.append_assoc, List.append_assoc] at same
  obtain ⟨rfl, rfl, _⟩ := Cursor.first_stop_unique same plain stopped otherPlain otherStopped
  grind

theorem SkippedName.ne_nil (skipped : SkippedName name) : name ≠ [] := by
  obtain ⟨front, last, tail, rfl, _⟩ := skipped.stop
  simp

section Cursors

variable {l7 : Memory} {cursor : Cursor} {bytes : Bytes}

/-- The loop over a name ends behind it. -/
theorem skipName_skipped (ahead : Cursor.Ahead l7 cursor (name ++ rest))
    (skipped : SkippedName name) :
    Cursor.Ahead l7 (skipName l7 cursor) rest ∧
      (Cursor.ReadsInside l7 (skipName l7 cursor) ↔ Cursor.ReadsInside l7 cursor) := by
  have enough : cursor.left.toNat = (name ++ rest).length := by rw [ahead.left, Int.toNat_natCast]
  obtain ⟨front, last, tail, rfl, plain, stopped, length⟩ := skipped.stop
  rw [List.append_assoc] at ahead
  obtain ⟨found, _, reads⟩ := @Cursor.skipUntil_found l7 endsName cursor.left.toNat _
    front (tail ++ rest) last ahead plain stopped (by rw [enough]; simp)
  have some : 0 < (cursor.skipUntil l7 endsName cursor.left.toNat).left := by
    rw [found.left, List.length_cons]
    omega
  have behind := @Cursor.Ahead.advance l7 _ (last :: tail) rest found
  rw [List.length_cons, length] at behind
  rw [skipName]
  rw [if_pos some, found.byte]
  by_cases zero : last = 0
  · rw [if_pos zero] at behind ⊢
    exact ⟨behind, reads⟩
  · rw [if_neg zero] at behind ⊢
    exact ⟨behind, reads⟩

/-- A name that does not end leaves no bytes. -/
theorem skipName_endless (ahead : Cursor.Ahead l7 cursor bytes)
    (endless : ∀ name rest, bytes = name ++ rest → ¬ SkippedName name) :
    (skipName l7 cursor).left ≤ 0 ∧
      (Cursor.ReadsInside l7 (skipName l7 cursor) ↔ Cursor.ReadsInside l7 cursor) := by
  have enough : cursor.left.toNat = bytes.length := by rw [ahead.left, Int.toNat_natCast]
  rcases Cursor.first_stop endsName bytes with none | ⟨front, last, rest, rfl, plain, stopped⟩
  · obtain ⟨atEnd, reads⟩ := Cursor.skipUntil_none ahead none (Nat.le_of_eq enough.symm)
    have zero := atEnd.left
    rw [skipName]
    grind
  · rcases endsName_eq stopped with rfl | rfl
    · refine absurd ⟨front, plain, Or.inl rfl⟩ (endless (front ++ [0]) rest ?_)
      grind
    · cases rest with
      | cons low rest =>
        refine absurd ⟨front, plain, Or.inr ⟨low, rfl⟩⟩ (endless (front ++ [0xc0, low]) rest ?_)
        grind
      | nil =>
        -- The low byte of the pointer is missing.
        obtain ⟨found, _, reads⟩ := @Cursor.skipUntil_found l7 endsName cursor.left.toNat _
          front [] 0xc0 ahead plain rfl (by rw [enough]; simp)
        have one := found.left
        rw [List.length_singleton] at one
        rw [skipName]
        rw [if_pos (by omega), found.byte, if_neg (by decide)]
        exact ⟨by rw [Cursor.advance_left]; omega, reads⟩

/-! ## Questions -/

/-- The loop over the questions moves behind one. -/
theorem skipQuery_skipped (ahead : Cursor.Ahead l7 cursor (query ++ rest))
    (skipped : SkippedQuery query) :
    Cursor.Ahead l7 (skipQuery l7 cursor) rest ∧
      (Cursor.ReadsInside l7 (skipQuery l7 cursor) ↔ Cursor.ReadsInside l7 cursor) := by
  have enough : cursor.left.toNat = (query ++ rest).length := by
    rw [ahead.left, Int.toNat_natCast]
  obtain ⟨name, trailer, plain, four, rfl⟩ := skipped
  rw [List.append_assoc] at ahead
  obtain ⟨found, _, reads⟩ := @Cursor.skipUntil_found l7 (· == 0) cursor.left.toNat _
    name (trailer ++ rest) 0 ahead plain rfl (by rw [enough]; simp)
  have behind := @Cursor.Ahead.advance l7 _ (0 :: trailer) rest found
  rw [List.length_cons, four] at behind
  exact ⟨behind, reads⟩

/-- A question that is cut, or whose name does not end, leaves no bytes. -/
theorem skipQuery_endless (ahead : Cursor.Ahead l7 cursor bytes)
    (endless : ∀ query rest, bytes = query ++ rest → ¬ SkippedQuery query) :
    (skipQuery l7 cursor).left ≤ 0 ∧
      (Cursor.ReadsInside l7 (skipQuery l7 cursor) ↔ Cursor.ReadsInside l7 cursor) := by
  have enough : cursor.left.toNat = bytes.length := by rw [ahead.left, Int.toNat_natCast]
  rcases Cursor.first_stop (· == 0) bytes with none | ⟨name, last, rest, rfl, plain, stopped⟩
  · obtain ⟨atEnd, reads⟩ := Cursor.skipUntil_none ahead none (Nat.le_of_eq enough.symm)
    have zero := atEnd.left
    rw [List.length_nil] at zero
    exact ⟨by rw [skipQuery, Cursor.advance_left]; omega, reads⟩
  · obtain rfl : last = 0 := by simpa using stopped
    obtain ⟨found, _, reads⟩ := @Cursor.skipUntil_found l7 (· == 0) cursor.left.toNat _
      name rest 0 ahead plain rfl (by rw [enough]; simp)
    have short : rest.length < 4 := by
      by_contra long
      refine endless (name ++ 0 :: rest.take 4) (rest.drop 4) ?_
        ⟨name, rest.take 4, plain, by rw [List.length_take]; omega, rfl⟩
      simp
    have left := found.left
    rw [List.length_cons] at left
    exact ⟨by rw [skipQuery, Cursor.advance_left]; omega, reads⟩

end Cursors

/-- The bytes ahead start with one question at most. -/
theorem SkippedQuery.unique (skipped : SkippedQuery first)
    (other : SkippedQuery second) (same : first ++ rest = second ++ behind) :
    first = second ∧ rest = behind := by
  obtain ⟨name, trailer, plain, four, rfl⟩ := skipped
  obtain ⟨otherName, otherTrailer, otherPlain, otherFour, rfl⟩ := other
  refine List.append_inj same ?_
  rw [List.append_assoc, List.append_assoc] at same
  obtain ⟨rfl, _⟩ := @Cursor.first_stop_unique (· == 0) _ _ _ _ _ _ same plain rfl otherPlain rfl
  grind

theorem SkippedQuery.ne_nil (skipped : SkippedQuery query) : query ≠ [] := by
  obtain ⟨name, trailer, _, _, rfl⟩ := skipped
  simp

end PcapdroidFormal.Dns
