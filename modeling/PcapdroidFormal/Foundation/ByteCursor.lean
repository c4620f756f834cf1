import PcapdroidFormal.Foundation.ByteMemory

/-!
# Cursors over byte memory

A parser that walks over an allocation with a pointer and a count of the bytes that are left.
The count is kept apart from the pointer and may become negative.  Every read is recorded, so
that the reads that leave the allocation can be told.
-/

namespace PcapdroidFormal.Foundation

structure Cursor where
  position : Nat
  left : Int
  reads : List Nat
  deriving DecidableEq, Repr

namespace Cursor

variable {bytes : Bytes} {offset length : Nat}

/-- Move the pointer and the count together, without a check. -/
def advance (cursor : Cursor) (length : Nat) : Cursor :=
  { cursor with position := cursor.position + length, left := cursor.left - length }

/-- Read `length` bytes at an offset from the pointer. -/
def look (cursor : Cursor) (offset length : Nat) : Cursor :=
  { cursor with
    reads := cursor.reads ++ (List.range length).map fun index =>
      cursor.position + offset + index }

/-- The bytes of the allocation from the pointer to its end; the count agrees with them. -/
structure Ahead (memory : Memory) (cursor : Cursor) (bytes : Bytes) : Prop where
  left : cursor.left = bytes.length
  atEnd : cursor.position + bytes.length = memory.size
  content : memory.slice cursor.position bytes.length = bytes

/-- No read left the allocation. -/
def ReadsInside (memory : Memory) (cursor : Cursor) : Prop :=
  ∀ offset ∈ cursor.reads, offset < memory.size

section

variable (cursor : Cursor)

@[simp] theorem advance_position (length : Nat) :
    (cursor.advance length).position = cursor.position + length := rfl

@[simp] theorem advance_left (length : Nat) :
    (cursor.advance length).left = cursor.left - length := rfl

@[simp] theorem look_position (offset length : Nat) :
    (cursor.look offset length).position = cursor.position := rfl

end

/-- Some of the bytes ahead are read. -/
theorem readsInside_look {memory : Memory} {cursor : Cursor} (offset length : Nat)
    (inside : cursor.position + offset + length ≤ memory.size) :
    ReadsInside memory (cursor.look offset length) ↔ ReadsInside memory cursor := by
  constructor
  · intro all target member
    exact all target (List.mem_append_left _ member)
  · intro all target member
    rcases List.mem_append.mp member with before | now
    · exact all target before
    · grind

/-- A read past the end. -/
theorem not_readsInside_look {memory : Memory} {cursor : Cursor}
    (outside : memory.size < cursor.position + offset + length)
    (start : cursor.position + offset ≤ memory.size) :
    ¬ ReadsInside memory (cursor.look offset length) := by
  intro all
  have last := all memory.size (List.mem_append_right _ (List.mem_map.mpr
    ⟨memory.size - (cursor.position + offset), List.mem_range.mpr (by omega), by omega⟩))
  exact Nat.lt_irrefl _ last

namespace Ahead

variable {memory : Memory} {cursor : Cursor} {rest : Bytes} {first : UInt8}

theorem look (ahead : Ahead memory cursor bytes) (offset length : Nat) :
    Ahead memory (cursor.look offset length) bytes :=
  ⟨ahead.left, ahead.atEnd, ahead.content⟩

theorem advance {front rest : Bytes} (ahead : Ahead memory cursor (front ++ rest)) :
    Ahead memory (cursor.advance front.length) rest := by
  obtain ⟨left, atEnd, content⟩ := ahead
  rw [List.length_append] at left atEnd content
  rw [memory.slice_add] at content
  constructor
  · rw [advance_left, left]
    omega
  · rw [advance_position]
    omega
  · exact (List.append_inj content (memory.slice_length _ _)).2

theorem front {front rest : Bytes} (ahead : Ahead memory cursor (front ++ rest)) :
    memory.slice cursor.position front.length = front := by
  have content := ahead.content
  rw [List.length_append, memory.slice_add] at content
  exact (List.append_inj content (memory.slice_length _ _)).1

section

variable (ahead : Ahead memory cursor (first :: rest))
include ahead

theorem byte : memory.byte cursor.position = first :=
  List.singleton_inj.mp (@Ahead.front memory cursor [first] rest ahead)

theorem next : Ahead memory (cursor.advance 1) rest :=
  @Ahead.advance memory cursor [first] rest ahead

end

/-- A field somewhere ahead. -/
theorem field {before field after : Bytes}
    (ahead : Ahead memory cursor (before ++ (field ++ after))) :
    memory.slice (cursor.position + before.length) field.length = field :=
  ahead.advance.front

theorem readsInside_look {front : Bytes} (ahead : Ahead memory cursor (front ++ rest))
    (covered : offset + length ≤ front.length) :
    ReadsInside memory (cursor.look offset length) ↔ ReadsInside memory cursor := by
  have atEnd := ahead.atEnd
  rw [List.length_append] at atEnd
  exact Cursor.readsInside_look offset length (by omega)

end Ahead

/-! ## Scanning -/

section Scanning

variable (memory : Memory) (stop : UInt8 → Bool)

/-- Skip bytes up to the first one where the scan stops, as long as some are left. -/
def skipUntil : Nat → Cursor → Cursor
  | 0, cursor => cursor
  | fuel + 1, cursor =>
    if 0 < cursor.left then
      if stop (memory.byte cursor.position) then cursor.look 0 1
      else skipUntil fuel ((cursor.look 0 1).advance 1)
    else cursor

variable {memory stop}

/-- The reads before the scan stay recorded. -/
theorem reads_subset_skipUntil (fuel : Nat) (cursor : Cursor) :
    cursor.reads ⊆ (skipUntil memory stop fuel cursor).reads := by
  induction fuel generalizing cursor with
  | zero => exact List.Subset.refl _
  | succ fuel ih =>
    rw [skipUntil]
    split
    · split
      · exact List.subset_append_left _ _
      · exact List.Subset.trans (List.subset_append_left _ _) (ih ((cursor.look 0 1).advance 1))
    · exact List.Subset.refl _

/-- A list has a first byte that stops the scan, unless none does. -/
theorem first_stop (stop : UInt8 → Bool) (bytes : Bytes) :
    (∀ byte ∈ bytes, stop byte = false) ∨
      ∃ front last rest, bytes = front ++ last :: rest ∧
        (∀ byte ∈ front, stop byte = false) ∧ stop last = true := by
  induction bytes with
  | nil => grind
  | cons first rest ih =>
    cases stopped : stop first with
    | true => exact Or.inr ⟨[], first, rest, rfl, List.forall_mem_nil _, stopped⟩
    | false =>
      grind

/-- There is only one first byte that stops the scan. -/
theorem first_stop_unique {first second : Bytes} {last other : UInt8} {rest behind : Bytes}
    (same : first ++ last :: rest = second ++ other :: behind)
    (skipped : ∀ byte ∈ first, stop byte = false) (stopped : stop last = true)
    (otherSkipped : ∀ byte ∈ second, stop byte = false) (otherStopped : stop other = true) :
    first = second ∧ last = other ∧ rest = behind := by
  induction first generalizing second with
  | nil =>
    cases second with
    | nil => grind
    | cons byte second =>
      grind
  | cons byte first ih =>
    cases second with
    | nil =>
      grind
    | cons head second =>
      grind

/-- The scan ends at the first byte that stops it. -/
theorem skipUntil_found {fuel : Nat} {cursor : Cursor} {front rest : Bytes} {last : UInt8}
    (ahead : Ahead memory cursor (front ++ last :: rest))
    (skipped : ∀ byte ∈ front, stop byte = false) (stopped : stop last = true)
    (enough : front.length < fuel) :
    let after := skipUntil memory stop fuel cursor
    Ahead memory after (last :: rest) ∧ after.position = cursor.position + front.length ∧
      (ReadsInside memory after ↔ ReadsInside memory cursor) := by
  induction front generalizing fuel cursor with
  | nil =>
    obtain ⟨fuel, rfl⟩ : ∃ less, fuel = less + 1 := ⟨fuel - 1, by simp at enough; omega⟩
    have some : 0 < cursor.left := by
      rw [ahead.left, List.nil_append, List.length_cons]
      omega
    have here : Ahead memory cursor ([last] ++ rest) := ahead
    rw [skipUntil, if_pos some, here.byte, if_pos stopped]
    exact ⟨ahead.look 0 1, rfl, here.readsInside_look (Nat.le_refl 1)⟩
  | cons first front ih =>
    obtain ⟨fuel, rfl⟩ : ∃ less, fuel = less + 1 := ⟨fuel - 1, by simp at enough; omega⟩
    rw [List.forall_mem_cons] at skipped
    have some : 0 < cursor.left := by
      rw [ahead.left, List.cons_append, List.length_cons]
      omega
    have here : Ahead memory cursor ([first] ++ (front ++ last :: rest)) := ahead
    have shorter : front.length < fuel := by
      grind
    rw [skipUntil, if_pos some, here.byte, skipped.1, if_neg Bool.false_ne_true]
    obtain ⟨found, position, reads⟩ :=
      ih (here.look 0 1).next skipped.2 shorter
    refine ⟨found, position.trans ?_, reads.trans (here.readsInside_look (Nat.le_refl 1))⟩
    rw [List.length_cons]
    rw [advance_position, look_position]
    omega

/-- Nothing stops the scan before the end. -/
theorem skipUntil_none {fuel : Nat} {cursor : Cursor}
    (ahead : Ahead memory cursor bytes) (skipped : ∀ byte ∈ bytes, stop byte = false)
    (enough : bytes.length ≤ fuel) :
    let after := skipUntil memory stop fuel cursor
    Ahead memory after [] ∧ (ReadsInside memory after ↔ ReadsInside memory cursor) := by
  induction bytes generalizing fuel cursor with
  | nil =>
    have none : ¬ 0 < cursor.left := by
      rw [ahead.left, List.length_nil]
      omega
    have unmoved : skipUntil memory stop fuel cursor = cursor := by
      cases fuel with
      | zero => rfl
      | succ fuel => rw [skipUntil, if_neg none]
    grind
  | cons first rest ih =>
    rw [List.length_cons] at enough
    obtain ⟨fuel, rfl⟩ : ∃ less, fuel = less + 1 := ⟨fuel - 1, by omega⟩
    rw [List.forall_mem_cons] at skipped
    have some : 0 < cursor.left := by
      rw [ahead.left, List.length_cons]
      omega
    have here : Ahead memory cursor ([first] ++ rest) := ahead
    rw [skipUntil, if_pos some, ahead.byte, skipped.1, if_neg Bool.false_ne_true]
    obtain ⟨found, reads⟩ := @ih fuel _ (here.look 0 1).next skipped.2 (by omega)
    exact ⟨found, reads.trans (here.readsInside_look (Nat.le_refl 1))⟩

end Scanning

end Cursor

end PcapdroidFormal.Foundation
