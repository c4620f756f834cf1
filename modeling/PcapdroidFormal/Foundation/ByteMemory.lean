import Mathlib.Data.List.GetD
import Mathlib.Tactic.Ring

/-!
# Bounded byte memory

An allocation is a size together with the content of every cell.  Reads and
writes address cells by their offset from the start of the allocation.  A
checked write fails as soon as one of its bytes falls outside the allocation,
so a computation that returns a memory never left it.
-/

namespace PcapdroidFormal.Foundation

variable {offset length target : Nat} {data written : Bytes}

abbrev Bytes := List UInt8

namespace Bytes

/-- The `width` low bytes of a number, least significant first. -/
def littleEndian : Nat → Nat → Bytes
  | 0, _ => []
  | width + 1, value => UInt8.ofNat (value % 256) :: littleEndian width (value / 256)

/-- The number denoted by bytes stored least significant first. -/
def ofLittleEndian : Bytes → Nat
  | [] => 0
  | byte :: rest => byte.toNat + 256 * ofLittleEndian rest

/-- The `width` low bytes of a number, most significant first. -/
def bigEndian (width value : Nat) : Bytes := (littleEndian width value).reverse

/-- The number denoted by bytes stored most significant first. -/
def ofBigEndian (bytes : Bytes) : Nat := ofLittleEndian bytes.reverse

section

variable (width value : Nat)
include width value

@[simp] theorem littleEndian_length : (littleEndian width value).length = width := by
  induction width generalizing value with
  | zero => rfl
  | succ width ih => simp [littleEndian, ih]

@[simp] theorem bigEndian_length : (bigEndian width value).length = width := by
  simp [bigEndian]

theorem ofLittleEndian_littleEndian :
    ofLittleEndian (littleEndian width value) = value % 256 ^ width := by
  induction width generalizing value with
  | zero => simp [littleEndian, ofLittleEndian, Nat.mod_one]
  | succ width ih =>
    have byte : (UInt8.ofNat (value % 256)).toNat = value % 256 := by
      simp
    rw [littleEndian, ofLittleEndian, ih, byte, pow_succ, Nat.mul_comm (256 ^ width) 256,
      Nat.mod_mul]

/-- A field only keeps the low bytes of a value. -/
theorem littleEndian_mod : littleEndian width (value % 256 ^ width) = littleEndian width value := by
  induction width generalizing value with
  | zero => rfl
  | succ width ih =>
    have low : value % 256 ^ (width + 1) % 256 = value % 256 :=
      Nat.mod_mod_of_dvd value (Dvd.intro_left (256 ^ width) rfl)
    have high : value % 256 ^ (width + 1) / 256 = value / 256 % 256 ^ width := by
      rw [Nat.pow_succ', Nat.mod_mul_right_div_self]
    rw [littleEndian, littleEndian, low, high, ih]

end

/-- A field wide enough for its value is read back unchanged. -/
theorem ofLittleEndian_of_lt {width value : Nat} (fits : value < 256 ^ width) :
    ofLittleEndian (littleEndian width value) = value := by
  rw [ofLittleEndian_littleEndian, Nat.mod_eq_of_lt fits]

theorem ofBigEndian_of_lt {width value : Nat} (fits : value < 256 ^ width) :
    ofBigEndian (bigEndian width value) = value := by
  rw [ofBigEndian, bigEndian, List.reverse_reverse, ofLittleEndian_of_lt fits]

end Bytes

/-- One allocation.  Cells at or past `size` do not belong to it. -/
structure Memory where
  size : Nat
  byte : Nat → UInt8

namespace Memory

def slice (memory : Memory) (offset length : Nat) : Bytes :=
  (List.range length).map fun index => memory.byte (offset + index)

/-- Overwrite the cells from `offset` on, without a bounds check. -/
def store (memory : Memory) (offset : Nat) (data : Bytes) : Memory :=
  { memory with
    byte := fun index =>
      if offset ≤ index ∧ index < offset + data.length then data.getD (index - offset) 0
      else memory.byte index }

/-- A checked write: it fails unless every byte lands inside the allocation. -/
def write? (memory : Memory) (offset : Nat) (data : Bytes) : Option Memory :=
  if offset + data.length ≤ memory.size then some (memory.store offset data) else none

@[simp] theorem store_size (memory : Memory) (offset : Nat) (data : Bytes) :
    (memory.store offset data).size = memory.size := rfl

@[simp] theorem store_nil (memory : Memory) (offset : Nat) : memory.store offset [] = memory := by
  have none (index : Nat) : ¬ (offset ≤ index ∧ index < offset + ([] : Bytes).length) := by
    simp only [List.length_nil]
    omega
  simp only [store, if_neg (none _)]

theorem write?_eq_some {memory : Memory} (inside : offset + data.length ≤ memory.size) :
    memory.write? offset data = some (memory.store offset data) :=
  if_pos inside

section

variable (memory : Memory)

@[simp] theorem slice_length (offset length : Nat) :
    (memory.slice offset length).length = length := by
  simp [slice]

@[simp] theorem slice_zero (offset : Nat) : memory.slice offset 0 = [] := rfl

theorem slice_getElem? (offset length index : Nat) : (memory.slice offset length)[index]? =
      if index < length then some (memory.byte (offset + index)) else none := by
  by_cases inside : index < length <;> simp [slice, inside]

/-- A slice splits at every intermediate cell. -/
theorem slice_add (offset first second : Nat) : memory.slice offset (first + second) =
      memory.slice offset first ++ memory.slice (offset + first) second := by
  simp only [slice, List.range_add, List.map_append, List.map_map, Function.comp_def,
    Nat.add_assoc]

end

theorem slice_congr {first second : Memory}
    (same : ∀ index, offset ≤ index → index < offset + length →
      first.byte index = second.byte index) :
    first.slice offset length = second.slice offset length := by
  apply List.map_congr_left
  grind

/-- Cells outside the written range keep their content. -/
theorem store_byte_of_outside (memory : Memory) {index : Nat}
    (outside : index < offset ∨ offset + data.length ≤ index) :
    (memory.store offset data).byte index = memory.byte index := by
  have none : ¬ (offset ≤ index ∧ index < offset + data.length) := by omega
  simp only [store, if_neg none]

theorem store_byte_inside (memory : Memory) {index : Nat} (inside : index < data.length) :
    (memory.store offset data).byte (offset + index) = data.getD index 0 := by
  have range : offset ≤ offset + index ∧ offset + index < offset + data.length := by omega
  simp only [store, if_pos range, Nat.add_sub_cancel_left]

/-- Frame rule: a write does not change a slice it does not overlap. -/
theorem slice_store_of_disjoint (memory : Memory)
    (disjoint : offset + length ≤ target ∨ target + data.length ≤ offset) :
    (memory.store target data).slice offset length = memory.slice offset length := by
  apply slice_congr
  intro index low high
  exact memory.store_byte_of_outside (by omega)

section

variable (memory : Memory) (offset : Nat) (data before : Bytes)

/-- What was written is what is read back. -/
theorem slice_store_self :
    (memory.store offset data).slice offset data.length = data := by
  apply List.ext_getElem?
  intro index
  rw [slice_getElem?]
  by_cases inside : index < data.length
  · rw [if_pos inside, store_byte_inside memory inside, List.getElem?_eq_getElem inside,
      List.getD_eq_getElem _ _ inside]
  · grind

/-- Two adjacent writes are one write of the concatenation. -/
theorem store_store_append (first second : Bytes) :
    (memory.store offset first).store (offset + first.length) second =
      memory.store offset (first ++ second) := by
  simp only [store, List.length_append]
  congr 1
  funext index
  by_cases inSecond : offset + first.length ≤ index ∧
      index < offset + first.length + second.length
  · grind
  · grind

/-- Rewriting a field inside a region already written. -/
theorem store_store_field (old after new : Bytes) (width : new.length = old.length) :
    (memory.store offset (before ++ (old ++ after))).store (offset + before.length) new =
      memory.store offset (before ++ (new ++ after)) := by
  simp only [store, List.length_append]
  congr 1
  funext index
  by_cases inField : offset + before.length ≤ index ∧
      index < offset + before.length + new.length
  · have whole : offset ≤ index ∧
        index < offset + (before.length + (new.length + after.length)) := by omega
    rw [if_pos inField, if_pos whole, List.getD_append_right _ _ _ _ (by omega),
      List.getD_append _ _ _ _ (by omega)]
    congr 1
    omega
  · rw [if_neg inField, width]
    by_cases whole : offset ≤ index ∧
        index < offset + (before.length + (old.length + after.length))
    · rw [if_pos whole, if_pos whole]
      by_cases early : index < offset + before.length
      · rw [List.getD_append _ _ _ _ (by omega), List.getD_append _ _ _ _ (by omega)]
      · rw [List.getD_append_right _ _ _ _ (by omega),
          List.getD_append_right _ _ _ _ (by omega),
          List.getD_append_right _ _ _ _ (by omega),
          List.getD_append_right _ _ _ _ (by omega), width]
    · grind

/-- The content of one field of a written region. -/
theorem slice_store_field (field after : Bytes) :
    (memory.store offset (before ++ (field ++ after))).slice (offset + before.length)
      field.length = field := by
  rw [← store_store_append, ← store_store_append,
    slice_store_of_disjoint _ (Or.inl (Nat.le_refl _)), slice_store_self]

/-- A written region may be taken to include the cells behind it. -/
theorem store_extend_slice (length : Nat) :
    memory.store offset data =
      memory.store offset (data ++ memory.slice (offset + data.length) length) := by
  simp only [store, List.length_append, slice_length]
  congr 1
  funext index
  by_cases inData : offset ≤ index ∧ index < offset + data.length
  · grind
  · rw [if_neg inData]
    by_cases behind : offset ≤ index ∧ index < offset + (data.length + length)
    · have cell : offset + data.length + (index - offset - data.length) = index := by omega
      rw [if_pos behind, List.getD_append_right _ _ _ _ (by omega), List.getD_eq_getElem?_getD,
        slice_getElem?, if_pos (by omega), Option.getD_some, cell]
    · rw [if_neg behind]

end

variable (memory : Memory) (before : Bytes)

/-- A checked write right behind a written region extends that region. -/
theorem write?_extend
    (next : target = offset + written.length) (inside : target + data.length ≤ memory.size) :
    (memory.store offset written).write? target data =
      some (memory.store offset (written ++ data)) := by
  subst next
  rw [write?_eq_some (by exact inside), store_store_append]

/-- A sequence of checked writes that starts inside. -/
theorem write?_bind {α : Type} {memory : Memory} {next : Memory → Option α}
    (inside : offset + data.length ≤ memory.size) :
    (memory.write? offset data).bind next = next (memory.store offset data) := by
  rw [write?_eq_some inside, Option.bind_some]

/-- A sequence of checked writes, each right behind the one before. -/
theorem write?_extend_bind {α : Type} {memory : Memory} {next : Memory → Option α}
    (position : target = offset + written.length) (inside : target + data.length ≤ memory.size) :
    ((memory.store offset written).write? target data).bind next =
      next (memory.store offset (written ++ data)) := by
  rw [write?_extend _ position inside, Option.bind_some]

/-- A checked write over one field of a written region replaces that field. -/
theorem write?_field (old after : Bytes) {new : Bytes} (shape : written = before ++ (old ++ after))
    (field : target = offset + before.length) (width : new.length = old.length)
    (inside : offset + written.length ≤ memory.size) :
    (memory.store offset written).write? target new =
      some (memory.store offset (before ++ (new ++ after))) := by
  subst shape field
  have bound : offset + before.length + new.length ≤ memory.size := by
    grind
  rw [write?_eq_some (by exact bound), store_store_field _ _ _ _ _ _ width]

/-- Reading one field of a written region. -/
theorem slice_field (field after : Bytes) (shape : written = before ++ (field ++ after))
    (position : target = offset + before.length) (width : length = field.length) :
    (memory.store offset written).slice target length = field := by
  subst shape position width
  exact slice_store_field memory offset before field after

/-- A field written between two parts whose content is known. -/
theorem slice_store_between {first field last : Bytes}
    (before : memory.slice 0 first.length = first)
    (behind : memory.slice (first.length + field.length) last.length = last) :
    (memory.store first.length field).slice 0 (first.length + (field.length + last.length)) =
      first ++ (field ++ last) := by
  rw [slice_add, slice_add, Nat.zero_add, slice_store_self,
    slice_store_of_disjoint _ (Or.inl (by omega)), slice_store_of_disjoint _ (Or.inr (by omega)),
    before, behind]

/-- Checked writes of fields, each right behind the one before. -/
def writeFields (memory : Memory) (offset : Nat) : List Bytes → Option Memory
  | [] => some memory
  | field :: fields =>
    (memory.write? offset field).bind fun written =>
      written.writeFields (offset + field.length) fields

/-- Fields that fit are one write of all of them. -/
theorem writeFields_eq_some {memory : Memory} {fields : List Bytes}
    (inside : offset + fields.flatten.length ≤ memory.size) :
    memory.writeFields offset fields = some (memory.store offset fields.flatten) := by
  induction fields generalizing memory offset with
  | nil => rw [writeFields, List.flatten_nil, store_nil]
  | cons field fields ih =>
    rw [List.flatten_cons, List.length_append] at inside
    have first : offset + field.length ≤ memory.size := by omega
    have others : offset + field.length + fields.flatten.length ≤
        (memory.store offset field).size := by
      rw [store_size]
      omega
    rw [writeFields, write?_eq_some first, Option.bind_some, ih others, store_store_append,
      List.flatten_cons]

end Memory

end PcapdroidFormal.Foundation
