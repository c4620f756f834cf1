import PcapdroidFormal.Foundation.ByteMemory

/-!
# Self-delimiting byte formats

A decoder of one item consumes a prefix of its input and returns what is left.
`decodeAll` repeats it until the input is used up, and it fails when bytes are
left over that are not a whole item.  A format whose items can be decoded in
front of any following bytes can therefore be concatenated without loss.
-/

namespace PcapdroidFormal.Foundation

/-- A decoder of one item at the front of the input. -/
abbrev Decoder (α : Type) := Bytes → Option (α × Bytes)

namespace Decoder

/-- Split off exactly `count` bytes. -/
def takeBytes (count : Nat) : Decoder Bytes := fun input =>
  if count ≤ input.length then some (input.take count, input.drop count) else none

/-- An unsigned field stored least significant byte first. -/
def littleEndian (width : Nat) : Decoder Nat := fun input =>
  (takeBytes width input).map fun (field, rest) => (Bytes.ofLittleEndian field, rest)

theorem takeBytes_append {count : Nat} {front : Bytes} (rest : Bytes)
    (width : front.length = count) :
    takeBytes count (front ++ rest) = some (front, rest) := by
  subst width
  simp [takeBytes]

theorem littleEndian_append {width value : Nat} (rest : Bytes) (fits : value < 256 ^ width) :
    littleEndian width (Bytes.littleEndian width value ++ rest) = some (value, rest) := by
  simp only [littleEndian, takeBytes_append rest (Bytes.littleEndian_length width value),
    Option.map_some, Bytes.ofLittleEndian_of_lt fits]

/-- A field keeps the low bytes of a value too large for it. -/
theorem word_append_mod (value : Nat) (rest : Bytes) :
    littleEndian 4 (Bytes.littleEndian 4 value ++ rest) = some (value % 2 ^ 32, rest) := by
  simp only [littleEndian, takeBytes_append rest (Bytes.littleEndian_length 4 value),
    Option.map_some, Bytes.ofLittleEndian_littleEndian]
  rfl

/-- The 32-bit case, with the bound in its usual form. -/
theorem word_append {value : Nat} (rest : Bytes) (fits : value < 2 ^ 32) :
    littleEndian 4 (Bytes.littleEndian 4 value ++ rest) = some (value, rest) :=
  littleEndian_append rest (by simpa using fits)

/-- Decode items until the input is used up; `fuel` bounds their number. -/
def decodeFuel {α : Type} (decode : Decoder α) : Nat → Bytes → Option (List α)
  | _, [] => some []
  | 0, _ :: _ => none
  | fuel + 1, byte :: rest =>
    match decode (byte :: rest) with
    | none => none
    | some (item, remaining) => (decodeFuel decode fuel remaining).map (List.cons item)

/-- Decode the whole input.  Every item of a sensible format consumes a byte,
so there are at most as many items as bytes. -/
def decodeAll {α : Type} (decode : Decoder α) (input : Bytes) : Option (List α) :=
  decodeFuel decode input.length input

end Decoder

/-- A format: an encoder with a decoder that undoes it in front of any bytes.
`Fits` holds for the items whose fields the encoding has room for. -/
structure Format (α : Type) where
  Fits : α → Prop
  encode : α → Bytes
  decode : Decoder α
  encode_ne_nil : ∀ item, encode item ≠ []
  decode_encode : ∀ item rest, Fits item → decode (encode item ++ rest) = some (item, rest)

namespace Format

variable {α : Type} (format : Format α)

/-- The encoding of a sequence is the concatenation of its items. -/
def encodeAll (items : List α) : Bytes := items.flatMap format.encode

@[simp] theorem encodeAll_append (first second : List α) :
    format.encodeAll (first ++ second) = format.encodeAll first ++ format.encodeAll second := by
  simp [encodeAll]

@[simp] theorem encodeAll_singleton (item : α) : format.encodeAll [item] = format.encode item := by
  simp [encodeAll]

theorem decodeFuel_encodeAll (items : List α) (fits : ∀ item ∈ items, format.Fits item)
    (fuel : Nat) (enough : items.length ≤ fuel) :
    Decoder.decodeFuel format.decode fuel (format.encodeAll items) = some items := by
  induction items generalizing fuel with
  | nil => cases fuel <;> rfl
  | cons item items ih =>
    have encoded : format.encodeAll (item :: items) =
        format.encode item ++ format.encodeAll items := rfl
    have decoded := format.decode_encode item (format.encodeAll items)
      (fits item List.mem_cons_self)
    rw [← encoded] at decoded
    cases fuel with
    | zero => cases enough
    | succ fuel =>
      cases shape : format.encodeAll (item :: items) with
      | nil =>
        exact absurd (List.append_eq_nil_iff.mp shape).1 (format.encode_ne_nil item)
      | cons byte rest =>
        rw [shape] at decoded
        simp only [Decoder.decodeFuel, decoded]
        grind

theorem length_le_encodeAll (items : List α) : items.length ≤ (format.encodeAll items).length := by
  induction items with
  | nil => exact Nat.le_refl _
  | cons item items ih =>
    have positive := List.length_pos_iff.mpr (format.encode_ne_nil item)
    have encoded : format.encodeAll (item :: items) =
        format.encode item ++ format.encodeAll items := rfl
    grind

/-- A concatenation of encoded items decodes to exactly these items, with no
byte left over. -/
theorem decodeAll_encodeAll (items : List α) (fits : ∀ item ∈ items, format.Fits item) :
    Decoder.decodeAll format.decode (format.encodeAll items) = some items :=
  format.decodeFuel_encodeAll items fits _ (format.length_le_encodeAll items)

/-- The bytes are a sequence of whole items, all of them valid. -/
def Frames (Valid : α → Prop) (bytes : Bytes) : Prop :=
  ∃ items, (∀ item ∈ items, format.Fits item ∧ Valid item) ∧ format.encodeAll items = bytes

variable {format} {Valid : α → Prop}

theorem Frames.nil : format.Frames Valid [] := ⟨[], nofun, rfl⟩

theorem Frames.single {item : α} (fits : format.Fits item) (valid : Valid item) :
    format.Frames Valid (format.encode item) := by
  refine ⟨[item], ?_, format.encodeAll_singleton item⟩
  grind

theorem Frames.append {first second : Bytes} (framed : format.Frames Valid first)
    (behind : format.Frames Valid second) : format.Frames Valid (first ++ second) := by
  obtain ⟨items, good, rfl⟩ := framed
  obtain ⟨others, fine, rfl⟩ := behind
  refine ⟨items ++ others, ?_, format.encodeAll_append items others⟩
  grind

theorem Frames.decodeAll {bytes : Bytes} (framed : format.Frames Valid bytes) :
    ∃ items, Decoder.decodeAll format.decode bytes = some items ∧ ∀ item ∈ items, Valid item := by
  obtain ⟨items, good, rfl⟩ := framed
  exact ⟨items, format.decodeAll_encodeAll items fun item member => (good item member).1,
    fun item member => (good item member).2⟩

end Format

end PcapdroidFormal.Foundation
