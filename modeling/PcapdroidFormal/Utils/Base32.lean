import PcapdroidFormal.Foundation.ByteMemory
import PcapdroidFormal.Foundation.JavaInt
import Mathlib.Data.List.TakeWhile
import Mathlib.Tactic.IntervalCases

/-!
# Base32

`Utils.base32Decode` collects five bits with each character and stores a byte when
it has eight.  The length of the array is computed with `int`s, which overflow for a
text of 429,496,730 characters.
-/

namespace PcapdroidFormal.Utils

open Foundation

variable {text : List Char} {count : Nat}

inductive JavaException where
  | negativeArraySize
  | indexOutOfBounds
  | illegalArgument
  deriving DecidableEq

/-! ## base32Decode -/

def base32Value (c : Char) : Option Nat :=
  if '2' ≤ c ∧ c ≤ '7' then some (26 + (c.toNat - '2'.toNat))
  else if 'A' ≤ c ∧ c ≤ 'Z' then some (c.toNat - 'A'.toNat)
  else none

/-- The variables of the loop; a `byte` keeps the lowest bits of what is assigned to it. -/
structure Decoding where
  rv : List UInt8
  i : Nat
  bitsRemaining : Nat
  curByte : UInt8

def Decoding.read (state : Decoding) (c : Char) : Except JavaException Decoding :=
  match base32Value c with
  | none => .error .illegalArgument
  | some val =>
    if 5 < state.bitsRemaining then
      .ok { state with
        curByte := state.curByte ||| .ofNat (val <<< (state.bitsRemaining - 5))
        bitsRemaining := state.bitsRemaining - 5 }
    else if state.i < state.rv.length then
      .ok {
        rv := state.rv.set state.i (state.curByte ||| .ofNat (val >>> (5 - state.bitsRemaining)))
        i := state.i + 1
        curByte := .ofNat (val <<< (3 + state.bitsRemaining))
        bitsRemaining := state.bitsRemaining + 3 }
    else .error .indexOutOfBounds

/-- The characters that are decoded. -/
def base32Text (text : List Char) : List Char := (text.map Char.toUpper).filter (· ≠ '\n')

/-- `s.length() * 5 / 8`. -/
def rvLength (length : Nat) : Int32 := .ofNat length * 5 / 8

def base32Decode (text : List Char) : Except JavaException (List UInt8) :=
  let s := base32Text text
  let size := rvLength s.length
  if size < 0 then .error .negativeArraySize
  else do
    let final ← s.foldlM Decoding.read ⟨.replicate size.toNatClampNeg 0, 0, 8, 0⟩
    return if final.i < final.rv.length then final.rv.set final.i final.curByte else final.rv

/-! ## The encoding -/

/-- The number in the last groups of five bits. -/
def fives : Nat → Nat → List Nat
  | 0, _ => []
  | count + 1, value => fives count (value / 32) ++ [value % 32]

def base32Char (value : Nat) : Char :=
  if value < 26 then .ofNat ('A'.toNat + value) else .ofNat ('2'.toNat + (value - 26))

/-- The bits of the bytes in groups of five, the last one filled with zeros. -/
def base32Encode (bytes : Bytes) : List Char :=
  let groups := (8 * bytes.length + 4) / 5
  (fives groups (Bytes.ofBigEndian bytes * 2 ^ (5 * groups - 8 * bytes.length))).map base32Char

example : base32Encode [0x66, 0x6F, 0x6F, 0x62, 0x61, 0x72] = "MZXW6YTBOI".toList := by
  decide +kernel

/-! ## The loop -/

/-- The loop has read the bits of a number: so many bytes, and so many bits behind them. -/
structure Decoded (size bytes bits number : Nat) (state : Decoding) : Prop where
  index : state.i = bytes
  room : bytes ≤ size
  below : bits < 8
  remaining : state.bitsRemaining = 8 - bits
  current : state.curByte.toNat = number % 2 ^ bits * 2 ^ (8 - bits)
  stored : state.rv = Bytes.bigEndian bytes (number / 2 ^ bits) ++ List.replicate (size - bytes) 0

theorem bigEndian_snoc (width value : Nat) (byte : UInt8) :
    Bytes.bigEndian (width + 1) (256 * value + byte.toNat) =
      Bytes.bigEndian width value ++ [byte] := by
  have small := byte.toNat_lt
  have low : (256 * value + byte.toNat) % 256 = byte.toNat := by omega
  have high : (256 * value + byte.toNat) / 256 = value := by omega
  rw [Bytes.bigEndian, Bytes.littleEndian, low, high, UInt8.ofNat_toNat, List.reverse_cons]
  rfl

/-- The bits of a value are put behind those of a byte. -/
theorem or_toNat {byte mask : UInt8} {bits front : Nat} (front_is : byte.toNat = front * 2 ^ bits)
    (small : mask.toNat < 2 ^ bits) : (byte ||| mask).toNat = front * 2 ^ bits + mask.toNat := by
  rw [UInt8.toNat_or, front_is, Nat.mul_comm, Nat.two_pow_add_eq_or_of_lt small]

section Step

variable {size bytes bits number value : Nat} {state : Decoding} {c : Char}

section

variable (decoded : Decoded size bytes bits number state)
include decoded

/-- The bits of a character do not fill a byte. -/
theorem Decoded.read_short (is : base32Value c = some value) (small : value < 32)
    (short : bits < 3) : ∃ next, state.read c = .ok next ∧
      Decoded size bytes (bits + 5) (32 * number + value) next := by
  obtain ⟨index, room, below, remaining, current, stored⟩ := decoded
  have mask : (UInt8.ofNat (value <<< (state.bitsRemaining - 5))).toNat =
      value * 2 ^ (3 - bits) := by
    rw [remaining, Nat.shiftLeft_eq]
    interval_cases bits
    all_goals exact UInt8.toNat_ofNat_of_lt' (by simp [UInt8.size]; omega)
  have joined := or_toNat current (mask.trans_lt (by interval_cases bits <;> omega))
  have kept : (32 * number + value) / 2 ^ (bits + 5) = number / 2 ^ bits := by
    interval_cases bits
    all_goals omega
  unfold Decoding.read
  rw [is]
  dsimp only
  rw [if_pos (by omega)]
  refine ⟨_, rfl, index, room, by omega, by dsimp only; omega, ?_, by rw [kept, stored]⟩
  rw [joined, mask]
  interval_cases bits
  all_goals omega

/-- The bits of a character fill a byte, which is stored if there is room. -/
theorem Decoded.read_long (is : base32Value c = some value) (small : value < 32) (long : 3 ≤ bits) :
    (bytes < size → ∃ next, state.read c = .ok next ∧
      Decoded size (bytes + 1) (bits - 3) (32 * number + value) next) ∧
    (bytes = size → state.read c = .error .indexOutOfBounds) := by
  obtain ⟨index, room, below, remaining, current, stored⟩ := decoded
  have length : state.rv.length = size := by simp [stored]; omega
  have mask : (UInt8.ofNat (value >>> (5 - state.bitsRemaining))).toNat =
      value / 2 ^ (bits - 3) := by
    rw [remaining, Nat.shiftRight_eq_div_pow]
    interval_cases bits
    all_goals exact UInt8.toNat_ofNat_of_lt' (by simp [UInt8.size]; omega)
  have rest : (UInt8.ofNat (value <<< (3 + state.bitsRemaining))).toNat =
      (32 * number + value) % 2 ^ (bits - 3) * 2 ^ (8 - (bits - 3)) := by
    rw [remaining, Nat.shiftLeft_eq, UInt8.toNat_ofNat']
    interval_cases bits
    all_goals simp only [Nat.reduceSub, Nat.reduceAdd, Nat.reducePow]
    all_goals omega
  have joined := or_toNat current (mask.trans_lt (by interval_cases bits <;> omega))
  have added : (32 * number + value) / 2 ^ (bits - 3) = 256 * (number / 2 ^ bits) +
      (state.curByte ||| UInt8.ofNat (value >>> (5 - state.bitsRemaining))).toNat := by
    rw [joined, mask]
    interval_cases bits
    all_goals omega
  unfold Decoding.read
  rw [is]
  dsimp only
  rw [if_neg (by omega), length]
  refine ⟨fun inside => ?_, fun full => if_neg (by omega)⟩
  rw [if_pos (by omega)]
  refine ⟨_, rfl, by simp [index], inside, by omega, by dsimp only; omega, rest, ?_⟩
  have gap : size - bytes = size - (bytes + 1) + 1 := by omega
  rw [added, bigEndian_snoc, stored, index, gap, List.replicate_succ,
    List.set_append_right _ _ (by simp)]
  simp

end

theorem base32Value_lt (is : base32Value c = some value) : value < 32 := by
  unfold base32Value at is
  split at is
  next digit =>
    have upper : c.toNat ≤ '7'.toNat := digit.2
    obtain rfl := Option.some.inj is
    simp only [Char.reduceToNat] at upper ⊢
    omega
  next =>
    split at is
    next letter =>
      have upper : c.toNat ≤ 'Z'.toNat := letter.2
      obtain rfl := Option.some.inj is
      simp only [Char.reduceToNat] at upper ⊢
      omega
    next => cases is

/-- The number in the bits of characters behind those of another number. -/
def numberOf (number : Nat) (chars : List Char) : Nat :=
  chars.foldl (fun number c => 32 * number + (base32Value c).getD 0) number

theorem Decoded.run {chars : List Char} (valid : ∀ c ∈ chars, (base32Value c).isSome)
    (decoded : Decoded size bytes bits number state)
    (counts : count = 8 * bytes + bits + 5 * chars.length) :
    (count / 8 ≤ size → ∃ final, chars.foldlM Decoding.read state = .ok final ∧
      Decoded size (count / 8) (count % 8) (numberOf number chars) final) ∧
    (size < count / 8 → chars.foldlM Decoding.read state = .error .indexOutOfBounds) := by
  induction chars generalizing bytes bits number state with
  | nil =>
    obtain ⟨-, room, below, -⟩ := id decoded
    simp only [List.length_nil, Nat.mul_zero, Nat.add_zero] at counts
    have whole : count / 8 = bytes := by omega
    have part : count % 8 = bits := by omega
    rw [whole, part]
    exact ⟨fun _ => ⟨state, rfl, decoded⟩, fun beyond => by omega⟩
  | cons c chars ih =>
    obtain ⟨first, others⟩ := List.forall_mem_cons.mp valid
    obtain ⟨value, is⟩ := Option.isSome_iff_exists.mp first
    have small := base32Value_lt is
    have below := decoded.below
    have sum : numberOf number (c :: chars) = numberOf (32 * number + value) chars := by
      simp [numberOf, is]
    rw [List.length_cons] at counts
    rw [List.foldlM_cons, sum]
    rcases Nat.lt_or_ge bits 3 with short | long
    · obtain ⟨next, read, after⟩ := decoded.read_short is small short
      rw [read]
      exact ih others after (by omega)
    · obtain ⟨inside, full⟩ := decoded.read_long is small long
      rcases Nat.lt_or_eq_of_le decoded.room with room | none
      · obtain ⟨next, read, after⟩ := inside room
        rw [read]
        exact ih others after (by omega)
      · rw [full none]
        exact ⟨fun fits => by omega, fun _ => rfl⟩

end Step

/-! ## Whole texts -/

theorem toInt_rvLength (length : Nat) :
    (rvLength length).toInt = (((length : Int) * 5).bmod (2 ^ 32)).tdiv 8 := by
  have product : (Int32.ofNat length * 5).toInt = ((length : Int) * 5).bmod (2 ^ 32) := by
    rw [Int32.toInt_mul, Int32.toInt_ofNat']
    exact Int.bmod_mul_bmod
  rw [rvLength, Int32.toInt_div_of_ne_right _ _ (by decide), product]
  rfl

/-- An overflow leaves too few bytes. -/
theorem rvLength_le (length : Nat) : (rvLength length).toNatClampNeg ≤ 5 * length / 8 := by
  rw [Int32.toNatClampNeg, toInt_rvLength]
  have below : ((length : Int) * 5).bmod (2 ^ 32) ≤ length * 5 := by
    simp only [Int.bmod, Nat.reducePow]
    omega
  generalize ((length : Int) * 5).bmod (2 ^ 32) = wrapped at *
  rcases Int.le_total 0 wrapped with positive | negative
  · rw [Int.tdiv_eq_ediv_of_nonneg positive]
    omega
  · rw [← Int.neg_neg wrapped, Int.neg_tdiv, Int.tdiv_eq_ediv_of_nonneg (by omega)]
    omega

theorem numberOf_fives (count value : Nat) :
    numberOf 0 ((fives count value).map base32Char) = value % 32 ^ count := by
  have char : ∀ value : Fin 32, base32Value (base32Char value) = some value.val := by decide
  induction count generalizing value with
  | zero => simp [fives, numberOf, Nat.mod_one]
  | succ count ih =>
    have last := char ⟨value % 32, Nat.mod_lt _ (by decide)⟩
    rw [fives, List.map_append, numberOf, List.foldl_append]
    refine (congrArg (32 * · + _) (ih (value / 32))).trans ?_
    rw [last, Nat.pow_succ', Nat.mod_mul]
    exact Nat.add_comm _ _

theorem fives_lt {value five : Nat} (member : five ∈ fives count value) : five < 32 := by
  induction count generalizing value with
  | zero => cases member
  | succ count ih =>
    rcases List.mem_append.mp member with front | last
    · exact ih front
    · rw [List.mem_singleton.mp last]
      exact Nat.mod_lt _ (by decide)

theorem length_fives (count value : Nat) : (fives count value).length = count := by
  induction count generalizing value with
  | zero => rfl
  | succ count ih => simp [fives, ih]

theorem bigEndian_ofBigEndian (bytes : Bytes) :
    Bytes.bigEndian bytes.length (Bytes.ofBigEndian bytes) = bytes := by
  induction bytes using List.reverseRecOn with
  | nil => rfl
  | append_singleton bytes byte ih =>
    have value : Bytes.ofBigEndian (bytes ++ [byte]) =
        256 * Bytes.ofBigEndian bytes + byte.toNat := by
      simp [Bytes.ofBigEndian, Bytes.ofLittleEndian, Nat.add_comm]
    rw [List.length_append, List.length_singleton, value, bigEndian_snoc, ih]

/-- A text is read with its line feeds and in lower case. -/
def Spells (text code : List Char) : Prop := (text.filter (· ≠ '\n')).map Char.toUpper = code

def IsBase32 (c : Char) : Prop :=
  ('A' ≤ c ∧ c ≤ 'Z') ∨ ('a' ≤ c ∧ c ≤ 'z') ∨ ('2' ≤ c ∧ c ≤ '7') ∨ c = '\n'

/-- The array has a length, and room for the characters in front of an invalid one. -/
def Fits (text : List Char) : Prop :=
  let s := base32Text text
  ¬rvLength s.length < 0 ∧ 5 * (s.takeWhile fun c => (base32Value c).isSome).length / 8 ≤
    (rvLength s.length).toNatClampNeg

/-- The length of the array does not overflow. -/
theorem fits_of_short {text : List Char} (short : text.length ≤ 429496729) : Fits text := by
  have fewer : (base32Text text).length ≤ text.length :=
    (List.length_filter_le _ _).trans (le_of_eq (List.length_map _))
  have size := toInt_rvLength (base32Text text).length
  have valid : ((base32Text text).takeWhile fun c => (base32Value c).isSome).length ≤ _ :=
    (List.takeWhile_prefix _).length_le
  rw [Int.bmod_eq_of_le (by omega) (by omega), Int.tdiv_eq_ediv_of_nonneg (by omega)] at size
  constructor
  · rw [Int32.lt_iff_toInt_lt, size, Int32.toInt_zero]
    omega
  · rw [Int32.toNatClampNeg, size]
    omega

theorem toNat_toUpper (c : Char) :
    c.toUpper.toNat = if 97 ≤ c.toNat ∧ c.toNat ≤ 122 then c.toNat - 32 else c.toNat := by
  unfold Char.toUpper
  split
  next lower =>
    have range : 97 ≤ c.toNat ∧ c.toNat ≤ 122 := lower
    rw [if_pos range]
    change (c.val + _).toNat = _
    rw [UInt32.toNat_add]
    change (c.toNat + 4294967264) % 4294967296 = _
    omega
  next other => exact (if_neg fun range => other range).symm

theorem toUpper_eq_feed (c : Char) : c.toUpper = '\n' ↔ c = '\n' := by
  rw [← Char.toNat_inj, ← Char.toNat_inj, toNat_toUpper, (by decide : '\n'.toNat = 10)]
  split
  · omega
  · exact Iff.rfl

theorem base32Text_of_spells {code : List Char} (spells : Spells text code) :
    base32Text text = code := by
  rw [← spells, base32Text, List.filter_map]
  exact congrArg _ (List.filter_congr fun c _ =>
    decide_eq_decide.mpr (not_congr (toUpper_eq_feed c)))

/-- The valid characters of a text. -/
theorem base32Value_toUpper (c : Char) :
    c ≠ '\n' ∧ base32Value c.toUpper = none ↔ ¬IsBase32 c := by
  have order (first second : Char) : first ≤ second ↔ first.toNat ≤ second.toNat := Iff.rfl
  have upper := toNat_toUpper c
  simp only [base32Value, IsBase32, order, ne_eq, ← Char.toNat_inj, Char.reduceToNat]
  split at upper
  all_goals split_ifs
  all_goals simp only [and_false, and_true, false_iff, not_not]
  all_goals omega

theorem start_decoded (size : Nat) : Decoded size 0 0 0 ⟨.replicate size 0, 0, 8, 0⟩ :=
  ⟨rfl, Nat.zero_le _, by decide, rfl, rfl, rfl⟩

theorem base32Encode_valid (bytes : Bytes) : ∀ c ∈ base32Encode bytes, (base32Value c).isSome := by
  have all : ∀ value : Fin 32, (base32Value (base32Char value)).isSome := by decide
  intro c member
  obtain ⟨value, inside, rfl⟩ := List.mem_map.mp member
  exact all ⟨value, fives_lt inside⟩

/-- The number in the code without the zeros behind it. -/
theorem base32Encode_number (bytes : Bytes) :
    Bytes.bigEndian bytes.length (numberOf 0 (base32Encode bytes) /
      2 ^ (5 * ((8 * bytes.length + 4) / 5) - 8 * bytes.length)) = bytes := by
  generalize groups : (8 * bytes.length + 4) / 5 = count
  have size : 32 ^ count = 2 ^ (5 * count - 8 * bytes.length) * 256 ^ bytes.length := by
    rw [show 32 = 2 ^ 5 from rfl, show 256 = 2 ^ 8 from rfl, ← Nat.pow_mul, ← Nat.pow_mul,
      ← Nat.pow_add]
    congr 1
    omega
  rw [base32Encode, numberOf_fives, groups, size, Nat.mul_comm (Bytes.ofBigEndian bytes),
    Nat.mul_mod_mul_left, Nat.mul_div_cancel_left _ (Nat.two_pow_pos _), Bytes.bigEndian,
    Bytes.littleEndian_mod]
  exact bigEndian_ofBigEndian bytes

theorem base32Decode_code {bytes : Bytes} (code : base32Text text = base32Encode bytes) :
    base32Decode text = .ok bytes ↔ Fits text := by
  have valid := base32Encode_valid bytes
  have length : (base32Encode bytes).length = (8 * bytes.length + 4) / 5 := by
    simp [base32Encode, length_fives]
  have whole : (base32Encode bytes).takeWhile (fun c => (base32Value c).isSome) =
      base32Encode bytes := List.takeWhile_eq_self_iff.mpr valid
  unfold base32Decode Fits
  dsimp only
  rw [code, whole]
  by_cases negative : rvLength (base32Encode bytes).length < 0
  · simp [negative]
  · have most := rvLength_le (base32Encode bytes).length
    rw [if_neg negative]
    generalize (rvLength (base32Encode bytes).length).toNatClampNeg = size at most ⊢
    obtain ⟨inside, beyond⟩ := (start_decoded size).run valid (Nat.zero_add _).symm
    rcases Nat.lt_or_ge size (5 * (base32Encode bytes).length / 8) with few | enough
    · rw [beyond few]
      simp [negative, few]
    · obtain ⟨final, run, decoded⟩ := inside enough
      have groups : 5 * ((8 * bytes.length + 4) / 5) / 8 = bytes.length := by omega
      have zeros : 5 * ((8 * bytes.length + 4) / 5) % 8 =
          5 * ((8 * bytes.length + 4) / 5) - 8 * bytes.length := by omega
      have full : size = bytes.length := by rw [length] at most enough; omega
      obtain ⟨index, -, -, -, -, stored⟩ := decoded
      rw [length, groups, zeros, base32Encode_number, full, Nat.sub_self] at stored
      rw [length, groups] at index
      have whole : final.rv = bytes := by simpa using stored
      rw [run]
      simp [negative, enough, whole, index, bind, Except.bind, pure, Except.pure]

theorem base32Decode_invalid (invalid : ∃ c ∈ base32Text text, base32Value c = none) :
    base32Decode text = .error .illegalArgument ↔ Fits text := by
  unfold base32Decode Fits
  dsimp only
  generalize base32Text text = s at *
  by_cases negative : rvLength s.length < 0
  · simp [negative]
  · rw [if_neg negative]
    generalize (rvLength s.length).toNatClampNeg = size
    have valid : ∀ c ∈ s.takeWhile fun c => (base32Value c).isSome, (base32Value c).isSome :=
      fun c => @List.mem_takeWhile_imp _ (fun c => (base32Value c).isSome) s c
    have stops := List.head?_dropWhile_not (fun c => (base32Value c).isSome) s
    have parts := @List.takeWhile_append_dropWhile _ (fun c => (base32Value c).isSome) s
    obtain ⟨inside, beyond⟩ := (start_decoded size).run valid (Nat.zero_add _).symm
    generalize s.takeWhile (fun c => (base32Value c).isSome) = front at *
    generalize s.dropWhile (fun c => (base32Value c).isSome) = rest at *
    rcases Nat.lt_or_ge size (5 * front.length / 8) with few | enough
    · rw [← parts, List.foldlM_append, beyond few]
      simp [few, bind, Except.bind]
    · obtain ⟨final, run, -⟩ := inside enough
      cases rest with
      | nil =>
        obtain ⟨c, member, bad⟩ := invalid
        rw [← parts, List.append_nil] at member
        exact absurd (valid c member) (by simp [bad])
      | cons c rest =>
        have bad : base32Value c = none := by simpa using stops
        rw [← parts, List.foldlM_append, run]
        simp [parts, negative, enough, Decoding.read, bad, bind, Except.bind]

/-- The bytes are decoded from their code, and other characters are refused. -/
def DecodesExactly (text : List Char) : Prop :=
  (∀ bytes, Spells text (base32Encode bytes) → base32Decode text = .ok bytes) ∧
    ((∃ c ∈ text, ¬IsBase32 c) → base32Decode text = .error .illegalArgument)

theorem exists_invalid (other : ∃ c ∈ text, ¬IsBase32 c) :
    ∃ c ∈ base32Text text, base32Value c = none := by
  obtain ⟨c, member, other⟩ := other
  obtain ⟨noFeed, invalid⟩ := (base32Value_toUpper c).mpr other
  refine ⟨c.toUpper, List.mem_filter.mpr ⟨List.mem_map_of_mem member, ?_⟩, invalid⟩
  exact decide_eq_true fun feed => noFeed ((toUpper_eq_feed c).mp feed)

theorem base32Encode_zeros (count : Nat) :
    base32Encode (.replicate count 0) = .replicate ((8 * count + 4) / 5) 'A' := by
  have number : Bytes.ofLittleEndian (.replicate count 0) = 0 := by
    induction count with
    | zero => rfl
    | succ count ih => simp [List.replicate_succ, Bytes.ofLittleEndian, ih]
  have groups (count : Nat) : fives count 0 = .replicate count 0 := by
    induction count with
    | zero => rfl
    | succ count ih => simp [fives, ih, List.replicate_succ']
  simp only [base32Encode, Bytes.ofBigEndian, List.reverse_replicate, number, Nat.zero_mul, groups,
    List.length_replicate, List.map_replicate]
  rfl

end PcapdroidFormal.Utils
