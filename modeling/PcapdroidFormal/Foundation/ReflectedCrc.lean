import PcapdroidFormal.Foundation.ByteMemory
import Mathlib.Logic.Function.Iterate

/-!
# Reflected cyclic redundancy checks

The register is shifted one bit at a time, and the polynomial is added when a one
is shifted out.  Both are linear, so many shifts of a register are the sum of the
shifts of its bytes.
-/

namespace PcapdroidFormal.Foundation.Crc

/-- Shift one bit out of the register. -/
def shiftBit (polynomial register : UInt32) : UInt32 :=
  if register &&& 1 = 1 then (register >>> 1) ^^^ polynomial else register >>> 1

/-- Add a byte to the register, and shift its eight bits out. -/
def addByte (polynomial register : UInt32) (byte : UInt8) : UInt32 :=
  (shiftBit polynomial)^[8] (register ^^^ byte.toUInt32)

/-- The register behind a byte string. -/
def register (polynomial start : UInt32) (data : Bytes) : UInt32 :=
  data.foldl (addByte polynomial) start

variable {polynomial x y : UInt32}

theorem low_bit (x : UInt32) : x &&& 1 = 0 ∨ x &&& 1 = 1 := by
  have low : (x &&& 1).toNat = x.toNat % 2 := Nat.and_one_is_mod _
  rcases Nat.mod_two_eq_zero_or_one x.toNat with even | odd
  · exact .inl (UInt32.toNat_inj.mp (low.trans even))
  · exact .inr (UInt32.toNat_inj.mp (low.trans odd))

theorem shiftBit_xor (x y : UInt32) :
    shiftBit polynomial (x ^^^ y) = shiftBit polynomial x ^^^ shiftBit polynomial y := by
  have low : (x ^^^ y) &&& 1 = (x &&& 1) ^^^ (y &&& 1) :=
    UInt32.toNat_inj.mp (Nat.and_xor_distrib_right ..)
  unfold shiftBit
  rw [low, UInt32.shiftRight_xor]
  rcases low_bit x with hx | hx
  all_goals rcases low_bit y with hy | hy
  all_goals simp [hx, hy, UInt32.xor_assoc, UInt32.xor_comm polynomial]

theorem iterate_xor (count : Nat) (x y : UInt32) :
    (shiftBit polynomial)^[count] (x ^^^ y) =
      (shiftBit polynomial)^[count] x ^^^ (shiftBit polynomial)^[count] y := by
  induction count generalizing x y with
  | zero => rfl
  | succ count ih => simp only [Function.iterate_succ_apply, shiftBit_xor, ih]

/-- Zeros are shifted out of the register without a change. -/
theorem iterate_of_toNat {count value : Nat} (zeros : x.toNat = 2 ^ count * value) :
    ((shiftBit polynomial)^[count] x).toNat = value := by
  induction count generalizing x with
  | zero => simpa using zeros
  | succ count ih =>
    have even : ¬x &&& 1 = 1 := fun odd => by
      have low : x.toNat % 2 = 1 := (Nat.and_one_is_mod _).symm.trans (congrArg UInt32.toNat odd)
      rw [zeros, Nat.pow_succ, Nat.mul_comm _ 2, Nat.mul_assoc] at low
      omega
    rw [Function.iterate_succ_apply, shiftBit, if_neg even]
    apply ih
    rw [UInt32.toNat_shiftRight, zeros, Nat.pow_succ, Nat.mul_comm _ 2, Nat.mul_assoc]
    exact Nat.mul_div_cancel_left _ (by decide)

/-- The lowest byte is shifted out, and the others move down. -/
theorem iterate_split (count : Nat) (x : UInt32) :
    (shiftBit polynomial)^[count + 8] x = (shiftBit polynomial)^[count] (x >>> 8) ^^^
      (shiftBit polynomial)^[count + 8] (x &&& 0xFF) := by
  have high : (x ^^^ (x &&& 0xFF)).toNat = 2 ^ 8 * (x.toNat / 2 ^ 8) := by
    have low : (x &&& 0xFF).toNat = x.toNat % 2 ^ 8 := Nat.and_two_pow_sub_one_eq_mod _ 8
    rw [UInt32.toNat_xor, low]
    apply Nat.eq_of_testBit_eq
    intro bit
    rw [Nat.testBit_xor, Nat.testBit_mod_two_pow, Nat.testBit_two_pow_mul, Nat.testBit_div_two_pow]
    by_cases small : bit < 8
    · simp [small]
    · simp [small, Nat.not_lt.mp small]
  have parts : x = (x ^^^ (x &&& 0xFF)) ^^^ (x &&& 0xFF) := by
    rw [UInt32.xor_assoc, UInt32.xor_self, UInt32.xor_zero]
  have moved : (shiftBit polynomial)^[8] (x ^^^ (x &&& 0xFF)) = x >>> 8 :=
    UInt32.toNat_inj.mp ((iterate_of_toNat high).trans (Nat.shiftRight_eq_div_pow _ 8).symm)
  rw [← moved, ← Function.iterate_add_apply, ← iterate_xor, ← parts]

/-- A byte can be added when it is in front. -/
theorem iterate_xor_word (register word : UInt32) :
    (shiftBit polynomial)^[8] (register ^^^ word) =
      (shiftBit polynomial)^[8] (register ^^^ (word &&& 0xFF)) ^^^ (word >>> 8) := by
  rw [iterate_xor, iterate_split 0 word, iterate_xor, UInt32.xor_comm (_ ^[0] _), UInt32.xor_assoc]
  rfl

end PcapdroidFormal.Foundation.Crc
