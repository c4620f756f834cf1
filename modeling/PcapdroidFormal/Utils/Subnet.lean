import Mathlib.Data.Nat.Bitwise
import Mathlib.Data.Int.Bitwise

/-!
# Subnets

`Utils.subnetContains` compares addresses as unsigned numbers.  The mask is a
negative number, so it has a one in front of the bits of every address.  The family
of an address is not a part of its number.
-/

namespace PcapdroidFormal.Utils

/-- An `InetAddress`, by the number that its bytes are in network order. -/
inductive InetAddress where
  | inet4 (address : BitVec 32)
  | inet6 (address : BitVec 128)
  deriving DecidableEq

namespace InetAddress

/-- The length of `getAddress`. -/
def length : InetAddress → Nat
  | inet4 _ => 4
  | inet6 _ => 16

/-- The unsigned number in `getAddress`. -/
def number : InetAddress → Nat
  | inet4 address => address.toNat
  | inet6 address => address.toNat

def bit : InetAddress → Nat → Bool
  | inet4 address => address.getMsbD
  | inet6 address => address.getMsbD

end InetAddress

/-- `maskBuf`: an integer of ones for each four bytes. -/
def maskBuf (addrlen : Nat) : Nat := 2 ^ (32 * (addrlen / 4)) - 1

/-- `subnetContains`; a `BigInteger` is an unbounded two's complement number. -/
def subnetContains (subnet : InetAddress) (bits : Nat) (address : InetAddress) : Bool :=
  let mask := Int.not ((maskBuf subnet.length : Int) >>> bits)
  let start := Int.land subnet.number mask
  let last := start + Int.not mask
  decide (start ≤ address.number) && decide ((address.number : Int) ≤ last)

/-- The addresses have the same family and the same first bits. -/
def InSubnet (subnet : InetAddress) (bits : Nat) (address : InetAddress) : Prop :=
  subnet.length = address.length ∧ ∀ n < bits, subnet.bit n = address.bit n

theorem firstBits_iff {width bits : Nat} (inside : bits ≤ width) (first second : BitVec width) :
    (∀ n < bits, first.getMsbD n = second.getMsbD n) ↔
      first.toNat / 2 ^ (width - bits) = second.toNat / 2 ^ (width - bits) := by
  constructor
  · intro same
    apply Nat.eq_of_testBit_eq
    intro bit
    rw [Nat.testBit_div_two_pow, Nat.testBit_div_two_pow]
    by_cases short : bit + (width - bits) < width
    · have here := same (width - 1 - (bit + (width - bits))) (by omega)
      have place : width - 1 - (width - 1 - (bit + (width - bits))) = bit + (width - bits) := by
        omega
      simpa [BitVec.getMsbD, BitVec.getLsbD, place,
        show width - 1 - (bit + (width - bits)) < width by omega] using here
    · have above (x : BitVec width) : x.toNat.testBit (bit + (width - bits)) = false :=
        x.getLsbD_of_ge _ (Nat.not_lt.mp short)
      rw [above, above]
  · intro same n small
    have here := congrArg (Nat.testBit · (width - 1 - n - (width - bits))) same
    have place : width - 1 - n - (width - bits) + (width - bits) = width - 1 - n := by omega
    simp only [Nat.testBit_div_two_pow, place] at here
    simpa [BitVec.getMsbD, BitVec.getLsbD, show n < width by omega] using here

/-- The numbers without the last bits are compared. -/
theorem subnetContains_iff {subnet : InetAddress} {bits : Nat} (inside : bits ≤ 8 * subnet.length)
    (address : InetAddress) : subnetContains subnet bits address = true ↔
      subnet.number / 2 ^ (8 * subnet.length - bits) =
        address.number / 2 ^ (8 * subnet.length - bits) := by
  generalize width : 8 * subnet.length - bits = free
  have whole : 32 * (subnet.length / 4) = bits + free := by
    cases subnet
    all_goals simp only [InetAddress.length] at inside width ⊢
    all_goals omega
  have ones : (maskBuf subnet.length : Int) >>> bits = ((2 ^ free - 1 : Nat) : Int) := by
    refine congrArg Int.ofNat ((Nat.shiftRight_eq_div_pow _ _).trans ?_)
    rw [maskBuf, whole, Nat.pow_add]
    have positive := Nat.mul_pos (Nat.two_pow_pos bits) (Nat.two_pow_pos free)
    exact (Nat.mul_sub_div 0 _ _ positive).trans (by rw [Nat.zero_div])
  have start : Nat.ldiff subnet.number (2 ^ free - 1) =
      2 ^ free * (subnet.number / 2 ^ free) := by
    apply Nat.eq_of_testBit_eq
    intro bit
    rw [Nat.testBit_ldiff, Nat.testBit_two_pow_sub_one, Nat.testBit_two_pow_mul,
      Nat.testBit_div_two_pow]
    by_cases small : bit < free
    · simp [small]
    · simp [small, Nat.not_lt.mp small]
  have range : subnetContains subnet bits address = true ↔
      2 ^ free * (subnet.number / 2 ^ free) ≤ address.number ∧
        address.number ≤ 2 ^ free * (subnet.number / 2 ^ free) + (2 ^ free - 1) := by
    have masked : Int.land subnet.number (Int.not ((2 ^ free - 1 : Nat) : Int)) =
        (Nat.ldiff subnet.number (2 ^ free - 1) : Nat) := rfl
    have back : Int.not (Int.not ((2 ^ free - 1 : Nat) : Int)) = (2 ^ free - 1 : Nat) := rfl
    simp only [subnetContains, ones, Bool.and_eq_true, decide_eq_true_eq, masked, back, start]
    exact_mod_cast Iff.rfl
  have positive := Nat.two_pow_pos free
  rw [range, eq_comm, Nat.div_eq_iff positive, Nat.mul_comm]
  omega

/-- The code is right for two addresses of a family, and for those of different families only
if their numbers differ in front of the last bits. -/
theorem subnet_membership_iff {subnet : InetAddress} {bits : Nat}
    (inside : bits ≤ 8 * subnet.length) (address : InetAddress) :
    (subnetContains subnet bits address = true ↔ InSubnet subnet bits address) ↔
      (subnet.length = address.length ∨ subnet.number / 2 ^ (8 * subnet.length - bits) ≠
        address.number / 2 ^ (8 * subnet.length - bits)) := by
  rw [subnetContains_iff inside, InSubnet]
  cases subnet with
  | inet4 first =>
    cases address with
    | inet4 second =>
      simpa [InetAddress.length, InetAddress.bit, InetAddress.number] using
        (firstBits_iff inside first second).symm
    | inet6 second => simp [InetAddress.length]
  | inet6 first =>
    cases address with
    | inet4 second => simp [InetAddress.length]
    | inet6 second =>
      simpa [InetAddress.length, InetAddress.bit, InetAddress.number] using
        (firstBits_iff inside first second).symm

/-- The loopback network of IPv6 has an IPv4 address. -/
theorem loopback_contains_ipv4 :
    subnetContains (.inet6 1) 128 (.inet4 1) = true ∧ ¬InSubnet (.inet6 1) 128 (.inet4 1) := by
  refine ⟨by decide +kernel, fun same => ?_⟩
  exact absurd same.1 (by decide)

theorem class_a_membership :
    subnetContains (.inet4 0x0A000000) 8 (.inet4 0x0A000200) = true ↔
      InSubnet (.inet4 0x0A000000) 8 (.inet4 0x0A000200) :=
  (subnet_membership_iff (by decide) _).mpr (.inl rfl)

end PcapdroidFormal.Utils
