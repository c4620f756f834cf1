import Mathlib.Algebra.Ring.Nat
import Mathlib.Data.List.Chain

/-!
# Integers and arrays of Java

`int` is a signed 32-bit integer whose operations wrap around, and an array is
indexed with it: an index outside of the array throws, which is `none` here.  As
long as they stay below `2 ^ 31`, the values agree with natural numbers; the
lemmas follow one operation each, from the numbers that the operands stand for.
-/

namespace PcapdroidFormal.Foundation

universe u

/-- An integer stands for a natural number. -/
def IsNat (value : Int32) (number : Nat) : Prop := value.toInt = number

namespace IsNat

variable {first second : Int32} {m n : Nat}

theorem lt_size (is : IsNat first m) : m < 2 ^ 31 := by
  have bound := Int32.toInt_lt first
  rw [is] at bound
  omega

theorem unique (is : IsNat first m) (other : IsNat first n) : m = n :=
  Int.ofNat.inj (is.symm.trans other)

theorem eq (is : IsNat first m) (other : IsNat second m) : first = second :=
  Int32.toInt_inj.mp (is.trans other.symm)

theorem ofNat (bound : m < 2 ^ 31) : IsNat (Int32.ofNat m) m := Int32.toInt_ofNat_of_lt bound

theorem of_nonneg (nonnegative : ¬first < 0) : IsNat first first.toNatClampNeg := by
  rw [Int32.lt_iff_toInt_lt, Int32.toInt_zero] at nonnegative
  exact (Int.toNat_of_nonneg (Int.not_lt.mp nonnegative)).symm

theorem not_neg (is : IsNat first m) : ¬first < 0 := by
  rw [Int32.lt_iff_toInt_lt, Int32.toInt_zero, is]
  grind

theorem zero : IsNat 0 0 := Int32.toInt_zero

theorem one : IsNat 1 1 := Int32.toInt_one

section

variable (is : IsNat first m)
include is

theorem toNat : first.toNatClampNeg = m := by
  rw [Int32.toNatClampNeg, is]
  rfl

theorem add (other : IsNat second n) (bound : m + n < 2 ^ 31) : IsNat (first + second) (m + n) := by
  rw [IsNat, Int32.toInt_add, is, other]
  grind

theorem sub (other : IsNat second n) (order : n ≤ m) : IsNat (first - second) (m - n) := by
  have bound := is.lt_size
  rw [IsNat, Int32.toInt_sub, is, other, ← Int.ofNat_sub order]
  grind

end

/-- The distance of two integers, which may be negative. -/
theorem of_sub {distance : Nat} (apart : first.toInt = second.toInt + distance)
    (bound : distance < 2 ^ 31) : IsNat (first - second) distance := by
  have gap : first.toInt - second.toInt = distance := by omega
  rw [IsNat, Int32.toInt_sub, gap]
  grind

variable (is : IsNat first m)
include is

variable (other : IsNat second n)
include other

/-- The remainder of two numbers that are not negative. -/
theorem mod : IsNat (first % second) (m % n) := by
  rw [IsNat, Int32.toInt_mod, is, other]
  grind

theorem lt_iff : first < second ↔ m < n := by
  rw [Int32.lt_iff_toInt_lt, is, other, Int.ofNat_lt]

theorem le_iff : first ≤ second ↔ m ≤ n := by
  rw [Int32.le_iff_toInt_le, is, other, Int.ofNat_le]

theorem min : IsNat (Min.min first second) (Min.min m n) := by
  change IsNat (if first ≤ second then first else second) _
  rw [Nat.min_def]
  split
  next order => rwa [if_pos ((is.le_iff other).mp order)]
  next order => rwa [if_neg fun le => order ((is.le_iff other).mpr le)]

end IsNat

/-- Up to `2 ^ 32` a number wraps around to `-1` last. -/
theorem ofNat_ne_neg_one {n : Nat} (bound : n + 1 < 2 ^ 32) : Int32.ofNat n ≠ -1 := by
  intro same
  have wrapped := congrArg Int32.toInt same
  rw [Int32.toInt_ofNat', (by decide : (-1 : Int32).toInt = -1)] at wrapped
  grind

/-! ## Arrays -/

structure JavaArray (α : Type u) where
  items : List α
  bound : items.length < 2 ^ 31

variable {α : Type u} {index : Int32}

namespace JavaArray

def length (array : JavaArray α) : Int32 := .ofNat array.items.length

theorem length_is (array : JavaArray α) : IsNat array.length array.items.length :=
  .ofNat array.bound

def copyFrom (array : JavaArray α) (start : Nat) : JavaArray α where
  items := array.items.drop start
  bound := by
    have bound := array.bound
    grind

end JavaArray

def loadAt (items : List α) (index : Int32) : Option α :=
  if index < 0 then none else items[index.toNatClampNeg]?

def storeAt (items : List α) (index : Int32) (item : α) : Option (List α) :=
  if index < 0 ∨ items.length ≤ index.toNatClampNeg then none
  else some (items.set index.toNatClampNeg item)

theorem loadAt_of_isNat {n : Nat} (is : IsNat index n) (items : List α) :
    loadAt items index = items[n]? := by
  rw [loadAt, if_neg is.not_neg, is.toNat]

theorem storeAt_of_isNat {n : Nat} (is : IsNat index n) {items : List α} (inside : n < items.length)
    (item : α) : storeAt items index item = some (items.set n item) := by
  rw [storeAt, is.toNat, if_neg]
  rintro (negative | outside)
  · exact is.not_neg negative
  · omega

theorem loadAt_of_neg (negative : index < 0) (items : List α) :
    loadAt items index = none := if_pos negative

/-- Merge sort leaves signed numbers in ascending order. -/
theorem pairwise_mergeSort_le (values : List Int32) :
    (values.mergeSort fun first second => decide (first ≤ second)).Pairwise (· ≤ ·) := by
  have sorted := @List.pairwise_mergeSort Int32 (fun first second => decide (first ≤ second))
    (fun _ _ _ first second =>
      decide_eq_true (Int32.le_trans (of_decide_eq_true first) (of_decide_eq_true second)))
    (fun first second => by
      grind) values
  exact sorted.imp fun order => of_decide_eq_true order

/-! ## Consecutive integers -/

/-- Each integer is the successor of the one before. -/
def Consecutive (ids : List Int32) : Prop :=
  ids.IsChain fun older newer => newer.toInt = older.toInt + 1

namespace Consecutive

variable {ids : List Int32} {first last id : Int32} {index : Nat}

theorem toInt_eq {rest : List Int32} (consecutive : Consecutive (first :: rest))
    (found : (first :: rest)[index]? = some id) : id.toInt = first.toInt + index := by
  induction rest generalizing first index with
  | nil =>
    cases index with
    | zero =>
      grind
    | succ index => cases found
  | cons second rest ih =>
    cases index with
    | zero =>
      grind
    | succ index =>
      obtain ⟨next, consecutive⟩ := List.isChain_cons_cons.mp consecutive
      rw [ih consecutive found, next, Int.natCast_succ]
      omega

variable (consecutive : Consecutive ids)
include consecutive

theorem toInt_getElem? (head : ids[0]? = some first) (found : ids[index]? = some id) :
    id.toInt = first.toInt + index := by
  cases ids with
  | nil => cases head
  | cons other rest =>
    obtain rfl := Option.some.inj head
    exact consecutive.toInt_eq found

/-- No integer is met twice. -/
theorem index_unique {other : Nat} (found : ids[index]? = some id) (again : ids[other]? = some id) :
    index = other := by
  cases ids with
  | nil => cases found
  | cons first rest =>
    have here := consecutive.toInt_eq found
    have there := consecutive.toInt_eq again
    omega

/-- The integers increase. -/
theorem pairwise_lt : ids.Pairwise (· < ·) := by
  rw [List.pairwise_iff_getElem]
  intro earlier later before after order
  have first := List.getElem?_eq_getElem (Nat.zero_lt_of_lt after)
  have lower := consecutive.toInt_getElem? first (List.getElem?_eq_getElem before)
  have upper := consecutive.toInt_getElem? first (List.getElem?_eq_getElem after)
  rw [Int32.lt_iff_toInt_lt]
  omega

theorem nodup : ids.Nodup :=
  consecutive.pairwise_lt.imp fun order => Int32.ne_of_lt order

theorem idxOf?_eq (found : ids[index]? = some id) : ids.idxOf? id = some index := by
  cases position : ids.idxOf? id with
  | none =>
    grind
  | some other =>
    have again : ids[other]? = some id := by
      rw [List.idxOf?, List.findIdx?_eq_some_iff_getElem] at position
      grind
    rw [consecutive.index_unique found again]

/-- The integers are those between the first and the last one. -/
theorem exists_index (head : ids[0]? = some first) (final : ids[ids.length - 1]? = some last)
    (lower : first ≤ id) (upper : id ≤ last) :
    ∃ index : Nat, ids[index]? = some id ∧ id.toInt = first.toInt + index := by
  have length := (List.getElem?_eq_some_iff.mp head).1
  have span := consecutive.toInt_getElem? head final
  rw [Int32.le_iff_toInt_le] at lower upper
  obtain ⟨index, distance⟩ := Int.eq_ofNat_of_zero_le (Int.sub_nonneg_of_le lower)
  have inside : index < ids.length := by omega
  have found := List.getElem?_eq_getElem inside
  have value := consecutive.toInt_getElem? head found
  have same : ids[index] = id := Int32.toInt_inj.mp (by omega)
  exact ⟨index, by rw [found, same], by omega⟩

theorem bounds_of_getElem? (head : ids[0]? = some first) (final : ids[ids.length - 1]? = some last)
    (found : ids[index]? = some id) : first ≤ id ∧ id ≤ last := by
  have inside := (List.getElem?_eq_some_iff.mp found).1
  have value := consecutive.toInt_getElem? head found
  have span := consecutive.toInt_getElem? head final
  rw [Int32.le_iff_toInt_le, Int32.le_iff_toInt_le]
  omega

end Consecutive

end PcapdroidFormal.Foundation
