import PcapdroidFormal.Core.State
import PcapdroidFormal.Foundation.GrowArray
import PcapdroidFormal.Foundation.Runs

/-!
# The status of the loaded blacklists

`load_new_blacklists` records every list it could load in an array.  Its test for a full
array is the wrong way round, `size >= cur_items`, so the array grows for every list, and
a growth that fails forgets the entries but not their number.
-/

namespace PcapdroidFormal.Lists

open PcapdroidFormal.Core Foundation

/-- `bl_status_t` -/
structure BlStatus where
  fname : Host
  numRules : Nat
  deriving DecidableEq

abbrev StatusArray := GrowArray BlStatus

/-- A configured list, and what the calls made for it return. -/
structure ListLoad where
  fname : Host
  /-- The number of rules, if `blacklist_load_file` returns 0. -/
  numRules : Option Nat
  reallocated : Bool
  duplicated : Bool

/-- The end of a round of the loop: the name is copied and the entry written. -/
def recordStatus (arr : StatusArray) (list : ListLoad) (numRules : Nat) : Option StatusArray :=
  if list.duplicated then arr.push ⟨list.fname, numRules⟩ else some arr

/-- One round of the loop; none stands for a write outside of the block or an overflow. -/
def loadList (arr : StatusArray) (list : ListLoad) : Option StatusArray :=
  match list.numRules with
  | none => some arr
  | some numRules =>
    if arr.curItems ≤ arr.size then
      match GrowArray.grownSize arr.size with
      | none => none
      | some size =>
        if list.reallocated then recordStatus (arr.realloc size true) list numRules
        else some { arr.realloc size false with size := 0 }
    else recordStatus arr list numRules

def loadNewBlacklists (lists : List ListLoad) : Option StatusArray := lists.foldlM loadList .empty

/-! ## What the array is meant to hold -/

/-- The entry of a list for which every call succeeds. -/
def ListLoad.entry (list : ListLoad) : Option BlStatus :=
  if list.reallocated && list.duplicated then list.numRules.map (⟨list.fname, ·⟩) else none

def entries (lists : List ListLoad) : List BlStatus := lists.filterMap ListLoad.entry

def numLoaded (lists : List ListLoad) : Nat := lists.countP (·.numRules.isSome)

/-- Every write was inside of the block, the array holds the entries and is not too large. -/
def StatusKept (lists : List ListLoad) : Prop :=
  ∃ arr, loadNewBlacklists lists = some arr ∧ arr.Sound (entries lists) ∧
    arr.size ≤ max 8 (2 * numLoaded lists)

/-- How often the array has grown since its last reallocation failed. -/
def growths (lists : List ListLoad) : Nat :=
  lists.foldl (fun count list =>
    if list.numRules.isNone then count else if list.reallocated then count + 1 else 0) 0

/-- The size of an array that has grown so often. -/
def sizeAfter : Nat → Nat
  | 0 => 0
  | 1 => 8
  | growths + 2 => sizeAfter (growths + 1) * 2

/-- A list that is loaded after the others does no harm. -/
def GrowsSafely (first : List ListLoad) (list : ListLoad) : Prop :=
  list.numRules.isSome = true →
    sizeAfter (growths first + 1) < 2147483648 ∧
      if list.reallocated then
        sizeAfter (growths first + 1) ≤ max 8 (2 * (numLoaded first + 1))
      else entries first = []

/-! ## One round -/

theorem sizeAfter_succ_pos (growths : Nat) : 0 < sizeAfter (growths + 1) := by
  induction growths with
  | zero => decide
  | succ growths ih => exact Nat.mul_pos ih (by decide)

theorem grownSize_sizeAfter (growths : Nat) :
    GrowArray.grownSize (sizeAfter growths) =
      if sizeAfter (growths + 1) < 2147483648 then some (sizeAfter (growths + 1)) else none := by
  cases growths with
  | zero => rfl
  | succ growths => exact if_neg (Nat.ne_of_gt (sizeAfter_succ_pos growths))

section Round

variable {first : List ListLoad} {list : ListLoad} {arr : StatusArray} {numRules : Nat}

theorem recordStatus_sound {stored : List BlStatus} (sound : arr.Sound stored)
    (room : arr.curItems < arr.size) (loaded : list.numRules = some numRules)
    (granted : list.reallocated = true) :
    ∃ next, recordStatus arr list numRules = some next ∧ next.size = arr.size ∧
      next.Sound (stored ++ list.entry.toList) := by
  cases duplicated : list.duplicated with
  | false => exact ⟨arr, by simp [recordStatus, duplicated], rfl,
      by simpa [ListLoad.entry, duplicated] using sound⟩
  | true => simpa [recordStatus, ListLoad.entry, duplicated, loaded, granted] using
      sound.push room ⟨list.fname, numRules⟩

/-- A sound array grows for a list that was loaded. -/
theorem loadList_granted (sound : arr.Sound (entries first))
    (size : arr.size = sizeAfter (growths first)) (loaded : list.numRules = some numRules)
    (granted : list.reallocated = true) (small : sizeAfter (growths first + 1) < 2147483648) :
    ∃ next, loadList arr list = some next ∧ next.size = sizeAfter (growths first + 1) ∧
      next.Sound (entries first ++ list.entry.toList) := by
  have grows := grownSize_sizeAfter (growths first)
  rw [if_pos small, ← size] at grows
  have more := GrowArray.lt_of_grownSize grows
  simp only [loadList, loaded, if_pos sound.bounded, grows, granted, if_true]
  exact recordStatus_sound (sound.realloc (Nat.le_of_lt more))
    (Nat.lt_of_le_of_lt sound.bounded more) loaded granted

end Round

theorem loadNewBlacklists_snoc (first : List ListLoad) (list : ListLoad) :
    loadNewBlacklists (first ++ [list]) = (loadNewBlacklists first).bind (loadList · list) := by
  simp [loadNewBlacklists]

/-- The size of the array follows from the reallocations. -/
def SizeFollows (lists : List ListLoad) : Prop :=
  ∀ arr, loadNewBlacklists lists = some arr → arr.size = sizeAfter (growths lists)

section

variable (first : List ListLoad)

theorem numLoaded_snoc {list : ListLoad} (loaded : list.numRules = some numRules) :
    numLoaded (first ++ [list]) = numLoaded first + 1 := by
  simp [numLoaded, loaded]

theorem growths_snoc {list : ListLoad} (loaded : list.numRules = some numRules) :
    growths (first ++ [list]) = if list.reallocated then growths first + 1 else 0 := by
  simp [growths, loaded]

theorem entries_snoc (list : ListLoad) :
    entries (first ++ [list]) = entries first ++ list.entry.toList := by
  cases found : list.entry <;> simp [entries, found]

end

/-- What one more list does to an array that has been kept so far. -/
theorem round_iff {first : List ListLoad} (follows : SizeFollows first)
    (kept : StatusKept first) (list : ListLoad) :
    SizeFollows (first ++ [list]) ∧ (StatusKept (first ++ [list]) ↔ GrowsSafely first list) := by
  obtain ⟨arr, loads, sound, small⟩ := kept
  have size := follows arr loads
  have after : loadNewBlacklists (first ++ [list]) = loadList arr list := by
    rw [loadNewBlacklists_snoc, loads]
    rfl
  unfold SizeFollows StatusKept GrowsSafely
  rw [after, entries_snoc]
  cases loaded : list.numRules with
  | none =>
    have same : growths (first ++ [list]) = growths first := by simp [growths, loaded]
    have count : numLoaded (first ++ [list]) = numLoaded first := by simp [numLoaded, loaded]
    have skipped : loadList arr list = some arr := by simp [loadList, loaded]
    have unnamed : list.entry = none := by simp [ListLoad.entry, loaded]
    rw [skipped, unnamed, same, count, Option.toList_none, List.append_nil]
    refine ⟨fun next done => by cases done; exact size, fun _ absent => ?_, fun _ => ?_⟩
    · cases absent
    · exact ⟨arr, rfl, sound, small⟩
  | some numRules =>
    rw [numLoaded_snoc first loaded, growths_snoc first loaded]
    by_cases fits : sizeAfter (growths first + 1) < 2147483648
    · cases granted : list.reallocated with
      | true =>
        obtain ⟨next, done, grown, stored⟩ := loadList_granted sound size loaded granted fits
        simp [done, grown, stored, fits]
      | false =>
        have grows := grownSize_sizeAfter (growths first)
        rw [if_pos fits, ← size] at grows
        have lost : loadList arr list = some ⟨none, 0, arr.curItems⟩ := by
          simp [loadList, loaded, sound.bounded, grows, granted, GrowArray.realloc]
        have unnamed : list.entry = none := by simp [ListLoad.entry, granted]
        rw [lost, unnamed, Option.toList_none, List.append_nil]
        refine ⟨fun next done => by cases done; rfl, ?_, ?_⟩
        · rintro ⟨next, done, stored, -⟩ -
          cases done
          exact ⟨fits, List.eq_nil_of_length_eq_zero
            (stored.inUse ▸ Nat.le_zero.mp stored.bounded)⟩
        · intro safe
          have nothing : entries first = [] := (safe rfl).2
          have unused := sound.inUse
          rw [nothing] at unused ⊢
          exact ⟨_, rfl, ⟨unused, Nat.le_of_eq unused, Nat.le_refl _, List.take_nil⟩, Nat.zero_le _⟩
    · have grows := grownSize_sizeAfter (growths first)
      rw [if_neg fits, ← size] at grows
      simp [loadList, loaded, sound.bounded, grows, fits]

/-- One more list. -/
def listed (first : List ListLoad) (list : ListLoad) : List ListLoad := first ++ [list]

theorem run_listed (first lists : List ListLoad) : run listed first lists = first ++ lists := by
  induction lists generalizing first with
  | nil => simp
  | cons list lists ih => simp [ih, listed]

/-- The array is as it should be after every list just if all the lists do no harm. -/
theorem status_array_grows_iff (lists : List ListLoad) :
    (∀ first rest, lists = first ++ rest → StatusKept first) ↔
      Guarded listed GrowsSafely [] lists := by
  have start : StatusKept [] := ⟨.empty, rfl, .empty, by decide⟩
  have follows : SizeFollows [] := fun arr loads => by cases loads; rfl
  have steps := @guarded_iff _ _ listed GrowsSafely SizeFollows StatusKept
    (fun first list follows kept => (round_iff follows kept list).1)
    (fun first list follows kept => (round_iff follows kept list).2) [] follows start lists
  simpa [run_listed] using steps

/-- The second list that is loaded makes the array larger than it should be. -/
theorem second_list_oversizes_array :
    ¬∀ first rest, List.replicate 2 (⟨[], some 1, true, true⟩ : ListLoad) = first ++ rest →
      StatusKept first := by
  intro kept
  obtain ⟨arr, loads, -, small⟩ := kept _ [] (List.append_nil _).symm
  cases loads
  exact absurd small (by decide)

end PcapdroidFormal.Lists
