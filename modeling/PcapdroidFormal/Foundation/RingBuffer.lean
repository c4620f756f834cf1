import Mathlib.Data.List.DropRight
import Mathlib.Tactic.SplitIfs

/-!
# Ring buffers

A ring overwrites its oldest item once it is full, so what it holds is a window
on the items pushed so far: the last ones, as many as there are slots.  Positions
are counted from the oldest item and wrap around the end of the slots once.
-/

namespace PcapdroidFormal.Foundation

universe u

variable {α : Type u}

/-! ## The last items of a list -/

theorem length_rtake (items : List α) (size : Nat) :
    (items.rtake size).length = min items.length size := by
  rw [List.rtake, List.length_drop]
  omega

theorem rtake_of_length_le {items : List α} {size : Nat} (fits : items.length ≤ size) :
    items.rtake size = items := by
  rw [List.rtake, Nat.sub_eq_zero_of_le fits, List.drop_zero]

/-- Items that are out of the window stay out of it. -/
theorem rtake_rtake_append (items more : List α) (size : Nat) :
    (items.rtake size ++ more).rtake size = (items ++ more).rtake size := by
  simp only [List.rtake, List.drop_append, List.drop_drop, List.length_append, List.length_drop]
  congr 2 <;> omega

/-- A window that is filled by the last items. -/
theorem rtake_append_of_le {items : List α} {size : Nat} (filled : size ≤ items.length)
    (front : List α) : (front ++ items).rtake size = items.rtake size := by
  rw [List.rtake, List.rtake, List.drop_append, List.drop_eq_nil_of_le, List.nil_append]
  · grind
  · grind

/-- New items push the oldest ones out of the window. -/
theorem rtake_append (items more : List α) (size : Nat) :
    (items ++ more).rtake size =
      (items.rtake size).drop ((items.rtake size).length + (more.rtake size).length - size) ++
        more.rtake size := by
  rcases Nat.le_total size more.length with filled | short
  · have whole := length_rtake more size
    rw [Nat.min_eq_right filled] at whole
    rw [rtake_append_of_le filled, whole, Nat.add_sub_cancel, List.drop_length, List.nil_append]
  · rw [rtake_of_length_le short, length_rtake]
    simp only [List.rtake, List.drop_append, List.drop_drop, List.length_append]
    rw [show items.length + more.length - size - items.length = 0 by omega, List.drop_zero]
    congr 2
    omega

/-- The window is replaced by as many items. -/
theorem rtake_take_append {items new : List α} {size : Nat}
    (same : new.length = (items.rtake size).length) :
    (items.take (items.length - size) ++ new).rtake size = new := by
  rw [length_rtake] at same
  rcases Nat.le_total items.length size with fits | full
  · rw [Nat.sub_eq_zero_of_le fits, List.take_zero, List.nil_append]
    exact rtake_of_length_le (by omega)
  · rw [rtake_append_of_le (by omega)]
    exact rtake_of_length_le (by omega)

theorem rtake_map {β : Type u} (change : α → β) (items : List α) (size : Nat) :
    (items.map change).rtake size = (items.rtake size).map change := by
  rw [List.rtake, List.rtake, List.length_map, List.map_drop]

/-! ## Positions -/

/-- A position that passed the end of the slots at most once. -/
theorem mod_eq_wrapped {position size : Nat} (bound : position < 2 * size) :
    position % size = if position < size then position else position - size := by
  split
  next inside => exact Nat.mod_eq_of_lt inside
  next outside =>
    rw [Nat.mod_eq_sub_mod (by omega)]
    exact Nat.mod_eq_of_lt (by omega)

/-- The slots of a ring, the next one to be written and the number of items. -/
structure RingBuffer (α : Type u) where
  slots : List (Option α)
  tail : Nat
  count : Nat

namespace RingBuffer

def size (ring : RingBuffer α) : Nat := ring.slots.length

/-- The position of the oldest item. -/
def first (ring : RingBuffer α) : Nat := if ring.count < ring.size then 0 else ring.tail

/-- The position of an item, counted from the oldest one. -/
def position (ring : RingBuffer α) (index : Nat) : Nat := (ring.first + index) % ring.size

def push (ring : RingBuffer α) (item : α) : RingBuffer α where
  slots := ring.slots.set ring.tail (some item)
  tail := (ring.tail + 1) % ring.size
  count := min (ring.count + 1) ring.size

def replace (ring : RingBuffer α) (position : Nat) (item : α) : RingBuffer α :=
  { ring with slots := ring.slots.set position (some item) }

@[simp] theorem push_size (ring : RingBuffer α) (item : α) : (ring.push item).size = ring.size :=
  List.length_set

@[simp] theorem replace_size (ring : RingBuffer α) (position : Nat) (item : α) :
    (ring.replace position item).size = ring.size := List.length_set

structure Holds (ring : RingBuffer α) (window : List α) : Prop where
  count : ring.count = window.length
  fits : window.length ≤ ring.size
  tail : ring.tail = ring.position window.length
  items : ∀ {index : Nat} {item : α}, window[index]? = some item →
    ring.slots[ring.position index]? = some (some item)

namespace Holds

variable {ring : RingBuffer α} {window : List α}

theorem empty (size : Nat) : (RingBuffer.mk (List.replicate size (none : Option α)) 0 0).Holds [] where
  count := rfl
  fits := Nat.zero_le _
  tail := by
    have oldest : (RingBuffer.mk (List.replicate size (none : Option α)) 0 0).first = 0 := ite_self 0
    rw [position, oldest]
    exact (Nat.zero_mod _).symm
  items := nofun

variable (holds : ring.Holds window) {index : Nat}
include holds

theorem tail_lt (positive : 0 < ring.size) : ring.tail < ring.size := by
  rw [holds.tail]
  exact Nat.mod_lt _ positive

theorem first_lt (positive : 0 < ring.size) : ring.first < ring.size := by
  unfold first
  split
  next => exact positive
  next => exact holds.tail_lt positive

/-- Up to the end of the window no position is met twice. -/
theorem position_eq (positive : 0 < ring.size) (inside : index ≤ ring.size) :
    ring.position index = if ring.first + index < ring.size then ring.first + index
      else ring.first + index - ring.size := by
  have oldest := holds.first_lt positive
  exact mod_eq_wrapped (by omega)

theorem position_lt (inside : index < window.length) : ring.position index < ring.size := by
  have fits := holds.fits
  exact Nat.mod_lt _ (by omega)

theorem position_inj {first second : Nat} (inside : first < ring.size) (behind : second < ring.size)
    (same : ring.position first = ring.position second) : first = second := by
  have positive : 0 < ring.size := by omega
  have oldest := holds.first_lt positive
  rw [holds.position_eq positive (Nat.le_of_lt inside),
    holds.position_eq positive (Nat.le_of_lt behind)] at same
  split_ifs at same <;> omega

/-- The distance of a position from the oldest item. -/
theorem position_offset (inside : index < ring.size) :
    (ring.position index + ring.size - ring.first) % ring.size = index := by
  have positive : 0 < ring.size := by omega
  have oldest := holds.first_lt positive
  rw [holds.position_eq positive (Nat.le_of_lt inside), mod_eq_wrapped (by split_ifs <;> omega)]
  split_ifs <;> omega

/-- The slot in front of the tail is the one of the newest item. -/
theorem position_last (nonempty : window ≠ []) :
    (ring.tail + ring.size - 1) % ring.size = ring.position (window.length - 1) := by
  have some := List.length_pos_iff.mpr nonempty
  have fits := holds.fits
  have positive : 0 < ring.size := by omega
  have oldest := holds.first_lt positive
  have behind := holds.tail_lt positive
  rw [mod_eq_wrapped (by omega), holds.tail, holds.position_eq positive fits,
    holds.position_eq positive (by omega)]
  split_ifs <;> omega

/-- A push moves the oldest item by the number of items that it drops. -/
theorem push_first (item : α) :
    (ring.push item).first = (ring.first + (window.length + 1 - ring.size)) % ring.size := by
  have fits := holds.fits
  have count : (ring.push item).count = min (window.length + 1) ring.size := by
    rw [← holds.count]
    rfl
  have tail : (ring.push item).tail = (ring.position window.length + 1) % ring.size := by
    rw [← holds.tail]
    rfl
  rw [first, push_size, count, tail]
  rcases Nat.lt_or_ge window.length ring.size with room | full
  · have oldest : ring.first = 0 := if_pos (by rwa [holds.count])
    rw [position, oldest, Nat.zero_add, Nat.zero_add, Nat.mod_eq_of_lt room,
      Nat.sub_eq_zero_of_le room, Nat.zero_mod]
    -- the last free slot is the end of the slots, so the tail returns to the oldest item
    split
    next => rfl
    next filled =>
      have last : window.length + 1 = ring.size := by omega
      rw [last, Nat.mod_self]
  · have dropped : window.length + 1 - ring.size = 1 := by omega
    have oldest : ring.first = ring.tail := if_neg (by rw [holds.count]; omega)
    rw [if_neg (by omega), ← holds.tail, oldest, dropped]

/-- A push moves the positions by the number of items that it drops. -/
theorem push_position (item : α) (index : Nat) : (ring.push item).position index =
      ring.position (window.length + 1 - ring.size + index) := by
  rw [position, position, push_size, holds.push_first, Nat.mod_add_mod, Nat.add_assoc]

theorem push_tail (item : α) :
    (ring.push item).tail = (ring.push item).position (min (window.length + 1) ring.size) := by
  have next : window.length + 1 - ring.size + min (window.length + 1) ring.size =
      window.length + 1 := by omega
  have tail : (ring.push item).tail = (ring.tail + 1) % ring.size := rfl
  rw [holds.push_position, next, tail, holds.tail, position, position, Nat.mod_add_mod,
    Nat.add_assoc]

/-- The position of an item that a push keeps is not overwritten. -/
theorem position_ne_tail (positive : 0 < ring.size) (kept : window.length + 1 - ring.size ≤ index)
    (inside : index < window.length) : ring.position index ≠ ring.tail := by
  have fits := holds.fits
  have oldest := holds.first_lt positive
  rw [holds.tail, holds.position_eq positive fits, holds.position_eq positive (by omega)]
  split_ifs <;> omega

theorem push (positive : 0 < ring.size) (item : α) :
    (ring.push item).Holds ((window ++ [item]).rtake ring.size) := by
  have grown : (window ++ [item]).length = window.length + 1 := List.length_append
  have length : ((window ++ [item]).rtake ring.size).length = min (window.length + 1) ring.size := by
    rw [length_rtake, grown]
  refine ⟨?_, ?_, ?_, ?_⟩
  · rw [length, ← holds.count]
    rfl
  · rw [length, push_size]
    exact Nat.min_le_right _ _
  · rw [length]
    exact holds.push_tail item
  · intro index other found
    rw [List.rtake, List.getElem?_drop, grown] at found
    have inside := (List.getElem?_eq_some_iff.mp found).1
    rw [grown] at inside
    rw [holds.push_position]
    -- the new item is in the slot of the old tail, the others are where they were
    rcases Nat.lt_succ_iff_lt_or_eq.mp inside with old | new
    · rw [List.getElem?_append_left old] at found
      change (ring.slots.set ring.tail (some item))[_]? = _
      rw [List.getElem?_set_ne (holds.position_ne_tail positive (by omega) old).symm]
      exact holds.items found
    · rw [new, List.getElem?_concat_length] at found
      rw [new, ← holds.tail, ← Option.some.inj found]
      exact List.getElem?_set_self (holds.tail_lt positive)

theorem replace (inside : index < window.length) (item : α) :
    (ring.replace (ring.position index) item).Holds (window.set index item) := by
  have same (other : Nat) : (ring.replace (ring.position index) item).position other =
      ring.position other := by
    simp only [position, first, replace_size]
    rfl
  refine ⟨holds.count.trans List.length_set.symm, ?_, ?_, ?_⟩
  · rw [List.length_set, replace_size]
    exact holds.fits
  · rw [List.length_set, same]
    exact holds.tail
  · intro other value found
    rw [same]
    rcases Nat.decEq index other with differ | rfl
    · rw [List.getElem?_set_ne differ] at found
      have bound := (List.getElem?_eq_some_iff.mp found).1
      have fits := holds.fits
      have apart : ring.position index ≠ ring.position other :=
        fun equal => differ (holds.position_inj (by omega) (by omega) equal)
      exact (List.getElem?_set_ne apart).trans (holds.items found)
    · rw [List.getElem?_set_self inside] at found
      rw [← Option.some.inj found]
      exact List.getElem?_set_self (holds.position_lt inside)

end Holds

end RingBuffer

end PcapdroidFormal.Foundation
