/-!
# Arrays that grow by doubling

A C array with a block of slots, the number of slots the block is meant to have and
the number of slots in use.  A growth that fails leaves the null pointer behind.
-/

namespace PcapdroidFormal.Foundation

/-- The block is `none` for the null pointer, a slot is `none` before it is written. -/
structure GrowArray (Item : Type) where
  items : Option (List (Option Item))
  size : Nat
  curItems : Nat

namespace GrowArray

variable {Item : Type} {array : GrowArray Item} {stored : List Item}

def empty : GrowArray Item := ⟨none, 0, 0⟩

def slots (array : GrowArray Item) : List (Option Item) := array.items.getD []

/-- The size an array grows to; there is none if it exceeds an `int`. -/
def grownSize (size : Nat) : Option Nat :=
  if size = 0 then some 8 else if size * 2 < 2147483648 then some (size * 2) else none

/-- What `realloc` leaves: a block with the old contents, or the null pointer. -/
def realloc (array : GrowArray Item) (size : Nat) (granted : Bool) : GrowArray Item :=
  { array with
    size := size
    items :=
      if granted then
        some (array.slots.take size ++ List.replicate (size - array.slots.length) none)
      else none }

/-- `items[cur_items++] = item`; no state follows a write outside of the block. -/
def push (array : GrowArray Item) (item : Item) : Option (GrowArray Item) :=
  if array.curItems < array.slots.length then
    some { array with
      items := some (array.slots.set array.curItems (some item))
      curItems := array.curItems + 1 }
  else none

/-- The array has the slots it claims, and the slots in use hold the stored items. -/
structure Sound (array : GrowArray Item) (stored : List Item) : Prop where
  inUse : array.curItems = stored.length
  bounded : array.curItems ≤ array.size
  allocated : array.size ≤ array.slots.length
  kept : array.slots.take array.curItems = stored.map some

theorem lt_of_grownSize {size grown : Nat} (grows : grownSize size = some grown) :
    size < grown := by
  unfold grownSize at grows
  split at grows
  next zero =>
    cases grows
    omega
  next positive =>
    split at grows
    next =>
      cases grows
      omega
    next => cases grows

theorem Sound.empty : Sound (empty : GrowArray Item) [] :=
  ⟨rfl, Nat.le_refl _, Nat.le_refl _, rfl⟩

theorem Sound.realloc (sound : array.Sound stored) {size : Nat} (room : array.size ≤ size) :
    (array.realloc size true).Sound stored := by
  have used : array.curItems ≤ size := Nat.le_trans sound.bounded room
  refine ⟨sound.inUse, used, ?_, ?_⟩
  · simp [GrowArray.realloc, slots]
    omega
  · have long : array.curItems ≤ (array.slots.take size).length := by
      have := sound.bounded
      have := sound.allocated
      rw [List.length_take]
      omega
    change List.take array.curItems (array.slots.take size ++ _) = _
    rw [List.take_append_of_le_length long, List.take_take, Nat.min_eq_left used, sound.kept]

/-- There is room for an item in a sound array that is not full. -/
theorem Sound.push (sound : array.Sound stored) (room : array.curItems < array.size)
    (item : Item) :
    ∃ next, array.push item = some next ∧ next.size = array.size ∧
      next.Sound (stored ++ [item]) := by
  have inside : array.curItems < array.slots.length := Nat.lt_of_lt_of_le room sound.allocated
  refine ⟨_, if_pos inside, rfl, ?_, room, ?_, ?_⟩
  · simp [sound.inUse]
  · simpa [slots] using sound.allocated
  · change List.take (array.curItems + 1) (array.slots.set array.curItems (some item)) = _
    rw [List.take_succ_eq_append_getElem (by simpa using inside), List.getElem_set_self,
      List.take_set_of_le (Nat.le_refl _), sound.kept, List.map_append]
    rfl

end GrowArray

end PcapdroidFormal.Foundation
