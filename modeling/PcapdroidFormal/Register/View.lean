import PcapdroidFormal.Register.Adapter

/-!
# The view of the adapter

The position of an item is stored with an offset, the number of items that left
the view at its front, so a removal there moves all other items without a write.
A removal in the middle leaves wrong positions behind until they are fixed.  The
lemmas say what each operation does to the view and to the stored positions, and
that the notifications lead an observer from one view to the next.
-/

namespace PcapdroidFormal.Register

open Foundation

/-! ## Replaying notifications -/

/-- What an observer does with its copy of the list; new items are taken from the view. -/
def Notification.replay (shadow view : List Int32) : Notification → Option (List Int32)
  | .itemRangeInserted start count =>
    let first := start.toNatClampNeg
    let added := count.toNatClampNeg
    if start < 0 ∨ count < 0 ∨ shadow.length < first ∨ view.length < first + added then none
    else some (shadow.take first ++ ((view.drop first).take added ++ shadow.drop first))
  | .itemRangeRemoved start count =>
    let first := start.toNatClampNeg
    let gone := count.toNatClampNeg
    if start < 0 ∨ count < 0 ∨ shadow.length < first + gone then none
    else some (shadow.take first ++ shadow.drop (first + gone))
  | .itemRemoved pos =>
    if pos < 0 ∨ shadow.length ≤ pos.toNatClampNeg then none
    else some (shadow.eraseIdx pos.toNatClampNeg)
  | .itemChanged pos =>
    if pos < 0 ∨ shadow.length ≤ pos.toNatClampNeg then none
    else (view[pos.toNatClampNeg]?).map fun item => shadow.set pos.toNatClampNeg item
  | .dataSetChanged => some view

def replayAll (shadow : List Int32) : List (Notification × List Int32) → Option (List Int32)
  | [] => some shadow
  | (notification, view) :: others => do
      let shadow ← notification.replay shadow view
      if shadow = view then replayAll shadow others else none

theorem replayAll_snoc {shadow before view : List Int32} {notification : Notification}
    {log : List (Notification × List Int32)} (replayed : replayAll shadow log = some before)
    (step : notification.replay before view = some view) :
    replayAll shadow (log ++ [(notification, view)]) = some view := by
  induction log generalizing shadow with
  | nil =>
    obtain rfl := Option.some.inj replayed
    simp only [List.nil_append, replayAll, step, Option.bind_eq_bind, Option.bind_some, if_true]
  | cons entry log ih =>
    simp only [List.cons_append, replayAll, Option.bind_eq_bind,
      Option.bind_eq_some_iff] at replayed ⊢
    grind

/-! ## Stored positions -/

def Stores (positions : Int32 → Option Int32) (offset : Nat) (items : List Int32) : Prop :=
  ∀ (index : Nat) (id : Int32), items[index]? = some id →
    positions id = some (.ofNat (index + offset))

namespace Stores

variable {positions : Int32 → Option Int32} {offset : Nat} {items others : List Int32} {id : Int32}

theorem nil : Stores positions offset [] := nofun

section

variable (stores : Stores positions offset (id :: items))
include stores

theorem head : positions id = some (.ofNat offset) := by
  have stored := stores 0 id rfl
  rwa [Nat.zero_add] at stored

theorem tail : Stores positions (offset + 1) items := by
  intro index other found
  have stored := stores (index + 1) other found
  grind

end

theorem append (stores : Stores positions offset items)
    (behind : Stores positions (items.length + offset) others) :
    Stores positions offset (items ++ others) := by
  intro index id found
  rcases Nat.lt_or_ge index items.length with inside | outside
  · rw [List.getElem?_append_left inside] at found
    exact stores index id found
  · rw [List.getElem?_append_right outside] at found
    have place : index - items.length + (items.length + offset) = index + offset := by omega
    rw [behind _ id found, place]

theorem singleton (stored : positions id = some (.ofNat offset)) :
    Stores positions offset [id] := by
  intro index other found
  cases index with
  | zero =>
    grind
  | succ index => cases found

/-- The position of another item is written. -/
theorem update (stores : Stores positions offset items) (absent : id ∉ items)
    (stored : Option Int32) : Stores (Function.update positions id stored) offset items := by
  intro index other found
  have differ : other ≠ id := fun same => absent (same ▸ List.mem_of_getElem? found)
  rw [Function.update_of_ne differ]
  exact stores index other found

end Stores

namespace ConnectionsAdapter

variable {adapter : ConnectionsAdapter} {view : List Int32} {removed : Nat} {id pos : Int32}
  {position : Nat}

/-- The view, with the position of each of its items and of nothing else. -/
structure Indexed (adapter : ConnectionsAdapter) (view : List Int32) (removed : Nat) : Prop where
  filtered : adapter.filteredConn = some view
  numRemoved : adapter.numRemovedItems = .ofNat removed
  stores : Stores adapter.idToFilteredPos removed view
  others : ∀ {id}, id ∉ view → adapter.idToFilteredPos id = none

theorem view_of_filtered (filtered : adapter.filteredConn = some view) : adapter.view = view := by
  rw [ConnectionsAdapter.view, filtered, Option.getD_some]

theorem getFilteredItemPos_of_none (unknown : adapter.idToFilteredPos id = none) :
    adapter.getFilteredItemPos id = -1 := by
  rw [getFilteredItemPos, unknown, Option.getD_none]
  exact if_pos rfl

theorem getFilteredItemPos_of_some (numRemoved : adapter.numRemovedItems = .ofNat removed)
    (stored : adapter.idToFilteredPos id = some (.ofNat (position + removed)))
    (bound : position + removed + 1 < 2 ^ 32) :
    adapter.getFilteredItemPos id = .ofNat position := by
  rw [getFilteredItemPos, stored, Option.getD_some, numRemoved]
  refine (if_neg (ofNat_ne_neg_one bound)).trans ?_
  rw [Int32.ofNat_add]
  grind

theorem removeFilteredItemAt_eq {front back : List Int32}
    (filtered : adapter.filteredConn = some (front ++ id :: back)) (is : IsNat pos front.length) :
    adapter.removeFilteredItemAt pos = { adapter with
      filteredConn := some (front ++ back)
      idToFilteredPos := Function.update adapter.idToFilteredPos id none
      notified := adapter.notified ++ [(.itemRemoved pos, front ++ back)] } := by
  have item : adapter.getItem pos = some id := by
    rw [getItem, if_neg is.not_neg, is.toNat, view_of_filtered filtered,
      List.getElem?_append_right (Nat.le_refl _), Nat.sub_self]
    rfl
  have erased : (front ++ id :: back).eraseIdx front.length = front ++ back := by
    grind
  simp only [removeFilteredItemAt, item, notify, view_of_filtered filtered, is.toNat, erased]
  rfl

/-- An observer that removes the item gets the view. -/
theorem replay_itemRemoved {front back : List Int32} {id pos : Int32}
    (is : IsNat pos front.length) :
    (Notification.itemRemoved pos).replay (front ++ id :: back) (front ++ back) =
      some (front ++ back) := by
  rw [Notification.replay, is.toNat, if_neg]
  · grind
  · rintro (negative | outside)
    · exact is.not_neg negative
    · grind

/-- An observer that rebinds an item keeps the view. -/
theorem replay_itemChanged (is : IsNat pos position) (inside : position < view.length) :
    (Notification.itemChanged pos).replay view view = some view := by
  rw [Notification.replay, is.toNat, if_neg, List.getElem?_eq_getElem inside, Option.map_some,
    List.set_getElem_self]
  rintro (negative | outside)
  · exact is.not_neg negative
  · omega

/-- The view is indexed, and an observer has followed it up to now. -/
structure Mirrors (adapter : ConnectionsAdapter) (view : List Int32) (removed : Nat) : Prop where
  indexed : adapter.Indexed view removed
  replayed : replayAll [] adapter.notified = some view

theorem Mirrors.notNone (mirrors : adapter.Mirrors view removed) :
    ¬adapter.filteredConn.isNone = true := by
  rw [mirrors.indexed.filtered]
  exact Bool.false_ne_true

theorem Mirrors.setUnfilteredItemsCount (mirrors : adapter.Mirrors view removed) (count : Int32) :
    { adapter with unfilteredItemsCount := count }.Mirrors view removed :=
  ⟨⟨mirrors.indexed.filtered, mirrors.indexed.numRemoved, mirrors.indexed.stores,
    mirrors.indexed.others⟩, mirrors.replayed⟩

/-! ## Removing connections -/

/-- The first item of the view leaves it. -/
theorem Indexed.removeFirst (indexed : adapter.Indexed (id :: view) removed)
    (nodup : (id :: view).Nodup) :
    { adapter.removeFilteredItemAt 0 with
      numRemovedItems := (adapter.removeFilteredItemAt 0).numRemovedItems + 1 }.Indexed view
        (removed + 1) := by
  obtain ⟨absent, -⟩ := List.nodup_cons.mp nodup
  have filtered : adapter.filteredConn = some ([] ++ id :: view) := indexed.filtered
  rw [removeFilteredItemAt_eq filtered .zero]
  refine ⟨rfl, ?_, indexed.stores.tail.update absent none, fun {other} missing => ?_⟩
  · change adapter.numRemovedItems + 1 = _
    rw [indexed.numRemoved, Int32.ofNat_add]
    rfl
  · change Function.update adapter.idToFilteredPos id none other = none
    rcases eq_or_ne other id with rfl | differ
    · exact Function.update_self ..
    · rw [Function.update_of_ne differ]
      exact indexed.others fun member => (List.mem_cons.mp member).elim differ missing

end ConnectionsAdapter

/-- A connection of the register, and if it is in the view. -/
structure Item where
  conn : ConnectionDescriptor
  shown : Bool

/-- The identifiers of the connections that are in the view. -/
def shownIds (items : List Item) : List Int32 :=
  (items.filter (·.shown)).map (·.conn.incrId)

theorem shownIds_cons (item : Item) (items : List Item) :
    shownIds (item :: items) =
      if item.shown then item.conn.incrId :: shownIds items else shownIds items := by
  rw [shownIds, List.filter_cons]
  split <;> rfl

theorem shownIds_append (items others : List Item) :
    shownIds (items ++ others) = shownIds items ++ shownIds others := by
  rw [shownIds, List.filter_append, List.map_append]
  rfl

theorem shownIds_sublist (items : List Item) :
    (shownIds items).Sublist (items.map (·.conn.incrId)) := List.filter_sublist.map _

theorem shownIds_length_le (items : List Item) : (shownIds items).length ≤ items.length := by
  rw [shownIds, List.length_map]
  grind

namespace ConnectionsAdapter

variable {adapter : ConnectionsAdapter} {view : List Int32} {removed : Nat}

/-- One connection leaves the register at its front. -/
theorem Mirrors.removeConnection {item : Item} {items : List Item}
    (mirrors : adapter.Mirrors (shownIds (item :: items)) removed)
    (nodup : ((item :: items).map (·.conn.incrId)).Nodup)
    (bound : removed + (shownIds (item :: items)).length < 2 ^ 32) :
    ∃ after, (adapter.removeConnection (some item.conn)).Mirrors (shownIds items) after ∧
      after + (shownIds items).length = removed + (shownIds (item :: items)).length := by
  have distinct := nodup.sublist (shownIds_sublist (item :: items))
  obtain ⟨indexed, replayed⟩ := mirrors
  rw [shownIds_cons] at indexed replayed bound distinct ⊢
  rw [ConnectionsAdapter.removeConnection]
  split at indexed
  next shown =>
    simp only [shown, if_true, List.length_cons] at replayed bound distinct ⊢
    have stored : adapter.idToFilteredPos item.conn.incrId = some (.ofNat (0 + removed)) := by
      rw [Nat.zero_add]
      exact indexed.stores.head
    have first := getFilteredItemPos_of_some indexed.numRemoved stored (by omega)
    rw [first, if_neg (ofNat_ne_neg_one (by omega))]
    refine ⟨removed + 1, ⟨indexed.removeFirst distinct, ?_⟩, by omega⟩
    have filtered : adapter.filteredConn = some ([] ++ item.conn.incrId :: shownIds items) :=
      indexed.filtered
    rw [removeFilteredItemAt_eq filtered .zero]
    have step := @replay_itemRemoved [] (shownIds items) item.conn.incrId 0 .zero
    exact replayAll_snoc replayed step
  next hidden =>
    simp only [hidden] at replayed bound distinct ⊢
    have absent : item.conn.incrId ∉ shownIds items := fun member =>
      (List.nodup_cons.mp nodup).1 ((shownIds_sublist items).subset member)
    rw [getFilteredItemPos_of_none (indexed.others absent), if_pos rfl]
    exact ⟨removed, ⟨indexed, replayed⟩, rfl⟩

variable (matchesConn : ConnectionDescriptor → Bool) (start : Int32)
    (conns : List ConnectionDescriptor) (gone rest : List Item)

section

variable (mirrors : adapter.Mirrors (shownIds (gone ++ rest)) removed)
include mirrors

variable (nodup : ((gone ++ rest).map (·.conn.incrId)).Nodup)
include nodup

variable (bound : removed + (shownIds (gone ++ rest)).length < 2 ^ 32)
include bound

theorem Mirrors.removeConnections :
    ∃ after, ((gone.map fun item => some item.conn).foldl ConnectionsAdapter.removeConnection
        adapter).Mirrors (shownIds rest) after ∧
      after + (shownIds rest).length = removed + (shownIds (gone ++ rest)).length := by
  induction gone generalizing adapter removed with
  | nil => exact ⟨removed, mirrors, rfl⟩
  | cons item gone ih =>
    rw [List.cons_append] at mirrors nodup bound ⊢
    obtain ⟨middle, mirrored, same⟩ := mirrors.removeConnection nodup bound
    obtain ⟨after, final, total⟩ := ih mirrored (List.nodup_cons.mp nodup).2 (by omega)
    exact ⟨after, final, total.trans same⟩

theorem Mirrors.connectionsRemoved :
    ∃ after, (adapter.connectionsRemoved start (gone.map fun item => some item.conn)).Mirrors
        (shownIds rest) after ∧
      after + (shownIds rest).length = removed + (shownIds (gone ++ rest)).length := by
  have counted := mirrors.setUnfilteredItemsCount
    (adapter.unfilteredItemsCount - .ofNat (gone.map fun item => some item.conn).length)
  rw [ConnectionsAdapter.connectionsRemoved]
  simp only [if_neg mirrors.notNone]
  exact counted.removeConnections gone rest nodup bound

end

/-! ## Adding connections -/

theorem Indexed.appendFiltered (indexed : adapter.Indexed view removed)
    (conn : ConnectionDescriptor) (absent : conn.incrId ∉ view) :
    (adapter.appendFiltered (.ofNat (view.length + removed)) conn).Indexed
      (view ++ [conn.incrId]) removed := by
  refine ⟨?_, indexed.numRemoved, ?_, fun {other} missing => ?_⟩
  · rw [ConnectionsAdapter.appendFiltered, view_of_filtered indexed.filtered]
  · exact (indexed.stores.update absent _).append (.singleton (Function.update_self ..))
  · rw [List.mem_append, List.mem_singleton, not_or] at missing
    exact (Function.update_of_ne missing.2 _ _).trans (indexed.others missing.1)

/-- The loop over the new connections appends those that match. -/
theorem Indexed.addMatching (indexed : adapter.Indexed view removed) (numNew : Nat)
    (nodup : (view ++ conns.map (·.incrId)).Nodup) :
    ∃ after, adapter.addMatching matchesConn (.ofNat (view.length + removed)) (.ofNat numNew)
        conns = (after, .ofNat (numNew + (conns.filter matchesConn).length)) ∧
      after.Indexed (view ++ (conns.filter matchesConn).map (·.incrId)) removed ∧
      after.notified = adapter.notified := by
  induction conns generalizing adapter view numNew with
  | nil =>
    refine ⟨adapter, rfl, ?_, rfl⟩
    grind
  | cons conn conns ih =>
    have absent : conn.incrId ∉ view := fun member =>
      (List.nodup_append.mp nodup).2.2 _ member _ List.mem_cons_self rfl
    rw [ConnectionsAdapter.addMatching, List.filter_cons]
    split
    next matching =>
      have nextPos : Int32.ofNat ((view ++ [conn.incrId]).length + removed) =
          Int32.ofNat (view.length + removed) + 1 := by
        rw [List.length_append, List.length_singleton, Nat.add_right_comm]
        exact Int32.ofNat_add _ 1
      have nextNew : Int32.ofNat (numNew + 1) = Int32.ofNat numNew + 1 := Int32.ofNat_add _ 1
      obtain ⟨after, added, final, silent⟩ := ih (indexed.appendFiltered conn absent)
        (numNew + 1) (by rwa [List.append_assoc])
      rw [nextPos, nextNew, Nat.add_right_comm, Nat.add_assoc] at added
      refine ⟨after, added, ?_, silent⟩
      · grind
    next different =>
      have fewer : (view ++ conns.map (·.incrId)).Nodup :=
        nodup.sublist ((List.sublist_cons_self _ _).append_left view)
      exact ih indexed numNew fewer

/-- An observer that inserts the new items gets the view. -/
theorem replay_itemRangeInserted {added : List Int32} (small : (view ++ added).length < 2 ^ 31) :
    (Notification.itemRangeInserted
      (Int32.ofNat (view ++ added).length - Int32.ofNat added.length)
      (Int32.ofNat added.length)).replay view (view ++ added) = some (view ++ added) := by
  have length : (view ++ added).length = view.length + added.length := List.length_append
  have countIs : IsNat (Int32.ofNat added.length) added.length := .ofNat (by omega)
  have startIs : IsNat (Int32.ofNat (view ++ added).length - Int32.ofNat added.length)
      view.length := by
    have is := (IsNat.ofNat small).sub countIs (by omega)
    grind
  rw [Notification.replay]
  simp only [startIs.toNat, countIs.toNat]
  rw [if_neg]
  · grind
  · rintro (negative | negative | outside | outside)
    · exact startIs.not_neg negative
    · exact countIs.not_neg negative
    · omega
    · omega

theorem Mirrors.connectionsAdded (mirrors : adapter.Mirrors view removed)
    (nodup : (view ++ conns.map (·.incrId)).Nodup) (small : view.length + conns.length < 2 ^ 31) :
    (adapter.connectionsAdded matchesConn start conns).Mirrors
      (view ++ (conns.filter matchesConn).map (·.incrId)) removed := by
  have counted := mirrors.setUnfilteredItemsCount
    (adapter.unfilteredItemsCount + .ofNat conns.length)
  have few := List.length_filter_le matchesConn conns
  rw [ConnectionsAdapter.connectionsAdded]
  simp only [if_neg mirrors.notNone]
  generalize ({ adapter with
    unfilteredItemsCount := adapter.unfilteredItemsCount + Int32.ofNat conns.length } :
      ConnectionsAdapter) = middle at counted ⊢
  have place : adapter.numRemovedItems + Int32.ofNat middle.view.length =
      .ofNat (view.length + removed) := by
    rw [mirrors.indexed.numRemoved, view_of_filtered counted.indexed.filtered, ← Int32.ofNat_add,
      Nat.add_comm]
  obtain ⟨after, added, indexed, silent⟩ := counted.indexed.addMatching matchesConn conns 0 nodup
  rw [place, show (0 : Int32) = .ofNat 0 from rfl, added, Nat.zero_add]
  have countIs : IsNat (Int32.ofNat (conns.filter matchesConn).length)
      (conns.filter matchesConn).length := .ofNat (by omega)
  have replayed : replayAll [] after.notified = some view := by
    rw [silent]
    exact counted.replayed
  split
  next some =>
    refine ⟨⟨indexed.filtered, indexed.numRemoved, indexed.stores, indexed.others⟩, ?_⟩
    rw [notify, view_of_filtered indexed.filtered]
    apply replayAll_snoc replayed
    have step := @replay_itemRangeInserted view ((conns.filter matchesConn).map (·.incrId))
      (by grind)
    rwa [List.length_map] at step
  next none =>
    have empty : conns.filter matchesConn = [] := by
      rw [← List.length_eq_zero_iff]
      exact Nat.eq_zero_of_not_pos fun positive => none ((IsNat.zero.lt_iff countIs).mpr positive)
    refine ⟨indexed, ?_⟩
    grind

end ConnectionsAdapter

end PcapdroidFormal.Register
