import Mathlib.Data.List.Nodup
import PcapdroidFormal.Register.Delivery
import PcapdroidFormal.Register.View
import PcapdroidFormal.Register.Window

/-!
# Updates of the view

`connectionsUpdated` visits the updated connections in the order of the register
and removes those that do not match any more.  Behind the first removal the stored
positions are wrong, by the number of removals, until the loop has ended.  The
invariant of the loop cuts the view into the part that was visited and the part
ahead, whose positions are all wrong by the same number.
-/

namespace PcapdroidFormal.Register

open Foundation

variable {pos id : Int32} {conn : ConnectionDescriptor} {adapter : ConnectionsAdapter}
  {items front : List Int32}

namespace ConnectionsAdapter

/-! ## Fixing positions -/

theorem fixPositions_of_not_mem {numRemovedItems : Int32} {positions : Int32 → Option Int32}
    {id : Int32} (absent : id ∉ items) :
    fixPositions numRemovedItems pos positions items id = positions id := by
  induction items generalizing pos positions with
  | nil => rfl
  | cons item items ih =>
    rw [List.mem_cons, not_or] at absent
    rw [fixPositions, ih absent.2]
    exact Function.update_of_ne absent.1 _ _

theorem fixPositions_stores {removed start : Nat} {positions : Int32 → Option Int32}
    (nodup : items.Nodup) :
    Stores (fixPositions (.ofNat removed) (.ofNat start) positions items) (start + removed)
      items := by
  induction items generalizing start positions with
  | nil => exact .nil
  | cons item items ih =>
    obtain ⟨absent, distinct⟩ := List.nodup_cons.mp nodup
    have next : Int32.ofNat (start + 1) = Int32.ofNat start + 1 := Int32.ofNat_add _ 1
    have behind := @ih (start + 1)
      (Function.update positions item (some (.ofNat start + .ofNat removed))) distinct
    rw [next, Nat.add_right_comm] at behind
    rw [fixPositions]
    have first : Stores (fixPositions (.ofNat removed) (.ofNat start + 1)
        (Function.update positions item (some (.ofNat start + .ofNat removed))) items)
          (start + removed) [item] := by
      apply Stores.singleton
      rw [fixPositions_of_not_mem absent, Int32.ofNat_add]
      exact Function.update_self ..
    exact first.append (by grind)

/-! ## The loop -/

/-- The loop has visited the connections of the first part of the view. -/
structure Sweeping (loop : UpdateLoop) (kept rest : List Int32) (removed gone : Nat) : Prop where
  filtered : loop.adapter.filteredConn = some (kept ++ rest)
  numRemoved : loop.adapter.numRemovedItems = .ofNat removed
  numJustRemoved : loop.numJustRemoved = .ofNat gone
  ahead : Stores loop.adapter.idToFilteredPos (kept.length + gone + removed) rest
  others : ∀ {id}, id ∉ kept ++ rest → loop.adapter.idToFilteredPos id = none
  behind : (gone = 0 ∧ loop.firstRemovedPos = -1 ∧
      Stores loop.adapter.idToFilteredPos removed kept) ∨
    ∃ front back, kept = front ++ back ∧ loop.firstRemovedPos = .ofNat front.length ∧
      Stores loop.adapter.idToFilteredPos removed front
  replayed : replayAll [] loop.adapter.notified = some (kept ++ rest)

namespace Sweeping

variable {loop : UpdateLoop} {kept rest : List Int32} {removed gone : Nat} {id : Int32}
  {matchesConn : ConnectionDescriptor → Bool}

theorem start {view : List Int32} (mirrors : adapter.Mirrors view removed) :
    Sweeping ⟨adapter, -1, 0⟩ [] view removed 0 where
  filtered := mirrors.indexed.filtered
  numRemoved := mirrors.indexed.numRemoved
  numJustRemoved := rfl
  ahead := by
    rw [List.length_nil, Nat.zero_add]
    exact mirrors.indexed.stores
  others := mirrors.indexed.others
  behind := .inl ⟨rfl, rfl, .nil⟩
  replayed := mirrors.replayed

/-- An item that stays in the view is passed. -/
theorem pass (sweeping : Sweeping loop kept (id :: rest) removed gone) :
    Sweeping loop (kept ++ [id]) rest removed gone := by
  obtain ⟨filtered, numRemoved, numJustRemoved, ahead, others, behind, replayed⟩ := sweeping
  have same : kept ++ [id] ++ rest = kept ++ id :: rest := by
    grind
  refine ⟨same ▸ filtered, numRemoved, numJustRemoved, ?_, same ▸ others, ?_, same ▸ replayed⟩
  · have offset : (kept ++ [id]).length + gone + removed = kept.length + gone + removed + 1 := by
      grind
    rw [offset]
    exact ahead.tail
  · rcases behind with ⟨untouched, first, stores⟩ | ⟨front, back, rfl, first, stores⟩
    · refine .inl ⟨untouched, first, stores.append (.singleton ?_)⟩
      rw [ahead.head, untouched, Nat.add_zero]
    · grind

theorem notify (sweeping : Sweeping loop kept rest removed gone) {position : Nat}
    (is : IsNat pos position) (inside : position < (kept ++ rest).length) :
    Sweeping { loop with adapter := loop.adapter.notify (.itemChanged pos) } kept rest removed
      gone := by
  obtain ⟨filtered, numRemoved, numJustRemoved, ahead, others, behind, replayed⟩ := sweeping
  refine ⟨filtered, numRemoved, numJustRemoved, ahead, others, behind, ?_⟩
  have step := replayAll_snoc replayed (replay_itemChanged is inside)
  rwa [← view_of_filtered filtered] at step ⊢

/-- An item that does not match any more is removed. -/
theorem remove (sweeping : Sweeping loop kept (id :: rest) removed gone)
    (is : IsNat pos kept.length) (nodup : (kept ++ id :: rest).Nodup) :
    Sweeping
      { adapter := loop.adapter.removeFilteredItemAt pos
        firstRemovedPos := if loop.firstRemovedPos = -1 then pos else loop.firstRemovedPos
        numJustRemoved := loop.numJustRemoved + 1 } kept rest removed (gone + 1) := by
  obtain ⟨filtered, numRemoved, numJustRemoved, ahead, others, behind, replayed⟩ := sweeping
  have distinct := List.nodup_middle.mp nodup
  obtain ⟨absent, -⟩ := List.nodup_cons.mp distinct
  rw [List.mem_append, not_or] at absent
  rw [removeFilteredItemAt_eq filtered is]
  refine ⟨rfl, numRemoved, ?_, ?_, fun {other} missing => ?_, ?_,
    replayAll_snoc replayed (replay_itemRemoved is)⟩
  · change loop.numJustRemoved + 1 = _
    rw [numJustRemoved]
    exact (Int32.ofNat_add _ 1).symm
  · have offset : kept.length + (gone + 1) + removed = kept.length + gone + removed + 1 := by
      omega
    rw [offset]
    exact ahead.tail.update absent.2 none
  · change Function.update loop.adapter.idToFilteredPos id none other = none
    rcases eq_or_ne other id with rfl | differ
    · exact Function.update_self ..
    · rw [Function.update_of_ne differ]
      apply others
      rw [List.mem_append, List.mem_cons]
      grind
  · rcases behind with ⟨-, first, stores⟩ | ⟨front, back, rfl, first, stores⟩
    · refine .inr ⟨kept, [], (List.append_nil kept).symm, ?_, stores.update absent.1 none⟩
      change (if loop.firstRemovedPos = -1 then pos else loop.firstRemovedPos) = _
      rw [if_pos first, is.eq (.ofNat is.lt_size)]
    · have room := is.lt_size
      rw [List.length_append] at room
      refine .inr ⟨front, back, rfl, ?_, stores.update (fun member => absent.1
        (List.mem_append_left back member)) none⟩
      change (if loop.firstRemovedPos = -1 then pos else loop.firstRemovedPos) = _
      rw [if_neg, first]
      rw [first]
      exact ofNat_ne_neg_one (by omega)

/-- At the end of the loop the positions are fixed. -/
theorem finish (sweeping : Sweeping loop kept [] removed gone) (nodup : kept.Nodup)
    (small : kept.length < 2 ^ 31) :
    (if loop.firstRemovedPos = -1 then loop.adapter
      else loop.adapter.fixFilteredPositions loop.firstRemovedPos).Mirrors kept removed := by
  obtain ⟨filtered, numRemoved, -, -, others, behind, replayed⟩ := sweeping
  rw [List.append_nil] at filtered others replayed
  rcases behind with ⟨-, first, stores⟩ | ⟨front, back, rfl, first, stores⟩
  · rw [if_pos first]
    exact ⟨⟨filtered, numRemoved, stores, others⟩, replayed⟩
  · rw [List.length_append] at small
    have is : IsNat loop.firstRemovedPos front.length := first ▸ .ofNat (by omega)
    have known : loop.firstRemovedPos ≠ -1 := first ▸ ofNat_ne_neg_one (by omega)
    obtain ⟨-, distinct, apart⟩ := List.nodup_append.mp nodup
    have fixed : (loop.adapter.fixFilteredPositions loop.firstRemovedPos).idToFilteredPos =
        fixPositions (.ofNat removed) (.ofNat front.length) loop.adapter.idToFilteredPos back := by
      rw [fixFilteredPositions, view_of_filtered filtered, is.toNat, List.drop_left, numRemoved,
        first]
    rw [if_neg known]
    refine ⟨⟨filtered, numRemoved, ?_, fun {id} missing => ?_⟩, replayed⟩
    · rw [fixed]
      refine Stores.append (fun index id found => ?_) (fixPositions_stores distinct)
      rw [fixPositions_of_not_mem fun member =>
        apart id (List.mem_of_getElem? found) id member rfl]
      exact stores index id found
    · rw [fixed, fixPositions_of_not_mem fun member => missing (List.mem_append_right front member)]
      exact others missing

/-- The position that the loop computes for the next item. -/
theorem position_eq (sweeping : Sweeping loop kept (id :: rest) removed gone)
    (bound : kept.length + gone + removed + 1 < 2 ^ 32) :
    loop.adapter.getFilteredItemPos id = .ofNat (kept.length + gone) ∧
      Int32.ofNat (kept.length + gone) - loop.numJustRemoved = .ofNat kept.length := by
  refine ⟨getFilteredItemPos_of_some sweeping.numRemoved sweeping.ahead.head bound, ?_⟩
  rw [sweeping.numJustRemoved, Int32.ofNat_add]
  grind

section

variable (sweeping : Sweeping loop kept (conn.incrId :: rest) removed gone)
include sweeping

/-- The loop visits an item of the view that still matches. -/
theorem visit_matching (bound : kept.length + gone + removed + 1 < 2 ^ 32)
    (small : kept.length < 2 ^ 31) (matching : matchesConn conn = true) :
    Sweeping (loop.visit matchesConn conn) kept (conn.incrId :: rest) removed gone := by
  obtain ⟨stored, shifted⟩ := sweeping.position_eq bound
  have inside : kept.length < (kept ++ conn.incrId :: rest).length := by
    grind
  rw [UpdateLoop.visit]
  simp only [stored, shifted, if_neg (ofNat_ne_neg_one (by omega : kept.length + gone + 1 < 2 ^ 32)),
    if_pos matching]
  exact sweeping.notify (.ofNat small) inside

/-- The loop visits an item of the view that does not match any more. -/
theorem visit_unmatched (nodup : (kept ++ conn.incrId :: rest).Nodup)
    (bound : kept.length + gone + removed + 1 < 2 ^ 32) (small : kept.length < 2 ^ 31)
    (unmatched : ¬matchesConn conn = true) :
    Sweeping (loop.visit matchesConn conn) kept rest removed (gone + 1) := by
  obtain ⟨stored, shifted⟩ := sweeping.position_eq bound
  rw [UpdateLoop.visit]
  simp only [stored, shifted, if_neg (ofNat_ne_neg_one (by omega : kept.length + gone + 1 < 2 ^ 32)),
    if_neg unmatched]
  exact sweeping.remove (.ofNat small) nodup

end

/-- A connection that is not in the view is not touched. -/
theorem visit_hidden (matchesConn : ConnectionDescriptor → Bool)
    (sweeping : Sweeping loop kept rest removed gone) (hidden : conn.incrId ∉ kept ++ rest) :
    loop.visit matchesConn conn = loop := by
  rw [UpdateLoop.visit]
  simp only [getFilteredItemPos_of_none (sweeping.others hidden), if_true]

end Sweeping

end ConnectionsAdapter

/-! ## Updates with what was found -/

/-- No contents that were found for an identifier fail to match. -/
def unrefuted (matchesConn : ConnectionDescriptor → Bool) (conns : List ConnectionDescriptor)
    (id : Int32) : Bool :=
  conns.all fun conn => conn.incrId != id || matchesConn conn

section

variable (matchesConn : ConnectionDescriptor → Bool)

theorem unrefuted_cons (conn : ConnectionDescriptor)
    (conns : List ConnectionDescriptor) (id : Int32) :
    unrefuted matchesConn (conn :: conns) id =
      ((conn.incrId != id || matchesConn conn) && unrefuted matchesConn conns id) := rfl

/-- Contents say nothing about other connections. -/
theorem unrefuted_cons_of_ne (conns : List ConnectionDescriptor) (differ : conn.incrId ≠ id) :
    unrefuted matchesConn (conn :: conns) id = unrefuted matchesConn conns id := by
  rw [unrefuted_cons, bne_iff_ne.mpr differ, Bool.true_or, Bool.true_and]

theorem unrefuted_cons_of_matching {matchesConn : ConnectionDescriptor → Bool}
    (matching : matchesConn conn = true) (conns : List ConnectionDescriptor) :
    unrefuted matchesConn (conn :: conns) = unrefuted matchesConn conns := by
  funext id
  rw [unrefuted_cons, matching, Bool.or_true, Bool.true_and]

theorem filter_unrefuted_of_not_mem
    (hidden : conn.incrId ∉ items) (conns : List ConnectionDescriptor) :
    items.filter (unrefuted matchesConn (conn :: conns)) =
      items.filter (unrefuted matchesConn conns) := by
  apply List.filter_congr
  intro id member
  exact unrefuted_cons_of_ne matchesConn conns fun same => hidden (same ▸ member)

end

/-- Contents that do not match refute their connection. -/
theorem filter_unrefuted_middle {matchesConn : ConnectionDescriptor → Bool}
    (unmatched : matchesConn conn = false) {back : List Int32}
    (absent : conn.incrId ∉ front ++ back) (conns : List ConnectionDescriptor) :
    (front ++ conn.incrId :: back).filter (unrefuted matchesConn (conn :: conns)) =
      (front ++ back).filter (unrefuted matchesConn conns) := by
  have refuted : ¬ unrefuted matchesConn (conn :: conns) conn.incrId = true := by
    rw [unrefuted_cons, unmatched, Bool.or_false, bne_self_eq_false, Bool.false_and]
    exact Bool.false_ne_true
  rw [List.filter_append, List.filter_cons_of_neg refuted, ← List.filter_append]
  exact filter_unrefuted_of_not_mem matchesConn absent conns

namespace ConnectionsAdapter

variable {loop : UpdateLoop} {kept rest : List Int32} {removed gone : Nat}

theorem Sweeping.passAll (sweeping : Sweeping loop kept (front ++ rest) removed gone) :
    Sweeping loop (kept ++ front) rest removed gone := by
  induction front generalizing kept with
  | nil =>
    grind
  | cons id front ih =>
    rw [List.cons_append] at sweeping
    have passed := ih sweeping.pass
    grind

/-- An increasing list is cut at an identifier. -/
theorem exists_cut (increasing : items.Pairwise (· < ·)) (id : Int32) :
    ∃ front back, items = front ++ back ∧ (∀ item ∈ front, item < id) ∧
      ((∃ tail, back = id :: tail) ∨ id ∉ items) := by
  induction items with
  | nil => simp
  | cons item items ih =>
    obtain ⟨above, others⟩ := List.pairwise_cons.mp increasing
    rcases Int32.lt_or_le item id with below | atLeast
    · obtain ⟨front, back, rfl, smaller, found⟩ := ih others
      refine ⟨item :: front, back, rfl, List.forall_mem_cons.mpr ⟨below, smaller⟩, ?_⟩
      rcases found with here | absent
      · exact .inl here
      · grind
    · refine ⟨[], item :: items, rfl, List.forall_mem_nil _, ?_⟩
      grind

variable (matchesConn : ConnectionDescriptor → Bool) {conns : List ConnectionDescriptor}

/-- A connection that is not in front of the items passed so far is visited. -/
theorem Sweeping.visitConn (sweeping : Sweeping loop kept rest removed gone)
    (increasing : (kept ++ rest).Pairwise (· < ·)) (behind : ∀ id ∈ kept, id < conn.incrId)
    (bound : (kept ++ rest).length + gone + removed < 2 ^ 32)
    (small : (kept ++ rest).length < 2 ^ 31) :
    ∃ passed left after,
      Sweeping (loop.visitFound matchesConn (some conn)) passed left removed after ∧
      (passed ++ left).Sublist (kept ++ rest) ∧
      (passed ++ left).length + after = (kept ++ rest).length + gone ∧
      (∀ id ∈ passed, id < conn.incrId) ∧
      ∀ conns, (kept ++ rest).filter (unrefuted matchesConn (conn :: conns)) =
        (passed ++ left).filter (unrefuted matchesConn conns) := by
  obtain ⟨front, back, rfl, smaller, found⟩ :=
    exists_cut (increasing.sublist (List.sublist_append_right kept rest)) conn.incrId
  have passed := sweeping.passAll
  have below : ∀ id ∈ kept ++ front, id < conn.incrId :=
    List.forall_mem_append.mpr ⟨behind, smaller⟩
  rw [← List.append_assoc] at increasing bound small ⊢
  have nodup : (kept ++ front ++ back).Nodup := increasing.imp fun order => Int32.ne_of_lt order
  rw [UpdateLoop.visitFound]
  rcases found with ⟨tail, rfl⟩ | absent
  · have room : (kept ++ front).length + 1 + tail.length =
        (kept ++ front ++ conn.incrId :: tail).length := by
      grind
    rcases Bool.eq_false_or_eq_true (matchesConn conn) with matching | unmatched
    · -- the item stays at the head, as it may be visited again
      refine ⟨kept ++ front, conn.incrId :: tail, gone,
        passed.visit_matching (by omega) (by omega) matching, .refl _, rfl, below, ?_⟩
      intro conns
      rw [unrefuted_cons_of_matching matching]
    · have absent := (List.nodup_cons.mp (List.nodup_middle.mp nodup)).1
      refine ⟨kept ++ front, tail, gone + 1,
        passed.visit_unmatched nodup (by omega) (by omega) (Bool.eq_false_iff.mp unmatched), ?_, ?_,
        below, filter_unrefuted_middle unmatched absent⟩
      · exact List.Sublist.append_left (List.sublist_cons_self conn.incrId tail) _
      · grind
  · have hidden : conn.incrId ∉ kept ++ front ++ back := by
      grind
    rw [passed.visit_hidden matchesConn hidden]
    exact ⟨kept ++ front, back, gone, passed, .refl _, rfl, below,
      filter_unrefuted_of_not_mem matchesConn hidden⟩

/-- The loop over connections in the order of the register, with repetitions. -/
theorem Sweeping.visitFound
    (conns : List ConnectionDescriptor) (sweeping : Sweeping loop kept rest removed gone)
    (increasing : (kept ++ rest).Pairwise (· < ·))
    (sorted : (conns.map (·.incrId)).Pairwise (· ≤ ·))
    (behind : ∀ id ∈ kept, ∀ conn ∈ conns, id < conn.incrId)
    (bound : (kept ++ rest).length + gone + removed < 2 ^ 32)
    (small : (kept ++ rest).length < 2 ^ 31) :
    ∃ after, Sweeping ((conns.map some).foldl (UpdateLoop.visitFound matchesConn) loop)
      ((kept ++ rest).filter (unrefuted matchesConn conns)) [] removed after := by
  induction conns generalizing loop kept rest gone with
  | nil =>
    have all : (kept ++ rest).filter (unrefuted matchesConn []) = kept ++ rest :=
      List.filter_eq_self.mpr fun _ _ => rfl
    rw [all]
    rw [← List.append_nil rest] at sweeping
    exact ⟨gone, sweeping.passAll⟩
  | cons conn conns ih =>
    obtain ⟨least, others⟩ := List.pairwise_cons.mp sorted
    obtain ⟨passed, left, count, visited, cut, total, below, view⟩ :=
      sweeping.visitConn matchesConn increasing
        (fun id member => behind id member conn List.mem_cons_self) bound small
    have shorter := cut.length_le
    rw [List.map_cons, List.foldl_cons, view conns]
    apply ih visited (increasing.sublist cut) others
    · intro id member other later
      exact Int32.lt_of_lt_of_le (below id member) (least _ (List.mem_map_of_mem later))
    · omega
    · omega

/-- The view after the updates. -/
theorem Mirrors.visitFound {adapter : ConnectionsAdapter} {view : List Int32}
    (mirrors : adapter.Mirrors view removed) (increasing : view.Pairwise (· < ·))
    (positions : List Int32) (sorted : (conns.map (·.incrId)).Pairwise (· ≤ ·))
    (bound : removed + view.length < 2 ^ 32) (small : view.length < 2 ^ 31) :
    (adapter.visitFound matchesConn positions (conns.map some)).Mirrors
      (view.filter (unrefuted matchesConn conns)) removed := by
  obtain ⟨after, swept⟩ := (Sweeping.start mirrors).visitFound matchesConn conns increasing sorted
    (List.forall_mem_nil _) (by rw [List.nil_append]; omega) (by rwa [List.nil_append])
  rw [List.nil_append] at swept
  rw [ConnectionsAdapter.visitFound, if_neg mirrors.notNone]
  refine swept.finish ?_ ?_
  · exact (increasing.filter _).imp fun order => Int32.ne_of_lt order
  · grind

/-- What stands at increasing positions is in order. -/
theorem sorted_of_positions {ids positions : List Int32} (increasing : ids.Pairwise (· < ·))
    (sorted : positions.Pairwise (· ≤ ·)) :
    (positions.filterMap fun pos => ids[pos.toNatClampNeg]?).Pairwise (· ≤ ·) := by
  rw [List.pairwise_filterMap]
  refine sorted.imp fun {first second} order id here other there => ?_
  obtain ⟨inside, rfl⟩ := List.getElem?_eq_some_iff.mp here
  obtain ⟨insideLater, rfl⟩ := List.getElem?_eq_some_iff.mp there
  have indices : first.toNatClampNeg ≤ second.toNatClampNeg :=
    Int.toNat_le_toNat (Int32.le_iff_toInt_le.mp order)
  rcases Nat.lt_or_eq_of_le indices with before | same
  · exact Int32.le_of_lt (List.pairwise_iff_getElem.mp increasing _ _ inside insideLater before)
  · simp only [same]
    exact Int32.le_refl _

/-- The adapter follows a call for connections that the register lists. -/
theorem Mirrors.connectionsUpdated {reg : ConnectionsRegister} {view positions : List Int32}
    (mirrors : adapter.Mirrors view removed) (lists : reg.Lists 0 conns)
    (inside : ∀ pos ∈ positions, ∃ index, index < conns.length ∧ pos = .ofNat index)
    (increasing : view.Pairwise (· < ·)) (ordered : (conns.map (·.incrId)).Pairwise (· < ·))
    (bound : removed + view.length < 2 ^ 32) (small : view.length < 2 ^ 31)
    (few : conns.length ≤ 2 ^ 31) :
    ∃ after found, adapter.connectionsUpdated matchesConn reg positions = some after ∧
      (∀ conn, conn ∈ found ↔
        ∃ index : Nat, .ofNat index ∈ positions ∧ conns[index]? = some conn) ∧
      after.Mirrors (view.filter (unrefuted matchesConn found)) removed := by
  have read := lists.mapM_getConn few fun pos member => inside pos (mem_visitOrder.mp member)
  refine ⟨_, _, connectionsUpdated_of_found matchesConn adapter reg read, fun conn => ?_,
    mirrors.visitFound matchesConn increasing positions ?_ bound small⟩
  · rw [List.mem_filterMap]
    constructor
    · rintro ⟨pos, member, found⟩
      obtain ⟨index, below, rfl⟩ := inside pos (mem_visitOrder.mp member)
      rw [(IsNat.ofNat (by omega)).toNat] at found
      exact ⟨index, mem_visitOrder.mp member, found⟩
    · rintro ⟨index, member, found⟩
      have below := (List.getElem?_eq_some_iff.mp found).1
      refine ⟨.ofNat index, mem_visitOrder.mpr member, ?_⟩
      rwa [(IsNat.ofNat (by omega)).toNat]
  · rw [List.map_filterMap]
    simpa only [List.getElem?_map] using sorted_of_positions ordered visitOrder_sorted

end ConnectionsAdapter

end PcapdroidFormal.Register
