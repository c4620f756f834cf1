import PcapdroidFormal.Foundation.RingBuffer
import PcapdroidFormal.Register.Connections

/-!
# The window of the register

The ring of the register is a window on the connections that were delivered: the
last ones, as many as it has slots.  Identifiers are consecutive, so they give the
position in the window.  The positions are computed with `int`, where the sum of
two positions of a ring with more than `2 ^ 30` slots does not fit.
-/

namespace PcapdroidFormal.Register

open Foundation

variable {pos : Int32} {index : Nat}

/-! ## The contents of a connection -/

namespace ConnectionDescriptor

variable (conn : ConnectionDescriptor)

/-- The connection after `processConnectionStatus`. -/
def accounted : ConnectionDescriptor :=
  { conn with alerted := conn.isBlacklisted, blockAccounted := conn.isBlocked }

/-- The connection once it is stored in the register. -/
def registered (platform : Platform) : ConnectionDescriptor :=
  (ConnectionsRegister.locate platform conn).accounted

def updated (isLowMemory : Bool) (update : ConnectionUpdate) : ConnectionDescriptor :=
  (conn.processUpdate isLowMemory update).accounted

@[simp] theorem updated_incrId (isLowMemory : Bool) (update : ConnectionUpdate) :
    (conn.updated isLowMemory update).incrId = conn.incrId :=
  conn.processUpdate_incrId isLowMemory update

end ConnectionDescriptor

namespace ConnectionsRegister

variable {reg : ConnectionsRegister} {conn : ConnectionDescriptor}
  {window : List ConnectionDescriptor}

/-! ## What the counters do not touch -/

def ringFields (reg : ConnectionsRegister) :
    List (Option ConnectionDescriptor) × Int32 × Int32 × Int32 × Int32 :=
  (reg.itemsRing, reg.tail, reg.size, reg.curItems, reg.untrackedItems)

section

variable (reg : ConnectionsRegister) (conn : ConnectionDescriptor) (stats : AppStats)

theorem processBlacklisted_spec :
    (reg.processBlacklisted conn).1.ringFields = reg.ringFields ∧
      (reg.processBlacklisted conn).2 = { conn with alerted := conn.isBlacklisted } := by
  unfold processBlacklisted
  cases alerted : conn.alerted <;> cases blacklisted : conn.isBlacklisted <;>
    exact ⟨rfl, by cases conn; cases alerted; rfl⟩

theorem processBlocked_spec :
    (reg.processBlocked conn stats).1.ringFields = reg.ringFields ∧
      (reg.processBlocked conn stats).2.1 = { conn with blockAccounted := conn.isBlocked } := by
  unfold processBlocked
  cases accounted : conn.blockAccounted <;> cases blocked : conn.isBlocked <;>
    exact ⟨rfl, by cases conn; cases accounted; cases blocked; rfl⟩

theorem processConnectionStatus_spec :
    (reg.processConnectionStatus conn stats).1.ringFields = reg.ringFields ∧
      (reg.processConnectionStatus conn stats).2.1 = conn.accounted := by
  obtain ⟨sameRing, listed⟩ := reg.processBlacklisted_spec conn
  simp only [processConnectionStatus]
  generalize reg.processBlacklisted conn = first at sameRing listed ⊢
  obtain ⟨sameAgain, blocked⟩ := first.1.processBlocked_spec first.2 stats
  generalize first.1.processBlocked first.2 stats = second at sameAgain blocked ⊢
  have contents : second.2.1 = conn.accounted := by
    rw [blocked, listed]
    rfl
  split
  next => exact ⟨sameAgain.trans sameRing, contents⟩
  next => grind

theorem forgetConnection_ringFields :
    (reg.forgetConnection conn).ringFields = reg.ringFields := by
  simp only [forgetConnection]
  split <;> split <;> rfl

theorem countInterface_ringFields :
    (reg.countInterface conn).ringFields = reg.ringFields := by
  unfold countInterface
  split <;> rfl

end

/-! ## The ring -/

def ring (reg : ConnectionsRegister) : RingBuffer ConnectionDescriptor :=
  ⟨reg.itemsRing, reg.tail.toNatClampNeg, reg.curItems.toNatClampNeg⟩

structure Tracks (reg : ConnectionsRegister) (window : List ConnectionDescriptor) : Prop where
  size : IsNat reg.size reg.ring.size
  tail : IsNat reg.tail reg.ring.tail
  curItems : IsNat reg.curItems window.length
  holds : reg.ring.Holds window

namespace Tracks

variable {window : List ConnectionDescriptor}

theorem new {size : Int32} {slots : Nat} (is : IsNat size slots) :
    (ConnectionsRegister.new size).Tracks [] where
  size := by
    change IsNat size (List.replicate size.toNatClampNeg none).length
    rwa [List.length_replicate, is.toNat]
  tail := .zero
  curItems := .zero
  holds := .empty size.toNatClampNeg

section

variable (tracks : reg.Tracks window)
include tracks

theorem of_ringFields {other : ConnectionsRegister} (same : other.ringFields = reg.ringFields) :
    other.Tracks window := by
  simp only [ringFields, Prod.mk.injEq] at same
  obtain ⟨slots, tail, size, curItems, -⟩ := same
  have sameRing : other.ring = reg.ring := by
    simp only [ring, slots, tail, curItems]
  refine ⟨?_, ?_, ?_, ?_⟩
  · rw [size, sameRing]
    exact tracks.size
  · rw [tail, sameRing]
    exact tracks.tail
  · rw [curItems]
    exact tracks.curItems
  · rw [sameRing]
    exact tracks.holds

theorem setUntracked (untrackedItems : Int32) :
    { reg with untrackedItems := untrackedItems }.Tracks window :=
  ⟨tracks.size, tracks.tail, tracks.curItems, tracks.holds⟩

theorem firstPos_is : IsNat reg.firstPos reg.ring.first := by
  have count : reg.ring.count = window.length := tracks.holds.count
  unfold firstPos RingBuffer.first
  rw [count]
  split
  next room =>
    rw [if_pos ((tracks.curItems.lt_iff tracks.size).mp room)]
    exact .zero
  next full =>
    rw [if_neg fun room => full ((tracks.curItems.lt_iff tracks.size).mpr room)]
    exact tracks.tail

theorem lastPos_is (small : reg.ring.size ≤ 2 ^ 30) (nonempty : window ≠ []) :
    IsNat reg.lastPos (reg.ring.position (window.length - 1)) := by
  have some := List.length_pos_iff.mpr nonempty
  have fits := tracks.holds.fits
  have behind := tracks.holds.tail_lt (by omega)
  have order : reg.tail - 1 + reg.size = reg.tail + reg.size - 1 := by grind
  rw [lastPos, order, ← tracks.holds.position_last nonempty]
  exact ((tracks.tail.add tracks.size (by omega)).sub .one (by omega)).mod tracks.size

/-! ## Getters -/

/-- The slot of a connection of the window. -/
theorem loadAt_position (is : IsNat pos (reg.ring.position index))
    (found : window[index]? = some conn) : loadAt reg.itemsRing pos = some (some conn) := by
  rw [loadAt_of_isNat is]
  exact tracks.holds.items found

theorem getConn_eq (small : reg.ring.size ≤ 2 ^ 30) (i : Int32) :
    reg.getConn i = some (if i < 0 then none else window[i.toNatClampNeg]?) := by
  unfold getConn
  split_ifs with outside negative negative
  · rfl
  · have behind := (tracks.curItems.le_iff (.of_nonneg negative)).mp
      (outside.resolve_left negative)
    grind
  · exact absurd (.inl negative) outside
  · have is := IsNat.of_nonneg negative
    have inside : i.toNatClampNeg < window.length := by
      rw [not_or, tracks.curItems.le_iff is] at outside
      omega
    have fits := tracks.holds.fits
    have oldest := tracks.holds.first_lt (by omega)
    rw [List.getElem?_eq_getElem inside]
    exact tracks.loadAt_position ((tracks.firstPos_is.add is (by omega)).mod tracks.size)
      (List.getElem?_eq_getElem inside)

/-- The oldest connection. -/
theorem load_first {first : ConnectionDescriptor} (head : window[0]? = some first) :
    loadAt reg.itemsRing reg.firstPos = some (some first) := by
  have positive : 0 < reg.ring.size :=
    Nat.lt_of_lt_of_le (List.getElem?_eq_some_iff.mp head).1 tracks.holds.fits
  have start : reg.ring.position 0 = reg.ring.first :=
    Nat.mod_eq_of_lt (tracks.holds.first_lt positive)
  exact tracks.loadAt_position (start.symm ▸ tracks.firstPos_is) head

/-- The newest connection. -/
theorem load_last (small : reg.ring.size ≤ 2 ^ 30) {last : ConnectionDescriptor}
    (final : window[window.length - 1]? = some last) :
    loadAt reg.itemsRing reg.lastPos = some (some last) := by
  have inside := (List.getElem?_eq_some_iff.mp final).1
  have nonempty : window ≠ [] := List.length_pos_iff.mp (by omega)
  exact tracks.loadAt_position (tracks.lastPos_is small nonempty) final

end

/-- The identifiers of a window that is not empty. -/
theorem exists_ends (nonempty : window ≠ []) :
    ∃ first last, window[0]? = some first ∧ window[window.length - 1]? = some last ∧
      (window.map (·.incrId))[0]? = some first.incrId ∧
      (window.map (·.incrId))[(window.map (·.incrId)).length - 1]? = some last.incrId := by
  have some := List.length_pos_iff.mpr nonempty
  refine ⟨window[0], window[window.length - 1], List.getElem?_eq_getElem some,
    List.getElem?_eq_getElem (by omega), ?_, ?_⟩
  · grind
  · grind

theorem getConnPositionById_eq (tracks : reg.Tracks window) (small : reg.ring.size ≤ 2 ^ 30)
    (consecutive : Consecutive (window.map (·.incrId))) (incrId : Int32) :
    (reg.getConnPositionById incrId = some (-1) ∧ incrId ∉ window.map (·.incrId)) ∨
      ∃ pos index, reg.getConnPositionById incrId = some pos ∧ IsNat pos index ∧
        (window.map (·.incrId))[index]? = some incrId := by
  unfold getConnPositionById
  rcases eq_or_ne window [] with rfl | nonempty
  · rw [if_pos ((tracks.curItems.le_iff .zero).mpr (Nat.le_refl 0))]
    exact .inl ⟨rfl, nofun⟩
  · have some := List.length_pos_iff.mpr nonempty
    rw [if_neg fun empty => Nat.not_lt.mpr ((tracks.curItems.le_iff .zero).mp empty) some]
    obtain ⟨first, last, head, final, headId, finalId⟩ := exists_ends nonempty
    simp only [tracks.load_first head, tracks.load_last small final, Option.join_some,
      Option.bind_eq_bind, Option.bind_some]
    split
    next outside =>
      refine .inl ⟨rfl, fun member => ?_⟩
      obtain ⟨index, found⟩ := List.mem_iff_getElem?.mp member
      obtain ⟨lower, upper⟩ := consecutive.bounds_of_getElem? headId finalId found
      grind
    next inside =>
      rw [not_or, Int32.not_lt, Int32.not_lt] at inside
      obtain ⟨index, found, distance⟩ :=
        consecutive.exists_index headId finalId inside.1 inside.2
      have bound := (List.getElem?_eq_some_iff.mp found).1
      rw [List.length_map] at bound
      have fits := tracks.holds.fits
      exact .inr ⟨_, index, rfl, .of_sub distance (by omega), found⟩

/-- The identifiers are distinct, so a connection is found by its own. -/
theorem find?_incrId (nodup : (window.map (·.incrId)).Nodup) (member : conn ∈ window) :
    (window.find? fun other => other.incrId = conn.incrId) = some conn := by
  induction window with
  | nil => cases member
  | cons first window ih =>
    obtain ⟨absent, distinct⟩ := List.nodup_cons.mp nodup
    rcases List.mem_cons.mp member with rfl | later
    · exact List.find?_cons_of_pos (decide_eq_true rfl)
    · rw [List.find?_cons_of_neg, ih distinct later]
      rw [decide_eq_true_iff]
      exact fun same => absent (List.mem_map.mpr ⟨conn, later, same.symm⟩)

variable (tracks : reg.Tracks window)
include tracks

theorem getConnById_eq (small : reg.ring.size ≤ 2 ^ 30)
    (consecutive : Consecutive (window.map (·.incrId))) (incrId : Int32) :
    reg.getConnById incrId = some (window.find? fun conn => conn.incrId = incrId) := by
  unfold getConnById
  rcases tracks.getConnPositionById_eq small consecutive incrId with
    ⟨unknown, absent⟩ | ⟨pos, index, known, is, found⟩
  · grind
  · rw [known, Option.bind_eq_bind, Option.bind_some, if_neg is.not_neg,
      tracks.getConn_eq small, if_neg is.not_neg, is.toNat]
    rw [List.getElem?_map, Option.map_eq_some_iff] at found
    obtain ⟨conn, present, rfl⟩ := found
    rw [present, find?_incrId consecutive.nodup (List.mem_of_getElem? present)]

/-! ## New connections -/

/-- The loop reads the oldest connections, from an index on. -/
theorem removeOldest_eq (outItems : Nat) (is : IsNat pos (reg.ring.position index))
    (inside : index + outItems ≤ window.length) : ∃ after, reg.removeOldest pos outItems =
        some (after, ((window.drop index).take outItems).map some) ∧
      after.ringFields = reg.ringFields := by
  induction outItems generalizing reg pos index with
  | zero => exact ⟨reg, rfl, rfl⟩
  | succ outItems ih =>
    have bound : index < window.length := by omega
    have fits := tracks.holds.fits
    have place := tracks.holds.position_lt bound
    have limit := tracks.size.lt_size
    have same := forgetConnection_ringFields reg window[index]
    have next : IsNat ((pos + 1) % reg.size)
        ((reg.forgetConnection window[index]).ring.position (index + 1)) := by
      have sameRing : (reg.forgetConnection window[index]).ring = reg.ring := by
        simp only [ringFields, Prod.mk.injEq] at same
        simp only [ring, same]
      have step : reg.ring.position (index + 1) =
          (reg.ring.position index + 1) % reg.ring.size := (Nat.mod_add_mod _ _ 1).symm
      rw [sameRing, step]
      exact (is.add .one (by omega)).mod tracks.size
    obtain ⟨after, removed, unchanged⟩ := ih (tracks.of_ringFields same) next (by omega)
    refine ⟨after, ?_, unchanged.trans same⟩
    rw [removeOldest, tracks.loadAt_position is (List.getElem?_eq_getElem bound)]
    simp only [Option.bind_eq_bind, Option.bind_some, removed]
    rw [List.drop_eq_getElem_cons bound, List.take_succ_cons, List.map_cons]

theorem removeItems_eq {outItems : Int32} {out : Nat} (outIs : IsNat outItems out)
    (inside : out ≤ window.length) :
    ∃ after, reg.removeItems outItems = some (after, (window.take out).map some) ∧
      after.ringFields = reg.ringFields := by
  unfold removeItems
  split
  next some =>
    have positive := (IsNat.zero.lt_iff outIs).mp some
    have fits := tracks.holds.fits
    have start : reg.ring.position 0 = reg.ring.first :=
      Nat.mod_eq_of_lt (tracks.holds.first_lt (by omega))
    rw [outIs.toNat]
    exact tracks.removeOldest_eq out (start.symm ▸ tracks.firstPos_is) (by omega)
  next none =>
    have zero : out = 0 :=
      Nat.eq_zero_of_not_pos fun some => none ((IsNat.zero.lt_iff outIs).mpr some)
    grind

/-- One connection enters the window. -/
theorem addConnection_eq (positive : 0 < reg.ring.size) (small : reg.ring.size + 1 < 2 ^ 31)
    (platform : Platform) (conn : ConnectionDescriptor) :
    ∃ after, reg.addConnection platform conn = some (after, conn.registered platform) ∧
      after.Tracks ((window ++ [conn.registered platform]).rtake reg.ring.size) ∧
      after.ring.size = reg.ring.size ∧ after.size = reg.size ∧
      after.untrackedItems = reg.untrackedItems := by
  obtain ⟨sameRing, contents⟩ := (reg.countInterface conn).processConnectionStatus_spec
    (locate platform conn) (reg.getAppsStatsOrCreate conn.uid)
  rw [countInterface_ringFields] at sameRing
  simp only [addConnection]
  generalize (reg.countInterface conn).processConnectionStatus (locate platform conn)
    (reg.getAppsStatsOrCreate conn.uid) = processed at sameRing contents ⊢
  obtain ⟨middle, stored, stats⟩ := processed
  have contents : stored = conn.registered platform := contents
  subst contents
  have tracked := tracks.of_ringFields sameRing
  simp only [ringFields, Prod.mk.injEq] at sameRing
  obtain ⟨slots, tail, size, curItems, untracked⟩ := sameRing
  have ringEq : middle.ring = reg.ring := by simp only [ring, slots, tail, curItems]
  have fits := tracks.holds.fits
  have behind := tracks.holds.tail_lt positive
  rw [storeAt_of_isNat tracked.tail (by rw [ringEq, slots]; exact behind)]
  simp only [Option.bind_eq_bind, Option.bind_some]
  have nextTail : IsNat ((middle.tail + 1) % middle.size)
      ((reg.ring.tail + 1) % reg.ring.size) := by
    rw [tail, size]
    exact (tracks.tail.add .one (by omega)).mod tracks.size
  have nextCount : IsNat (min (middle.curItems + 1) middle.size)
      (min (window.length + 1) reg.ring.size) := by
    rw [curItems, size]
    exact (tracks.curItems.add .one (by omega)).min tracks.size
  refine ⟨_, rfl, ?_⟩
  generalize afterIs : putAppStats _ _ = after
  have pushed : after.ring = reg.ring.push (conn.registered platform) := by
    rw [← afterIs]
    simp only [ring, putAppStats, RingBuffer.push, RingBuffer.mk.injEq]
    refine ⟨?_, nextTail.toNat, ?_⟩
    · rw [slots, tail]
    · rw [nextCount.toNat, ← tracks.holds.count]
      rfl
  have sizeIs : after.size = reg.size := by rw [← afterIs]; exact size
  refine ⟨⟨?_, ?_, ?_, ?_⟩, ?_, sizeIs, ?_⟩
  · rw [sizeIs, pushed, RingBuffer.push_size]
    exact tracks.size
  · rw [pushed, ← afterIs]
    exact nextTail
  · rw [length_rtake, List.length_append, ← afterIs]
    exact nextCount
  · rw [pushed]
    exact tracks.holds.push positive _
  · rw [pushed, RingBuffer.push_size]
  · rw [← afterIs]
    exact untracked

/-- The connections of a batch enter the window. -/
theorem addConnections_eq (small : reg.ring.size + 1 < 2 ^ 31) (platform : Platform)
    (conns : List ConnectionDescriptor) (room : conns ≠ [] → 0 < reg.ring.size) :
    ∃ after, addConnections platform reg conns =
        some (after, conns.map (·.registered platform)) ∧
      after.Tracks ((window ++ conns.map (·.registered platform)).rtake reg.ring.size) ∧
      after.ring.size = reg.ring.size ∧ after.size = reg.size ∧
      after.untrackedItems = reg.untrackedItems := by
  induction conns generalizing reg window with
  | nil =>
    refine ⟨reg, rfl, ?_, rfl, rfl, rfl⟩
    rw [List.map_nil, List.append_nil, rtake_of_length_le tracks.holds.fits]
    exact tracks
  | cons conn conns ih =>
    obtain ⟨first, added, tracked, slots, size, untracked⟩ :=
      tracks.addConnection_eq (room (List.cons_ne_nil _ _)) small platform conn
    obtain ⟨after, others, final, slots', size', untracked'⟩ := ih tracked
      (by rw [slots]; exact small) (fun _ => by grind)
    refine ⟨after, ?_, ?_, slots'.trans slots, size'.trans size, untracked'.trans untracked⟩
    · rw [addConnections, added]
      grind
    · rw [slots, rtake_rtake_append, List.append_assoc] at final
      exact final

end Tracks

def storeCalls (size : Nat) (window stored : List ConnectionDescriptor) : List ListenerCall :=
  let outItems := window.length + stored.length - size
  (if 0 < outItems then [.connectionsRemoved 0 ((window.take outItems).map some)] else []) ++
    (if 0 < stored.length then [.connectionsAdded (.ofNat (window.length - outItems)) stored]
      else [])

namespace Tracks

variable {window : List ConnectionDescriptor}

theorem storeConnections_eq (tracks : reg.Tracks window) (small : reg.ring.size + 1 < 2 ^ 31)
    (platform : Platform) (conns : JavaArray ConnectionDescriptor)
    (room : conns.items.length ≤ reg.ring.size) :
    ∃ after, reg.storeConnections platform conns = some (after,
        storeCalls reg.ring.size window (conns.items.map (·.registered platform))) ∧
      after.Tracks ((window ++ conns.items.map (·.registered platform)).rtake reg.ring.size) ∧
      after.ring.size = reg.ring.size ∧ after.size = reg.size ∧
      after.untrackedItems =
        reg.untrackedItems + .ofNat (window.length + conns.items.length - reg.ring.size) := by
  have fits := tracks.holds.fits
  have outIs : IsNat (conns.length - min (reg.size - reg.curItems) conns.length)
      (window.length + conns.items.length - reg.ring.size) := by
    have out := conns.length_is.sub ((tracks.size.sub tracks.curItems fits).min conns.length_is)
      (Nat.min_le_right _ _)
    grind
  simp only [storeConnections]
  generalize conns.length - min (reg.size - reg.curItems) conns.length = outItems at outIs ⊢
  generalize outNat : window.length + conns.items.length - reg.ring.size = out at outIs
  obtain ⟨middle, removed, same⟩ := tracks.removeItems_eq outIs (by omega)
  have tracked := tracks.of_ringFields same
  simp only [ringFields, Prod.mk.injEq] at same
  obtain ⟨slots, tail, size, curItems, untracked⟩ := same
  have ringEq : middle.ring = reg.ring := by simp only [ring, slots, tail, curItems]
  obtain ⟨after, added, final, slots', size', untracked'⟩ := tracked.addConnections_eq
    (by rw [ringEq]; exact small) platform conns.items (fun some => by
      have length := List.length_pos_iff.mpr some
      rw [ringEq]
      omega)
  rw [ringEq] at final slots'
  refine ⟨{ after with untrackedItems := after.untrackedItems + outItems }, ?_,
    final.setUntracked _, slots', size'.trans size, ?_⟩
  · rw [removed]
    simp only [Option.bind_eq_bind, Option.bind_some, added, storeCalls, List.length_map, outNat]
    have place : reg.curItems - outItems = .ofNat (window.length - out) := by
      have is := tracks.curItems.sub outIs (by omega)
      exact is.eq (.ofNat is.lt_size)
    rw [place]
    simp only [IsNat.zero.lt_iff outIs, IsNat.zero.lt_iff conns.length_is]
  · rw [untracked', untracked, outIs.eq (.ofNat outIs.lt_size)]

end Tracks

/-! ## Updates -/

/-- An update changes the connection that has its identifier, and no other one. -/
def updateWindow (isLowMemory : Bool) (window : List ConnectionDescriptor)
    (update : ConnectionUpdate) : List ConnectionDescriptor :=
  window.map fun conn =>
    if conn.incrId = update.incrId then conn.updated isLowMemory update else conn

def changedPositions (window : List ConnectionDescriptor) (updates : List ConnectionUpdate) :
    List Int32 :=
  updates.filterMap fun update =>
    ((window.map (·.incrId)).idxOf? update.incrId).map Int32.ofNat

@[simp] theorem updateWindow_incrIds (isLowMemory : Bool) (window : List ConnectionDescriptor)
    (update : ConnectionUpdate) :
    (updateWindow isLowMemory window update).map (·.incrId) = window.map (·.incrId) := by
  rw [updateWindow, List.map_map]
  apply List.map_congr_left
  intro conn _
  simp only [Function.comp_apply]
  split
  next => exact conn.updated_incrId isLowMemory update
  next => rfl

theorem updateWindow_of_not_mem (isLowMemory : Bool) {update : ConnectionUpdate}
    (absent : update.incrId ∉ window.map (·.incrId)) :
    updateWindow isLowMemory window update = window := by
  refine (List.map_congr_left fun conn member => if_neg fun same => ?_).trans (List.map_id window)
  grind

/-- Only one connection has the identifier. -/
theorem updateWindow_of_getElem? (isLowMemory : Bool)
    (consecutive : Consecutive (window.map (·.incrId))) (found : window[index]? = some conn)
    {update : ConnectionUpdate} (same : update.incrId = conn.incrId) :
    updateWindow isLowMemory window update =
      window.set index (conn.updated isLowMemory update) := by
  apply List.ext_getElem?
  intro other
  rw [updateWindow, List.getElem?_map, List.getElem?_set]
  split
  next here =>
    grind
  next elsewhere =>
    cases there : window[other]? with
    | none => rfl
    | some another =>
      rw [Option.map_some, if_neg]
      intro again
      have first : (window.map (·.incrId))[index]? = some conn.incrId := by
        grind
      have second : (window.map (·.incrId))[other]? = some conn.incrId := by
        grind
      exact elsewhere (consecutive.index_unique first second)

def updateCalls (window : List ConnectionDescriptor) (updates : List ConnectionUpdate) :
    List ListenerCall :=
  if changedPositions window updates = [] then []
  else [.connectionsUpdated (changedPositions window updates)]

namespace Tracks

variable {window : List ConnectionDescriptor}

theorem applyUpdate_eq (tracks : reg.Tracks window) (is : IsNat pos (reg.ring.position index))
    (found : window[index]? = some conn) (isLowMemory : Bool) (update : ConnectionUpdate) :
    ∃ after, reg.applyUpdate isLowMemory pos conn update = some after ∧
      after.Tracks (window.set index (conn.updated isLowMemory update)) ∧
      after.ring = reg.ring.replace (reg.ring.position index) (conn.updated isLowMemory update) ∧
      after.size = reg.size ∧ after.untrackedItems = reg.untrackedItems := by
  have inside := (List.getElem?_eq_some_iff.mp found).1
  obtain ⟨sameRing, contents⟩ := reg.processConnectionStatus_spec
    (conn.processUpdate isLowMemory update) (reg.updateAppStats conn update)
  simp only [applyUpdate]
  generalize reg.processConnectionStatus (conn.processUpdate isLowMemory update)
    (reg.updateAppStats conn update) = processed at sameRing contents ⊢
  obtain ⟨middle, stored, stats⟩ := processed
  have contents : stored = conn.updated isLowMemory update := contents
  subst contents
  simp only [ringFields, Prod.mk.injEq] at sameRing
  obtain ⟨slots, tail, size, curItems, untracked⟩ := sameRing
  have place : reg.ring.position index < middle.itemsRing.length := by
    rw [slots]
    exact tracks.holds.position_lt inside
  rw [storeAt_of_isNat is place]
  simp only [Option.bind_eq_bind, Option.bind_some]
  refine ⟨_, rfl, ?_⟩
  generalize afterIs : putAppStats _ _ = after
  have replaced : after.ring = reg.ring.replace (reg.ring.position index)
      (conn.updated isLowMemory update) := by
    rw [← afterIs]
    simp only [ring, putAppStats, RingBuffer.replace, slots, tail, curItems]
  have sizeIs : after.size = reg.size := by rw [← afterIs]; exact size
  refine ⟨⟨?_, ?_, ?_, ?_⟩, replaced, sizeIs, by rw [← afterIs]; exact untracked⟩
  · rw [sizeIs, replaced, RingBuffer.replace_size]
    exact tracks.size
  · rw [replaced, ← afterIs]
    exact tail ▸ tracks.tail
  · rw [List.length_set, ← afterIs]
    exact curItems ▸ tracks.curItems
  · rw [replaced]
    exact tracks.holds.replace inside _

/-- The loop over the updates; the identifiers stay where they are. -/
theorem applyUpdates_eq (tracks : reg.Tracks window) (small : reg.ring.size ≤ 2 ^ 30)
    (consecutive : Consecutive (window.map (·.incrId))) {firstId lastId firstPos : Int32}
    (head : (window.map (·.incrId))[0]? = some firstId)
    (final : (window.map (·.incrId))[(window.map (·.incrId)).length - 1]? = some lastId)
    (firstIs : IsNat firstPos reg.ring.first) (isLowMemory : Bool)
    (updates : List ConnectionUpdate) :
    ∃ after, applyUpdates isLowMemory firstId lastId firstPos reg updates =
        some (after, changedPositions window updates) ∧
      after.Tracks (updates.foldl (updateWindow isLowMemory) window) ∧
      after.ring.size = reg.ring.size ∧ after.untrackedItems = reg.untrackedItems := by
  induction updates generalizing reg window with
  | nil => exact ⟨reg, rfl, tracks, rfl, rfl⟩
  | cons update updates ih =>
    rw [applyUpdates, changedPositions, List.filterMap_cons, List.foldl_cons]
    split
    next inside =>
      obtain ⟨index, known, distance⟩ :=
        consecutive.exists_index head final inside.1 inside.2
      obtain ⟨conn, found, same⟩ := Option.map_eq_some_iff.mp
        (List.getElem?_map.symm.trans known)
      have bound := (List.getElem?_eq_some_iff.mp found).1
      have fits := tracks.holds.fits
      have oldest := tracks.holds.first_lt (by omega)
      have place := tracks.holds.position_lt bound
      have posIs : IsNat ((update.incrId - firstId + firstPos) % reg.size)
          (reg.ring.position index) := by
        have sum := (IsNat.of_sub distance (by omega)).add firstIs (by omega)
        rw [RingBuffer.position, Nat.add_comm]
        exact sum.mod tracks.size
      generalize (update.incrId - firstId + firstPos) % reg.size = pos at posIs ⊢
      have reported : (pos + reg.size - firstPos) % reg.size = .ofNat index := by
        have offset := (((posIs.add tracks.size (by omega)).sub firstIs (by omega)).mod
          tracks.size)
        rw [tracks.holds.position_offset (by omega)] at offset
        exact offset.eq (.ofNat offset.lt_size)
      obtain ⟨middle, applied, tracked, replaced, size, untracked⟩ :=
        tracks.applyUpdate_eq posIs found isLowMemory update
      rw [← updateWindow_of_getElem? isLowMemory consecutive found same.symm] at tracked
      have firstEq : middle.ring.first = reg.ring.first := by
        rw [replaced, RingBuffer.first, RingBuffer.replace_size]
        rfl
      have sizeEq : middle.ring.size = reg.ring.size := by
        rw [replaced, RingBuffer.replace_size]
      obtain ⟨after, others, followed, sizeEq', untracked'⟩ := ih tracked
        (by rw [sizeEq]; exact small) (by rw [updateWindow_incrIds]; exact consecutive)
        (by rw [updateWindow_incrIds]; exact head)
        (by rw [updateWindow_incrIds]; exact final) (by rw [firstEq]; exact firstIs)
      refine ⟨after, ?_, followed, sizeEq'.trans sizeEq, untracked'.trans untracked⟩
      rw [consecutive.idxOf?_eq known, Option.map_some]
      simp only [tracks.loadAt_position posIs found, Option.join_some, Option.bind_eq_bind,
        Option.bind_some, applied, others, reported, changedPositions, updateWindow_incrIds]
    next outside =>
      have absent : update.incrId ∉ window.map (·.incrId) := by
        intro member
        obtain ⟨index, known⟩ := List.mem_iff_getElem?.mp member
        exact outside (consecutive.bounds_of_getElem? head final known)
      rw [List.idxOf?_eq_none_iff.mpr absent, Option.map_none,
        updateWindow_of_not_mem isLowMemory absent]
      exact ih tracks small consecutive head final firstIs

end Tracks

/-! ## The connections by position -/

section Lists

variable {start : Nat} {conn : ConnectionDescriptor} {conns window : List ConnectionDescriptor}

/-- The register shows the connections, from a position on. -/
def Lists (reg : ConnectionsRegister) (start : Nat) (conns : List ConnectionDescriptor) : Prop :=
  ∀ (index : Nat) (conn : ConnectionDescriptor), conns[index]? = some conn →
    reg.getConn (.ofNat (start + index)) = some (some conn)

theorem Lists.head (lists : reg.Lists start (conn :: conns)) :
    reg.getConn (.ofNat start) = some (some conn) := lists 0 conn rfl

theorem Lists.tail (lists : reg.Lists start (conn :: conns)) :
    reg.Lists (start + 1) conns := by
  intro index other found
  rw [Nat.add_assoc, Nat.add_comm 1]
  exact lists (index + 1) other found

theorem Lists.take (lists : reg.Lists start conns) (count : Nat) :
    reg.Lists start (conns.take count) := by
  intro index conn found
  apply lists index conn
  grind

theorem Tracks.lists (tracks : reg.Tracks window) (small : reg.ring.size ≤ 2 ^ 30) :
    reg.Lists 0 window := by
  intro index conn found
  have inside := (List.getElem?_eq_some_iff.mp found).1
  have fits := tracks.holds.fits
  have is : IsNat (Int32.ofNat (0 + index)) index := by
    rw [Nat.zero_add]
    exact .ofNat (by omega)
  rw [tracks.getConn_eq small, if_neg is.not_neg, is.toNat, found]

/-- A loop over the positions that looks each connection up visits the connections. -/
theorem Lists.foldl_range {State : Type} {visit : State → Nat → State}
    {visitConn : State → ConnectionDescriptor → State}
    (visited : ∀ state index conn, reg.getConn (.ofNat index) = some (some conn) →
      visit state index = visitConn state conn)
    (lists : reg.Lists start conns) (state : State) :
    (List.range' start conns.length).foldl visit state = conns.foldl visitConn state := by
  induction conns generalizing start state with
  | nil => rfl
  | cons conn conns ih =>
    rw [List.length_cons, List.range'_succ, List.foldl_cons, visited _ _ _ lists.head]
    exact ih lists.tail _

/-- What is read at positions of the register. -/
theorem Lists.mapM_getConn (lists : reg.Lists 0 conns) (small : conns.length ≤ 2 ^ 31)
    {positions : List Int32}
    (inside : ∀ pos ∈ positions, ∃ index, index < conns.length ∧ pos = .ofNat index) :
    positions.mapM reg.getConn =
      some ((positions.filterMap fun pos => conns[pos.toNatClampNeg]?).map some) := by
  induction positions with
  | nil => rfl
  | cons pos positions ih =>
    obtain ⟨here, others⟩ := List.forall_mem_cons.mp inside
    obtain ⟨index, bound, rfl⟩ := here
    have is : IsNat (Int32.ofNat index) index := .ofNat (by omega)
    have read := lists index conns[index] (List.getElem?_eq_getElem bound)
    rw [Nat.zero_add] at read
    rw [List.mapM_cons, read, ih others, List.filterMap_cons, is.toNat,
      List.getElem?_eq_getElem bound]
    rfl

end Lists

end ConnectionsRegister

end PcapdroidFormal.Register
