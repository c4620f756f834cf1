import PcapdroidFormal.Register.Window

/-!
# The register is a sliding window

Over every sequence of calls the register shows the last of the connections that
were delivered.  The abstract side is the list of all of them, with the contents
that they have after the updates that reached them.
-/

namespace PcapdroidFormal.Register

open Foundation

/-! ## The connections that were delivered -/

/-- The batches of a sequence of calls, one behind the other. -/
def delivered (calls : List RegisterCall) : List ConnectionDescriptor :=
  calls.flatMap fun
    | .newConnections conns => conns.items
    | .connectionsUpdates _ _ => []

theorem delivered_cons (call : RegisterCall) (calls : List RegisterCall) :
    delivered (call :: calls) = delivered [call] ++ delivered calls := by
  simp only [delivered, List.flatMap_cons, List.flatMap_nil, List.append_nil]

/-- The contents of the connections after a call; updates reach those in the window only. -/
def RegisterCall.record (platform : Platform) (slots : Nat) (log : List ConnectionDescriptor) :
    RegisterCall → List ConnectionDescriptor
  | .newConnections conns => log ++ conns.items.map (·.registered platform)
  | .connectionsUpdates isLowMemory updates => log.take (log.length - slots) ++
      updates.items.foldl (ConnectionsRegister.updateWindow isLowMemory) (log.rtake slots)

/-- The contents of all connections after a sequence of calls. -/
def history (platform : Platform) (slots : Nat) (calls : List RegisterCall) :
    List ConnectionDescriptor :=
  calls.foldl (RegisterCall.record platform slots) []

section

variable (platform : Platform) (slots : Nat) (log : List ConnectionDescriptor) (isLowMemory : Bool)
    (window : List ConnectionDescriptor)

theorem updateWindows_incrIds (updates : List ConnectionUpdate) :
    (updates.foldl (ConnectionsRegister.updateWindow isLowMemory) window).map (·.incrId) =
      window.map (·.incrId) := by
  induction updates generalizing window with
  | nil => rfl
  | cons update updates ih =>
    exact (ih _).trans (ConnectionsRegister.updateWindow_incrIds isLowMemory window update)

theorem updateWindows_length (updates : List ConnectionUpdate) :
    (updates.foldl (ConnectionsRegister.updateWindow isLowMemory) window).length =
      window.length := by
  have ids := congrArg List.length (updateWindows_incrIds isLowMemory window updates)
  grind

theorem take_append_rtake (slots : Nat) :
    log.take (log.length - slots) ++ log.rtake slots = log := List.take_append_drop _ log

variable {log} in
theorem consecutive_window (consecutive : Consecutive (log.map (·.incrId))) :
    Consecutive ((log.rtake slots).map (·.incrId)) := by
  rw [← rtake_map]
  exact List.IsChain.drop consecutive _

/-- A call delivers its batch. -/
theorem RegisterCall.record_incrIds (call : RegisterCall) :
    (call.record platform slots log).map (·.incrId) =
      log.map (·.incrId) ++ (delivered [call]).map (·.incrId) := by
  cases call with
  | newConnections conns =>
    simp only [record, delivered, List.flatMap_cons, List.flatMap_nil, List.append_nil,
      List.map_append, List.map_map]
    rfl
  | connectionsUpdates isLowMemory updates =>
    simp only [record, delivered, List.flatMap_cons, List.flatMap_nil, List.append_nil,
      List.map_append, List.map_nil, updateWindows_incrIds]
    rw [← List.map_append, take_append_rtake]

/-- Updates stay in the window. -/
theorem rtake_record_updates (updates : JavaArray ConnectionUpdate) :
    (RegisterCall.record platform slots log (.connectionsUpdates isLowMemory updates)).rtake slots =
      updates.items.foldl (ConnectionsRegister.updateWindow isLowMemory) (log.rtake slots) := by
  rw [RegisterCall.record]
  exact rtake_take_append (updateWindows_length isLowMemory (log.rtake slots) updates.items)

end

variable {log : List ConnectionDescriptor} {reg : ConnectionsRegister}

namespace ConnectionsRegister

variable {reg : ConnectionsRegister}

structure Follows (reg : ConnectionsRegister) (slots : Nat) (log : List ConnectionDescriptor) :
    Prop where
  ringSize : reg.ring.size = slots
  tracks : reg.Tracks (log.rtake slots)
  untracked : reg.untrackedItems = .ofNat (log.length - slots)

namespace Follows

variable {slots : Nat} {log : List ConnectionDescriptor}

theorem new {size : Int32} (is : IsNat size slots) :
    (ConnectionsRegister.new size).Follows slots [] where
  ringSize := by
    change (List.replicate size.toNatClampNeg none).length = slots
    rw [List.length_replicate, is.toNat]
  tracks := by
    rw [rtake_of_length_le (Nat.zero_le slots)]
    exact .new is
  untracked := by
    rw [List.length_nil, Nat.zero_sub]
    rfl

theorem newConnections (follows : reg.Follows slots log) (small : slots + 1 < 2 ^ 31)
    (platform : Platform) (conns : JavaArray ConnectionDescriptor) :
    ∃ after, reg.newConnections platform conns = some (after,
        storeCalls slots (log.rtake slots)
          ((conns.items.map (·.registered platform)).rtake slots)) ∧
      after.Follows slots (log ++ conns.items.map (·.registered platform)) := by
  obtain ⟨rfl, tracks, untracked⟩ := follows
  have length := length_rtake log reg.ring.size
  unfold ConnectionsRegister.newConnections
  split
  next oversized =>
    rw [tracks.size.lt_iff conns.length_is] at oversized
    have cutIs := conns.length_is.sub tracks.size (Nat.le_of_lt oversized)
    have cut : (conns.copyFrom (conns.length - reg.size).toNatClampNeg).items =
        conns.items.rtake reg.ring.size := by
      rw [cutIs.toNat]
      rfl
    have cutLength : (conns.items.rtake reg.ring.size).length = reg.ring.size := by
      rw [length_rtake]
      omega
    generalize countedIs : ({ reg with
      untrackedItems := reg.untrackedItems + (conns.length - reg.size) } :
        ConnectionsRegister) = counted
    have ringEq : counted.ring = reg.ring := by rw [← countedIs]; rfl
    have tracked : counted.Tracks (log.rtake reg.ring.size) := countedIs ▸ tracks.setUntracked _
    obtain ⟨after, stored, final, slots, -, items⟩ := tracked.storeConnections_eq
      (by rw [ringEq]; exact small) platform
      (conns.copyFrom (conns.length - reg.size).toNatClampNeg)
      (by rw [cut, cutLength, ringEq])
    rw [ringEq, cut, ← rtake_map] at stored final
    rw [ringEq, cut, length, cutLength] at items
    refine ⟨after, stored, slots.trans (congrArg RingBuffer.size ringEq), ?_, ?_⟩
    · -- the batch fills the window alone
      have filled : reg.ring.size ≤ (conns.items.map (·.registered platform)).length := by
        grind
      have whole := length_rtake (conns.items.map (·.registered platform)) reg.ring.size
      rw [Nat.min_eq_right filled] at whole
      rw [rtake_append_of_le (Nat.le_of_eq whole.symm), rtake_of_length_le (Nat.le_of_eq whole)]
        at final
      rwa [rtake_append_of_le filled]
    · have countedItems : counted.untrackedItems =
          reg.untrackedItems + .ofNat (conns.items.length - reg.ring.size) := by
        rw [← countedIs, cutIs.eq (.ofNat cutIs.lt_size)]
      rw [items, countedItems, untracked, ← Int32.ofNat_add, ← Int32.ofNat_add,
        List.length_append, List.length_map]
      congr 1
      omega
  next fits =>
    rw [tracks.size.lt_iff conns.length_is, Nat.not_lt] at fits
    obtain ⟨after, stored, final, slots, -, items⟩ :=
      tracks.storeConnections_eq small platform conns fits
    refine ⟨after, ?_, slots, ?_, ?_⟩
    · have whole : (conns.items.map (·.registered platform)).rtake reg.ring.size =
          conns.items.map (·.registered platform) :=
        rtake_of_length_le (by grind)
      rw [stored, whole]
    · rwa [rtake_rtake_append] at final
    · rw [items, untracked, ← Int32.ofNat_add, List.length_append, List.length_map, length]
      congr 1
      omega

theorem connectionsUpdates (follows : reg.Follows slots log) (small : slots ≤ 2 ^ 30)
    (consecutive : Consecutive ((log.rtake slots).map (·.incrId))) (platform : Platform)
    (isLowMemory : Bool) (updates : JavaArray ConnectionUpdate) :
    ∃ after, reg.connectionsUpdates isLowMemory updates =
        some (after, updateCalls (log.rtake slots) updates.items) ∧
      after.Follows slots
        (RegisterCall.record platform slots log (.connectionsUpdates isLowMemory updates)) := by
  obtain ⟨rfl, tracks, untracked⟩ := follows
  have counted := congrArg List.length (RegisterCall.record_incrIds platform reg.ring.size log
    (.connectionsUpdates isLowMemory updates))
  rw [List.length_map, List.length_append, List.length_map] at counted
  obtain ⟨after, updated, final, size, items⟩ : ∃ after,
      reg.connectionsUpdates isLowMemory updates =
        some (after, updateCalls (log.rtake reg.ring.size) updates.items) ∧
      after.Tracks (updates.items.foldl (updateWindow isLowMemory) (log.rtake reg.ring.size)) ∧
      after.ring.size = reg.ring.size ∧ after.untrackedItems = reg.untrackedItems := by
    generalize log.rtake reg.ring.size = window at tracks consecutive ⊢
    unfold ConnectionsRegister.connectionsUpdates
    split
    next empty =>
      have nothing : window = [] :=
        List.length_eq_zero_iff.mp (tracks.curItems.unique (empty ▸ .zero))
      subst nothing
      have unchanged : updates.items.foldl (updateWindow isLowMemory) [] = [] :=
        List.length_eq_zero_iff.mp (updateWindows_length isLowMemory [] updates.items)
      have silent : updateCalls [] updates.items = [] := by simp [updateCalls, changedPositions]
      grind
    next some =>
      have nonempty : window ≠ [] := by
        rintro rfl
        exact some (tracks.curItems.eq .zero)
      obtain ⟨first, last, head, final, headId, finalId⟩ := Tracks.exists_ends nonempty
      obtain ⟨after, applied, tracked, size, items⟩ := tracks.applyUpdates_eq small consecutive
        headId finalId tracks.firstPos_is isLowMemory updates.items
      refine ⟨after, ?_, tracked, size, items⟩
      simp only [tracks.load_first head, tracks.load_last small final, Option.join_some,
        Option.bind_eq_bind, Option.bind_some, applied]
      rfl
  refine ⟨after, updated, size, ?_, ?_⟩
  · rwa [rtake_record_updates]
  · rw [items, untracked, counted]
    rfl

end Follows

/-! ## What the getters return -/

/-- The getters show a window of the connections delivered so far. -/
structure Shows (reg : ConnectionsRegister) (slots count : Nat)
    (window : List ConnectionDescriptor) : Prop where
  getConnCount : IsNat reg.getConnCount (min count slots)
  total : reg.getConnCount + reg.getUntrackedConnCount = .ofNat count
  exactTotal : count ≤ 2 ^ 31 →
    reg.getConnCount.toInt + reg.getUntrackedConnCount.toInt = count
  getConn : ∀ i, reg.getConn i = some (if i < 0 then none else window[i.toNatClampNeg]?)
  getConnById : ∀ incrId, reg.getConnById incrId =
    some (window.find? fun conn => conn.incrId = incrId)

theorem Follows.shows {slots : Nat} (follows : reg.Follows slots log) (positive : 0 < slots)
    (small : slots ≤ 2 ^ 30) (consecutive : Consecutive ((log.rtake slots).map (·.incrId))) :
    reg.Shows slots log.length (log.rtake slots) := by
  obtain ⟨rfl, tracks, untracked⟩ := follows
  have count : IsNat reg.curItems (min log.length reg.ring.size) := by
    rw [← length_rtake]
    exact tracks.curItems
  refine ⟨count, ?_, fun bound => ?_, tracks.getConn_eq small,
    tracks.getConnById_eq small consecutive⟩
  · rw [ConnectionsRegister.getConnCount, ConnectionsRegister.getUntrackedConnCount, untracked,
      count.eq (.ofNat count.lt_size), ← Int32.ofNat_add]
    congr 1
    omega
  · rw [ConnectionsRegister.getConnCount, ConnectionsRegister.getUntrackedConnCount, untracked,
      count, IsNat.ofNat (by omega)]
    omega

end ConnectionsRegister

/-! ## Every sequence of calls -/

/-- The register after a sequence of calls. -/
def performCalls (platform : Platform) (reg : ConnectionsRegister) (calls : List RegisterCall) :
    Option ConnectionsRegister :=
  calls.foldlM (fun reg call => (call.perform platform reg).map Prod.fst) reg

theorem RegisterCall.perform_follows {slots : Nat} (follows : reg.Follows slots log)
    (small : slots ≤ 2 ^ 30) (consecutive : Consecutive (log.map (·.incrId))) (platform : Platform)
    (call : RegisterCall) : ∃ after calls, call.perform platform reg = some (after, calls) ∧
      after.Follows slots (call.record platform slots log) := by
  cases call with
  | newConnections conns =>
    obtain ⟨after, performed, final⟩ := follows.newConnections (by omega) platform conns
    exact ⟨after, _, performed, final⟩
  | connectionsUpdates isLowMemory updates =>
    have inWindow := consecutive_window slots consecutive
    obtain ⟨after, performed, final⟩ :=
      follows.connectionsUpdates small inWindow platform isLowMemory updates
    exact ⟨after, _, performed, final⟩

theorem performCalls_follows {slots : Nat} (follows : reg.Follows slots log)
    (small : slots ≤ 2 ^ 30) (platform : Platform) (calls : List RegisterCall)
    (consecutive : Consecutive (log.map (·.incrId) ++ (delivered calls).map (·.incrId))) :
    ∃ after, performCalls platform reg calls = some after ∧
      after.Follows slots (calls.foldl (RegisterCall.record platform slots) log) ∧
      (calls.foldl (RegisterCall.record platform slots) log).map (·.incrId) =
        log.map (·.incrId) ++ (delivered calls).map (·.incrId) := by
  induction calls generalizing reg log with
  | nil => exact ⟨reg, rfl, follows, (List.append_nil _).symm⟩
  | cons call calls ih =>
    have split : (delivered (call :: calls)).map (·.incrId) =
        (delivered [call]).map (·.incrId) ++ (delivered calls).map (·.incrId) := by
      rw [← List.map_append, ← delivered_cons]
    rw [split, ← List.append_assoc, ← call.record_incrIds platform slots log] at consecutive
    have before : Consecutive (log.map (·.incrId)) := by
      have known := List.IsChain.left_of_append consecutive
      rw [call.record_incrIds platform slots log] at known
      exact List.IsChain.left_of_append known
    obtain ⟨middle, listener, performed, followed⟩ :=
      call.perform_follows follows small before platform
    obtain ⟨after, others, final, ids⟩ := ih followed consecutive
    refine ⟨after, ?_, final, ?_⟩
    · simp only [performCalls, List.foldlM_cons, performed, Option.map_some,
        Option.bind_eq_bind, Option.bind_some]
      exact others
    · rw [List.foldl_cons, ids, split, call.record_incrIds platform slots log,
        List.append_assoc]

/-- Whatever calls are made, the register shows the last connections that were delivered, with
the updates that reached them; and an update that follows is applied to the connection with its
identifier if it is among them, and reported with its position. -/
theorem register_is_sliding_window (platform : Platform) (size : Int32) (positive : 0 < size)
    (small : size ≤ 0x40000000) (calls : List RegisterCall)
    (consecutive : Consecutive ((delivered calls).map (·.incrId))) :
    let slots := size.toNatClampNeg
    let window := (history platform slots calls).rtake slots
    (history platform slots calls).map (·.incrId) = (delivered calls).map (·.incrId) ∧
    ∃ reg, performCalls platform (.new size) calls = some reg ∧
      reg.Shows slots (delivered calls).length window ∧
      ∀ isLowMemory (updates : JavaArray ConnectionUpdate),
        ∃ after, reg.connectionsUpdates isLowMemory updates =
            some (after, ConnectionsRegister.updateCalls window updates.items) ∧
          after.Shows slots (delivered calls).length
            (updates.items.foldl (ConnectionsRegister.updateWindow isLowMemory) window) := by
  intro slots window
  have is : IsNat size slots := .of_nonneg fun negative =>
    Int32.lt_irrefl (Int32.lt_trans negative positive)
  have bound : IsNat (0x40000000 : Int32) (2 ^ 30) :=
    (by decide : (0x40000000 : Int32).toInt = 2 ^ 30)
  have few : slots ≤ 2 ^ 30 := (is.le_iff bound).mp small
  have some : 0 < slots := (IsNat.zero.lt_iff is).mp positive
  obtain ⟨reg, performed, follows, ids⟩ := performCalls_follows
    (ConnectionsRegister.Follows.new is) few platform calls consecutive
  change reg.Follows slots (history platform slots calls) at follows
  change (history platform slots calls).map (·.incrId) = (delivered calls).map (·.incrId) at ids
  have count := congrArg List.length ids
  rw [List.length_map, List.length_map] at count
  have inWindow : Consecutive (window.map (·.incrId)) :=
    consecutive_window slots (ids ▸ consecutive)
  refine ⟨ids, reg, performed, ?_, fun isLowMemory updates => ?_⟩
  · rw [← count]
    exact follows.shows some few inWindow
  · obtain ⟨after, updated, final⟩ :=
      follows.connectionsUpdates few inWindow platform isLowMemory updates
    have same := RegisterCall.record_incrIds platform slots (history platform slots calls)
      (.connectionsUpdates isLowMemory updates)
    rw [show delivered [.connectionsUpdates isLowMemory updates] = [] from rfl, List.map_nil,
      List.append_nil] at same
    have shows := final.shows some few (by
      rw [← rtake_map, same, rtake_map]
      exact inWindow)
    have sameCount := congrArg List.length same
    rw [List.length_map, List.length_map, count] at sameCount
    rw [rtake_record_updates, sameCount] at shows
    exact ⟨after, updated, shows⟩

/-- A platform that knows nothing. -/
def bare : Platform :=
  ⟨fun _ => none, fun _ => "", fun _ => ⟨0, ""⟩, fun _ => "", fun text => text⟩

/-- A connection of which nothing is known but its identifier. -/
def plainConn (incrId : Int32) : ConnectionDescriptor := .new incrId "" 0 0 0 0 false 0

/-- Three connections and an update of the last one, in a register for two of them. -/
theorem register_is_sliding_window_of_two :
    ∃ reg, performCalls bare (.new 2)
        [.newConnections ⟨[plainConn 0, plainConn 1, plainConn 2], by decide⟩,
          .connectionsUpdates false ⟨[.new 0, .new 2], by decide⟩] = some reg ∧
      reg.Shows 2 3 [plainConn 1, plainConn 2] := by
  obtain ⟨-, reg, performed, shows, -⟩ := register_is_sliding_window bare 2
    (by decide) (by decide)
    [.newConnections ⟨[plainConn 0, plainConn 1, plainConn 2], by decide⟩,
      .connectionsUpdates false ⟨[.new 0, .new 2], by decide⟩]
    (.cons_cons (by decide) (.cons_cons (by decide) (.singleton 2)))
  exact ⟨reg, performed, shows⟩

/-! ## A register with too many slots -/

/-- As many connections as wanted, numbered from zero. -/
def numberedConns (count : Nat) : List ConnectionDescriptor :=
  (List.range count).map fun number => plainConn (.ofNat number)

theorem numberedConns_length (count : Nat) : (numberedConns count).length = count := by
  rw [numberedConns, List.length_map, List.length_range]

theorem numberedConns_consecutive {count : Nat} (bound : count < 2 ^ 31) :
    Consecutive ((numberedConns count).map (·.incrId)) := by
  rw [Consecutive, List.isChain_iff_getElem]
  intro index inside
  rw [List.length_map, numberedConns_length] at inside
  simp only [numberedConns, List.getElem_map, List.getElem_range, plainConn,
    ConnectionDescriptor.new]
  rw [IsNat.ofNat (by omega), IsNat.ofNat (by omega)]
  rfl

/-- As long as there is room, the tail counts the connections. -/
theorem ConnectionsRegister.Tracks.tail_of_room {window : List ConnectionDescriptor}
    (tracks : reg.Tracks window) (room : window.length < reg.ring.size) :
    IsNat reg.tail window.length := by
  have oldest : reg.ring.first = 0 := if_pos (tracks.holds.count ▸ room)
  have tail : reg.ring.tail = window.length := by
    rw [tracks.holds.tail, RingBuffer.position, oldest, Nat.zero_add]
    exact Nat.mod_eq_of_lt room
  exact tail ▸ tracks.tail

/-- With more than `2 ^ 30` slots the position of the newest connection overflows. -/
theorem oversized_lastPos :
    ∃ conns : JavaArray ConnectionDescriptor,
      Consecutive (conns.items.map (·.incrId)) ∧ plainConn 0 ∈ conns.items ∧
      conns.items.length = 2 ^ 30 ∧
      ∃ reg calls, (ConnectionsRegister.new 0x40000001).newConnections bare conns =
          some (reg, calls) ∧
        reg.curItems = 0x40000000 ∧ reg.lastPos < 0 := by
  obtain ⟨count, countIs⟩ : ∃ count, count = 2 ^ 30 := ⟨_, rfl⟩
  have sizeIs : IsNat (0x40000001 : Int32) (count + 1) := by
    rw [countIs]
    exact (by decide : (0x40000001 : Int32).toInt = 2 ^ 30 + 1)
  have numberIs : IsNat (0x40000000 : Int32) count := by
    rw [countIs]
    exact (by decide : (0x40000000 : Int32).toInt = 2 ^ 30)
  have length := numberedConns_length count
  refine ⟨⟨numberedConns count, by omega⟩, numberedConns_consecutive (by omega),
    List.mem_map.mpr ⟨0, List.mem_range.mpr (by omega), rfl⟩, length.trans countIs, ?_⟩
  obtain ⟨reg, stored, ringSize, tracks, -⟩ :=
    (ConnectionsRegister.Follows.new sizeIs).newConnections (by omega) bare
      ⟨numberedConns count, by omega⟩
  have windowLength : ((([] : List ConnectionDescriptor) ++ (numberedConns count).map
      (·.registered bare)).rtake (count + 1)).length = count := by
    rw [length_rtake, List.nil_append, List.length_map, length]
    omega
  have curIs := tracks.curItems
  have tailIs := tracks.tail_of_room (by grind)
  have slotsIs := tracks.size
  rw [windowLength] at curIs tailIs
  rw [ringSize] at slotsIs
  refine ⟨reg, _, stored, curIs.eq numberIs, ?_⟩
  rw [ConnectionsRegister.lastPos, tailIs.eq numberIs, slotsIs.eq sizeIs]
  decide

/-- In such a register no connection is found by its identifier. -/
theorem oversized_register_throws :
    ∃ conns : JavaArray ConnectionDescriptor,
      Consecutive (conns.items.map (·.incrId)) ∧ plainConn 0 ∈ conns.items ∧
      ∃ reg calls, (ConnectionsRegister.new 0x40000001).newConnections bare conns =
          some (reg, calls) ∧
        reg.getConnCount = 0x40000000 ∧ reg.getConnById 0 = none := by
  obtain ⟨conns, consecutive, member, -, reg, calls, stored, cur, behind⟩ := oversized_lastPos
  refine ⟨conns, consecutive, member, reg, calls, stored, cur, ?_⟩
  have notEmpty : ¬reg.curItems ≤ 0 := by
    rw [cur]
    decide
  simp only [ConnectionsRegister.getConnById, ConnectionsRegister.getConnPositionById,
    if_neg notEmpty, loadAt_of_neg behind, Option.join_none, Option.bind_eq_bind,
    Option.bind_none, Option.bind_fun_none]

end PcapdroidFormal.Register
