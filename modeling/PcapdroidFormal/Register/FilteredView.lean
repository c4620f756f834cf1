import Mathlib.Data.List.Nodup
import PcapdroidFormal.Register.SlidingWindow
import PcapdroidFormal.Register.Sweep

/-!
# The filtered view follows the register

With the adapter as a synchronous listener, the view holds the connections of the
register that matched ever since they were added.  The abstract side remembers
all contents that a connection had, one for each update that reached it.
-/

namespace PcapdroidFormal.Register

open Foundation

variable {updates : List ConnectionUpdate} {visits : List Visit} {position : Int32} {start : Nat}

/-! ## Connections with all their contents -/

/-- A connection and the contents that it had before, the latest ones first. -/
structure Sighting where
  conn : ConnectionDescriptor
  earlier : List ConnectionDescriptor

namespace Sighting

variable (matchesConn : ConnectionDescriptor → Bool) (isLowMemory : Bool)

def versions (sighting : Sighting) : List ConnectionDescriptor :=
  sighting.conn :: sighting.earlier

/-- A connection is shown if it matched when it was added and after each update. -/
def item (sighting : Sighting) : Item := ⟨sighting.conn, sighting.versions.all matchesConn⟩

def update (sighting : Sighting) (update : ConnectionUpdate) : Sighting :=
  if sighting.conn.incrId = update.incrId then
    ⟨sighting.conn.updated isLowMemory update, sighting.versions⟩
  else sighting

def updateAll (updates : List ConnectionUpdate) (sighting : Sighting) : Sighting :=
  updates.foldl (update isLowMemory) sighting

theorem update_incrId (sighting : Sighting) (change : ConnectionUpdate) :
    (sighting.update isLowMemory change).conn.incrId = sighting.conn.incrId := by
  rw [update]
  split
  next => exact sighting.conn.updated_incrId isLowMemory change
  next => rfl

theorem updateAll_incrId (updates : List ConnectionUpdate) (sighting : Sighting) :
    (sighting.updateAll isLowMemory updates).conn.incrId = sighting.conn.incrId := by
  induction updates generalizing sighting with
  | nil => rfl
  | cons change updates ih =>
    exact (ih (sighting.update isLowMemory change)).trans
      (sighting.update_incrId isLowMemory change)

/-- The contents are those that the register has. -/
theorem map_updateAll_conn (updates : List ConnectionUpdate) (window : List Sighting) :
    (window.map (updateAll isLowMemory updates)).map (·.conn) =
      updates.foldl (ConnectionsRegister.updateWindow isLowMemory) (window.map (·.conn)) := by
  induction updates generalizing window with
  | nil => exact congrArg (List.map _) (List.map_id window)
  | cons change updates ih =>
    have once : (window.map fun sighting => sighting.update isLowMemory change).map (·.conn) =
        ConnectionsRegister.updateWindow isLowMemory (window.map (·.conn)) change := by
      rw [ConnectionsRegister.updateWindow, List.map_map, List.map_map]
      apply List.map_congr_left
      intro sighting _
      simp only [Function.comp_apply, update]
      split <;> rfl
    rw [List.foldl_cons, ← once, ← ih]
    refine congrArg (List.map _) ?_
    rw [List.map_map]
    rfl

theorem updateAll_of_not_mem {sighting : Sighting}
    (absent : sighting.conn.incrId ∉ updates.map (·.incrId)) :
    sighting.updateAll isLowMemory updates = sighting := by
  induction updates with
  | nil => rfl
  | cons change updates ih =>
    rw [List.map_cons, List.mem_cons, not_or] at absent
    rw [updateAll, List.foldl_cons, update, if_neg absent.1]
    exact ih absent.2

/-- An update that comes alone adds a version. -/
theorem updateAll_earlier (single : (updates.map (·.incrId)).Nodup) {sighting : Sighting}
    (member : sighting.conn.incrId ∈ updates.map (·.incrId)) :
    (sighting.updateAll isLowMemory updates).earlier = sighting.versions := by
  induction updates with
  | nil => cases member
  | cons change updates ih =>
    obtain ⟨absent, distinct⟩ := List.nodup_cons.mp single
    rw [updateAll, List.foldl_cons, update]
    rcases eq_or_ne sighting.conn.incrId change.incrId with same | differ
    · -- the other updates do not reach the connection
      rw [if_pos same]
      refine congrArg earlier (updateAll_of_not_mem isLowMemory ?_)
      rw [ConnectionDescriptor.updated_incrId, same]
      exact absent
    · rw [if_neg differ]
      exact ih distinct ((List.mem_cons.mp member).resolve_left differ)

end Sighting

/-- The connections after a call; updates reach those in the window only. -/
def RegisterCall.sight (platform : Platform) (slots : Nat) (log : List Sighting) :
    RegisterCall → List Sighting
  | .newConnections conns => log ++ conns.items.map fun conn => ⟨conn.registered platform, []⟩
  | .connectionsUpdates isLowMemory updates => log.take (log.length - slots) ++
      (log.rtake slots).map (Sighting.updateAll isLowMemory updates.items)

/-- The connections after a sequence of calls. -/
def sightings (platform : Platform) (slots : Nat) (calls : List RegisterCall) : List Sighting :=
  calls.foldl (RegisterCall.sight platform slots) []

theorem RegisterCall.sight_conn (platform : Platform) (slots : Nat) (log : List Sighting)
    (call : RegisterCall) :
    (call.sight platform slots log).map (·.conn) =
      call.record platform slots (log.map (·.conn)) := by
  cases call with
  | newConnections conns =>
    rw [sight, record, List.map_append, List.map_map]
    rfl
  | connectionsUpdates isLowMemory updates =>
    rw [sight, record, List.map_append, Sighting.map_updateAll_conn, List.map_take,
      List.length_map, rtake_map]

theorem sightings_conn (platform : Platform) (slots : Nat) (calls : List RegisterCall) :
    (sightings platform slots calls).map (·.conn) = history platform slots calls := by
  have started : ∀ log : List Sighting,
      (calls.foldl (RegisterCall.sight platform slots) log).map (·.conn) =
        calls.foldl (RegisterCall.record platform slots) (log.map (·.conn)) := by
    induction calls with
    | nil => exact fun _ => rfl
    | cons call calls ih =>
      intro log
      rw [List.foldl_cons, ih, call.sight_conn]
      rfl
  exact started []

/-! ## The positions of an update -/

namespace ConnectionsRegister

variable {window : List ConnectionDescriptor}

theorem mem_changedPositions (consecutive : Consecutive (window.map (·.incrId))) :
    position ∈ changedPositions window updates ↔ ∃ index conn, window[index]? = some conn ∧
      conn.incrId ∈ updates.map (·.incrId) ∧ position = .ofNat index := by
  rw [changedPositions, List.mem_filterMap]
  constructor
  · rintro ⟨change, member, changed⟩
    obtain ⟨index, known, rfl⟩ := Option.map_eq_some_iff.mp changed
    obtain ⟨inside, same, -⟩ := List.findIdx?_eq_some_iff_getElem.mp known
    grind
  · rintro ⟨index, conn, found, member, rfl⟩
    obtain ⟨change, inBatch, same⟩ := List.mem_map.mp member
    have known : (window.map (·.incrId))[index]? = some change.incrId := by
      grind
    exact ⟨change, inBatch, by rw [consecutive.idxOf?_eq known, Option.map_some]⟩

end ConnectionsRegister

/-! ## The calls of the register -/

namespace ConnectionsAdapter

variable {adapter : ConnectionsAdapter} {removed : Nat}

variable (matchesConn : ConnectionDescriptor → Bool)

/-- The adapter follows a batch of new connections. -/
theorem Mirrors.storeCalls (reg : ConnectionsRegister) (slots : Nat) (window : List Item)
    (stored : List ConnectionDescriptor) (mirrors : adapter.Mirrors (shownIds window) removed)
    (nodup : (window.map (·.conn.incrId) ++ stored.map (·.incrId)).Nodup)
    (bound : removed + (shownIds window).length < 2 ^ 32) (small : slots < 2 ^ 31)
    (fits : stored.length ≤ slots) : let rest := window.drop (window.length + stored.length - slots)
    ∃ after gone, (ConnectionsRegister.storeCalls slots (window.map (·.conn)) stored).foldlM
        (handle matchesConn reg) adapter = some after ∧
      after.Mirrors (shownIds rest ++ (stored.filter matchesConn).map (·.incrId)) gone ∧
      gone + (shownIds rest).length = removed + (shownIds window).length := by
  intro rest
  have split : window.take (window.length + stored.length - slots) ++ rest = window :=
    List.take_append_drop _ window
  obtain ⟨middle, gone, removal, mirrored, total⟩ : ∃ middle gone,
      (if 0 < window.length + stored.length - slots then
        [ListenerCall.connectionsRemoved 0 ((window.map (·.conn)).take
          (window.length + stored.length - slots) |>.map some)] else []).foldlM
        (handle matchesConn reg) adapter = some middle ∧
      middle.Mirrors (shownIds rest) gone ∧
      gone + (shownIds rest).length = removed + (shownIds window).length := by
    split
    next some =>
      rw [← split] at mirrors bound
      have distinct := nodup.sublist (List.sublist_append_left _ _)
      rw [← split] at distinct
      obtain ⟨gone, mirrored, total⟩ := mirrors.connectionsRemoved 0 _ rest distinct bound
      rw [split] at total
      refine ⟨_, gone, ?_, mirrored, total⟩
      rw [← List.map_take, List.map_map]
      rfl
    next none =>
      have whole : rest = window := by
        grind
      rw [whole]
      exact ⟨adapter, removed, rfl, mirrors, rfl⟩
  have restLength : rest.length + stored.length ≤ max slots stored.length := by
    change (window.drop _).length + stored.length ≤ _
    rw [List.length_drop]
    omega
  have few := shownIds_length_le rest
  rw [ConnectionsRegister.storeCalls, List.length_map, List.foldlM_append, removal]
  simp only [Option.bind_eq_bind, Option.bind_some]
  split
  next some =>
    refine ⟨_, gone, rfl, mirrored.connectionsAdded matchesConn _ stored ?_ (by omega), total⟩
    refine nodup.sublist (List.Sublist.append_right ?_ _)
    exact (shownIds_sublist rest).trans ((List.drop_sublist _ window).map _)
  next none =>
    obtain rfl := List.length_eq_zero_iff.mp (Nat.eq_zero_of_not_pos none)
    refine ⟨middle, gone, rfl, ?_, total⟩
    grind

/-- The items that stay are those that match after the batch too. -/
theorem filter_unrefuted_shownIds (isLowMemory : Bool) {window : List Sighting}
    {found : List ConnectionDescriptor} (nodup : (window.map (·.conn.incrId)).Nodup)
    (single : (updates.map (·.incrId)).Nodup) (members : ∀ conn, conn ∈ found ↔ ∃ sighting ∈ window,
      sighting.conn.incrId ∈ updates.map (·.incrId) ∧
        (sighting.updateAll isLowMemory updates).conn = conn) :
    (shownIds (window.map (·.item matchesConn))).filter (unrefuted matchesConn found) =
      shownIds (window.map fun sighting =>
        (sighting.updateAll isLowMemory updates).item matchesConn) := by
  simp only [shownIds, List.filter_map, List.map_map, List.filter_filter]
  have verdict : ∀ sighting ∈ window, unrefuted matchesConn found sighting.conn.incrId =
      (!decide (sighting.conn.incrId ∈ updates.map (·.incrId)) ||
        matchesConn (sighting.updateAll isLowMemory updates).conn) := by
    intro sighting inWindow
    rw [Bool.eq_iff_iff, unrefuted, List.all_eq_true]
    simp only [members, Bool.or_eq_true, Bool.not_eq_true', decide_eq_false_iff_not, bne_iff_ne]
    constructor
    · intro all
      by_cases touched : sighting.conn.incrId ∈ updates.map (·.incrId)
      · refine .inr ((all _ ⟨sighting, inWindow, touched, rfl⟩).resolve_left fun differ => ?_)
        exact differ (sighting.updateAll_incrId isLowMemory updates)
      · exact .inl touched
    · rintro matching _ ⟨other, inside, touched, rfl⟩
      rw [other.updateAll_incrId]
      by_cases same : other.conn.incrId = sighting.conn.incrId
      · obtain rfl := List.inj_on_of_nodup_map nodup inside inWindow same
        exact .inr (matching.resolve_left fun absent => absent touched)
      · exact .inl same
  have kept : ∀ sighting ∈ window, (unrefuted matchesConn found sighting.conn.incrId &&
      sighting.versions.all matchesConn) =
        (sighting.updateAll isLowMemory updates).versions.all matchesConn := by
    intro sighting inWindow
    rw [verdict sighting inWindow]
    by_cases touched : sighting.conn.incrId ∈ updates.map (·.incrId)
    · rw [Sighting.versions.eq_def (sighting.updateAll isLowMemory updates),
        Sighting.updateAll_earlier isLowMemory single touched, List.all_cons, decide_eq_true touched,
        Bool.not_true, Bool.false_or]
    · rw [Sighting.updateAll_of_not_mem isLowMemory touched, decide_eq_false touched, Bool.not_false,
        Bool.true_or, Bool.true_and]
  refine (congrArg (List.map _) (List.filter_congr kept)).trans ?_
  exact List.map_congr_left fun sighting _ => (sighting.updateAll_incrId isLowMemory updates).symm

/-- The adapter follows a batch of updates, with a call or without. -/
theorem Mirrors.updateCalls (isLowMemory : Bool) {reg : ConnectionsRegister}
    {window : List Sighting}
    (mirrors : adapter.Mirrors (shownIds (window.map (·.item matchesConn))) removed)
    (lists : reg.Lists 0 (window.map fun sighting =>
      (sighting.updateAll isLowMemory updates).conn))
    (consecutive : Consecutive ((window.map (·.conn)).map (·.incrId)))
    (single : (updates.map (·.incrId)).Nodup)
    (bound : removed + (shownIds (window.map (·.item matchesConn))).length < 2 ^ 32)
    (small : window.length < 2 ^ 31) :
    ∃ after, (ConnectionsRegister.updateCalls (window.map (·.conn)) updates).foldlM
        (handle matchesConn reg) adapter = some after ∧
      after.Mirrors (shownIds (window.map fun sighting =>
        (sighting.updateAll isLowMemory updates).item matchesConn)) removed ∧
      (shownIds (window.map fun sighting =>
        (sighting.updateAll isLowMemory updates).item matchesConn)).length ≤
          (shownIds (window.map (·.item matchesConn))).length := by
  have ids : (window.map fun sighting => (sighting.updateAll isLowMemory updates).conn).map
      (·.incrId) = (window.map (·.conn)).map (·.incrId) := by
    rw [List.map_map, List.map_map]
    exact List.map_congr_left fun sighting _ => sighting.updateAll_incrId isLowMemory updates
  have increasing := consecutive.pairwise_lt
  have nodup := consecutive.nodup
  have inside := shownIds_sublist (window.map (·.item matchesConn))
  have few := shownIds_length_le (window.map (·.item matchesConn))
  rw [List.map_map] at increasing nodup inside
  rw [List.length_map] at few
  have positions := @ConnectionsRegister.mem_changedPositions updates
  obtain ⟨after, found, updated, members, mirrored⟩ := mirrors.connectionsUpdated matchesConn lists
    (fun pos member => by
      obtain ⟨index, conn, place, -, is⟩ := (positions consecutive).mp member
      have below := (List.getElem?_eq_some_iff.mp place).1
      rw [List.length_map] at below ⊢
      exact ⟨index, below, is⟩)
    (increasing.sublist inside) (ids ▸ consecutive.pairwise_lt) bound (by omega)
    (by rw [List.length_map]; omega)
  have stay := filter_unrefuted_shownIds matchesConn isLowMemory nodup single fun conn => by
    rw [members]
    simp only [positions consecutive, List.getElem?_map, Option.map_eq_some_iff]
    constructor
    · rintro ⟨index, ⟨other, _, ⟨sighting, place, rfl⟩, touched, same⟩, _, there, rfl⟩
      have below := (List.getElem?_eq_some_iff.mp place).1
      have belowAgain := (List.getElem?_eq_some_iff.mp there).1
      have is : IsNat (Int32.ofNat index) index := .ofNat (by omega)
      rw [same] at is
      obtain rfl := is.unique (.ofNat (by omega))
      obtain rfl := Option.some.inj (place.symm.trans there)
      exact ⟨sighting, List.mem_of_getElem? place, touched, rfl⟩
    · rintro ⟨sighting, member, touched, rfl⟩
      obtain ⟨index, place⟩ := List.mem_iff_getElem?.mp member
      exact ⟨index, ⟨index, _, ⟨sighting, place, rfl⟩, touched, rfl⟩, sighting, place, rfl⟩
  have fewer := List.length_filter_le (unrefuted matchesConn found)
    (shownIds (window.map (·.item matchesConn)))
  rw [stay] at mirrored fewer
  refine ⟨after, ?_, mirrored, fewer⟩
  rw [ConnectionsRegister.updateCalls]
  split
  next silent =>
    -- without positions the call would have changed nothing
    rw [silent, ConnectionsAdapter.connectionsUpdated, if_neg mirrors.notNone,
      List.mergeSort_nil] at updated
    exact updated
  next =>
    rw [List.foldlM_cons, handle, updated]
    rfl

end ConnectionsAdapter

/-! ## Every sequence of calls -/

/-- The register follows the calls, and the adapter shows the connections that always matched. -/
structure Listening.Views (matchesConn : ConnectionDescriptor → Bool) (slots : Nat)
    (log : List Sighting) (listening : Listening) : Prop where
  follows : listening.reg.Follows slots (log.map (·.conn))
  mirrors : ∃ removed,
    listening.adapter.Mirrors (shownIds ((log.rtake slots).map (·.item matchesConn))) removed ∧
    removed + (shownIds ((log.rtake slots).map (·.item matchesConn))).length ≤ log.length

namespace Listening

variable {matchesConn : ConnectionDescriptor → Bool} {slots : Nat} {log : List Sighting}
  {listening : Listening}

theorem start_views (matchesConn : ConnectionDescriptor → Bool) {size : Int32} {slots : Nat}
    (is : IsNat size slots) :
    ∃ start, startListening matchesConn true size = some start ∧
      start.Views matchesConn slots [] := by
  refine ⟨_, rfl, .new is, 0, ⟨⟨?_, rfl, ?_, fun _ => rfl⟩, ?_⟩, ?_⟩
  all_goals rw [rtake_of_length_le (Nat.zero_le slots)]
  · rfl
  · exact Stores.nil
  · rfl
  · exact Nat.le_refl 0

section

variable (views : listening.Views matchesConn slots log)
include views

theorem Views.newConnections (platform : Platform) (conns : JavaArray ConnectionDescriptor)
    (small : slots ≤ 2 ^ 30) (bound : log.length < 2 ^ 32)
    (consecutive : Consecutive ((log.map (·.conn)).map (·.incrId) ++ conns.items.map (·.incrId))) :
    ∃ after, listening.perform platform matchesConn (.newConnections conns) = some after ∧
      after.Views matchesConn slots
        (RegisterCall.sight platform slots log (.newConnections conns)) := by
  obtain ⟨follows, removed, mirrors, count⟩ := views
  obtain ⟨reg, performed, followed⟩ := follows.newConnections (by omega) platform conns
  generalize newIs : (conns.items.map fun conn =>
    (⟨conn.registered platform, []⟩ : Sighting)) = new
  have newConn : conns.items.map (·.registered platform) = new.map (·.conn) := by
    rw [← newIs, List.map_map]
    rfl
  have newIds : (new.map (·.conn)).map (·.incrId) = conns.items.map (·.incrId) := by
    rw [← newConn, List.map_map]
    rfl
  have matching : shownIds ((new.rtake slots).map (·.item matchesConn)) =
      (((new.map (·.conn)).rtake slots).filter matchesConn).map (·.incrId) := by
    have fresh : ∀ sighting ∈ new.rtake slots,
        (sighting.item matchesConn).shown = matchesConn sighting.conn := by
      intro sighting member
      have inBatch := List.mem_of_mem_drop member
      rw [← newIs] at inBatch
      obtain ⟨conn, -, rfl⟩ := List.mem_map.mp inBatch
      exact Bool.and_true _
    rw [rtake_map]
    simp only [shownIds, List.filter_map, List.map_map]
    exact congrArg (List.map _) (List.filter_congr fresh)
  have nodup : (((log.rtake slots).map (·.item matchesConn)).map (·.conn.incrId) ++
      ((new.map (·.conn)).rtake slots).map (·.incrId)).Nodup := by
    have all := consecutive.nodup
    rw [← newIds, List.map_map] at all
    refine all.sublist (List.Sublist.append ?_ ((List.drop_sublist _ _).map _))
    rw [List.map_map]
    exact (List.drop_sublist _ log).map _
  have windowConn : ((log.rtake slots).map (·.item matchesConn)).map (·.conn) =
      (log.map (·.conn)).rtake slots := by
    rw [rtake_map, List.map_map]
    rfl
  obtain ⟨adapter, gone, handled, mirrored, total⟩ := mirrors.storeCalls matchesConn reg slots
    ((log.rtake slots).map (·.item matchesConn)) ((new.map (·.conn)).rtake slots) nodup (by omega)
    (by omega) (by rw [length_rtake]; exact Nat.min_le_right _ _)
  have window : ((log ++ new).rtake slots).map (·.item matchesConn) =
      ((log.rtake slots).map (·.item matchesConn)).drop
        (((log.rtake slots).map (·.item matchesConn)).length +
          ((new.map (·.conn)).rtake slots).length - slots) ++
        (new.rtake slots).map (·.item matchesConn) := by
    rw [rtake_append, List.map_append, List.map_drop, List.length_map, rtake_map, List.length_map]
  rw [windowConn] at handled
  rw [newConn] at performed followed
  refine ⟨⟨reg, adapter⟩, ?_, ?_, gone, ?_⟩
  · simp only [Listening.perform, RegisterCall.perform, performed, Option.bind_eq_bind,
      Option.bind_some, handled]
  · rw [RegisterCall.sight, newIs, List.map_append]
    exact followed
  · rw [RegisterCall.sight, newIs, window, shownIds_append, matching]
    refine ⟨mirrored, ?_⟩
    have few := List.length_filter_le matchesConn ((new.map (·.conn)).rtake slots)
    rw [length_rtake, List.length_map] at few
    have added : ((((new.map (·.conn)).rtake slots).filter matchesConn).map (·.incrId)).length =
        (((new.map (·.conn)).rtake slots).filter matchesConn).length := List.length_map _
    rw [List.length_append, List.length_append]
    omega

theorem Views.connectionsUpdates (platform : Platform) (isLowMemory : Bool)
    (updates : JavaArray ConnectionUpdate) (small : slots ≤ 2 ^ 30) (bound : log.length < 2 ^ 32)
    (consecutive : Consecutive ((log.map (·.conn)).map (·.incrId)))
    (single : (updates.items.map (·.incrId)).Nodup) :
    ∃ after, listening.perform platform matchesConn (.connectionsUpdates isLowMemory updates) =
        some after ∧
      after.Views matchesConn slots
        (RegisterCall.sight platform slots log (.connectionsUpdates isLowMemory updates)) := by
  obtain ⟨follows, removed, mirrors, count⟩ := views
  have inWindow := consecutive_window slots consecutive
  obtain ⟨reg, performed, followed⟩ :=
    follows.connectionsUpdates small inWindow platform isLowMemory updates
  rw [← RegisterCall.sight_conn] at followed
  have logLength := congrArg List.length
    (RegisterCall.record_incrIds platform slots (log.map (·.conn))
      (.connectionsUpdates isLowMemory updates))
  rw [← RegisterCall.sight_conn] at logLength
  simp only [List.length_map, List.length_append, delivered, List.flatMap_cons, List.flatMap_nil,
    List.length_nil, Nat.add_zero] at logLength
  have window : (RegisterCall.sight platform slots log
      (.connectionsUpdates isLowMemory updates)).rtake slots =
        (log.rtake slots).map (Sighting.updateAll isLowMemory updates.items) := by
    rw [RegisterCall.sight]
    exact rtake_take_append (List.length_map _)
  have few := length_rtake log slots
  have tracks := followed.tracks
  rw [rtake_map, window] at tracks
  rw [rtake_map] at inWindow performed
  have lists := tracks.lists (followed.ringSize ▸ small)
  rw [List.map_map] at lists
  obtain ⟨adapter, handled, mirrored, shrinks⟩ := mirrors.updateCalls matchesConn isLowMemory lists
    inWindow single (by omega) (by omega)
  refine ⟨⟨reg, adapter⟩, ?_, followed, removed, ?_⟩
  · simp only [Listening.perform, RegisterCall.perform, performed, Option.bind_eq_bind,
      Option.bind_some, handled]
  · rw [window, List.map_map, logLength]
    exact ⟨mirrored, Nat.le_trans (Nat.add_le_add_left shrinks removed) count⟩

end

/-- The identifiers after a call. -/
theorem sight_incrIds (platform : Platform) (slots : Nat) (log : List Sighting)
    (call : RegisterCall) :
    ((call.sight platform slots log).map (·.conn)).map (·.incrId) =
      (log.map (·.conn)).map (·.incrId) ++ (delivered [call]).map (·.incrId) := by
  rw [RegisterCall.sight_conn, RegisterCall.record_incrIds]

/-- At most one update for each connection in a batch. -/
def SingleUpdates (calls : List RegisterCall) : Prop :=
  ∀ isLowMemory updates, .connectionsUpdates isLowMemory updates ∈ calls →
    (updates.items.map (·.incrId)).Nodup

variable (views : listening.Views matchesConn slots log)
include views

theorem Views.perform (platform : Platform) (small : slots ≤ 2 ^ 30) (bound : log.length < 2 ^ 32)
    (call : RegisterCall) (single : SingleUpdates [call])
    (consecutive : Consecutive ((log.map (·.conn)).map (·.incrId) ++
      (delivered [call]).map (·.incrId))) :
    ∃ after, listening.perform platform matchesConn call = some after ∧
      after.Views matchesConn slots (call.sight platform slots log) := by
  cases call with
  | newConnections conns =>
    simp only [delivered, List.flatMap_cons, List.flatMap_nil, List.append_nil] at consecutive
    exact views.newConnections platform conns small bound consecutive
  | connectionsUpdates isLowMemory updates =>
    exact views.connectionsUpdates platform isLowMemory updates small bound
      (List.IsChain.left_of_append consecutive) (single _ _ List.mem_cons_self)

theorem Views.performAll (platform : Platform) (small : slots ≤ 2 ^ 30) (calls : List RegisterCall)
    (single : SingleUpdates calls) (bound : log.length + (delivered calls).length < 2 ^ 32)
    (consecutive : Consecutive ((log.map (·.conn)).map (·.incrId) ++
      (delivered calls).map (·.incrId))) :
    ∃ after, listening.performAll platform matchesConn calls = some after ∧
      after.Views matchesConn slots (calls.foldl (RegisterCall.sight platform slots) log) := by
  induction calls generalizing listening log with
  | nil => exact ⟨listening, rfl, views⟩
  | cons call calls ih =>
    have ids := sight_incrIds platform slots log call
    rw [delivered_cons, List.map_append, ← List.append_assoc] at consecutive
    rw [delivered_cons, List.length_append] at bound
    obtain ⟨middle, performed, viewed⟩ := views.perform platform small (by omega) call
      (fun isLowMemory updates member =>
        single isLowMemory updates (List.mem_singleton.mp member ▸ List.mem_cons_self))
      (List.IsChain.left_of_append consecutive)
    rw [← ids] at consecutive
    have count := congrArg List.length ids
    simp only [List.length_map, List.length_append] at count
    obtain ⟨after, others, final⟩ := ih viewed
      (fun isLowMemory updates member =>
        single isLowMemory updates (List.mem_cons_of_mem call member))
      (by omega) consecutive
    refine ⟨after, ?_, final⟩
    simp only [Listening.performAll, List.foldlM_cons, performed, Option.bind_eq_bind,
      Option.bind_some]
    exact others

end Listening

/-- Whatever calls are made, the view holds the connections of the register that matched when
they were added and after each update, in their order; it knows the positions of its items and
of nothing else; and an observer that replays the notifications has the view after each of
them. -/
theorem filtered_view_follows_register (platform : Platform) (mask : Mask)
    (selection : Selection) (set : selection.hasFilter mask = true) (size : Int32)
    (nonneg : 0 ≤ size) (small : size ≤ 0x40000000) (calls : List RegisterCall)
    (consecutive : Consecutive ((delivered calls).map (·.incrId)))
    (bound : (delivered calls).length < 2 ^ 32) (single : Listening.SingleUpdates calls) :
    let matchesConn := selection.matchesConn platform mask
    let slots := size.toNatClampNeg
    let window := (sightings platform slots calls).rtake slots
    let view := (window.filter fun sighting => sighting.versions.all matchesConn).map
      (·.conn.incrId)
    (sightings platform slots calls).map (·.conn) = history platform slots calls ∧
    ∃ start final, startListening matchesConn (selection.hasFilter mask) size = some start ∧
      start.performAll platform matchesConn calls = some final ∧
      (∀ incrId, final.reg.getConnById incrId =
        some ((window.map (·.conn)).find? fun conn => conn.incrId = incrId)) ∧
      final.adapter.filteredConn = some view ∧
      view.Pairwise (· < ·) ∧
      (∀ incrId pos, final.adapter.idToFilteredPos incrId = some pos ↔
        ∃ index, view[index]? = some incrId ∧
          pos - final.adapter.numRemovedItems = .ofNat index) ∧
      replayAll [] final.adapter.notified = some view := by
  intro matchesConn slots window view
  have is : IsNat size slots := .of_nonneg fun negative =>
    Int32.lt_irrefl (Int32.lt_of_lt_of_le negative nonneg)
  have few : slots ≤ 2 ^ 30 := (is.le_iff
    (by decide : (0x40000000 : Int32).toInt = (2 ^ 30 : Nat))).mp small
  rw [set]
  obtain ⟨start, started, viewed⟩ := Listening.start_views matchesConn is
  obtain ⟨final, performed, follows, removed, ⟨indexed, replayed⟩, -⟩ :=
    viewed.performAll platform few calls single (by rw [List.length_nil]; omega) consecutive
  change final.reg.Follows slots ((sightings platform slots calls).map (·.conn)) at follows
  have shown : shownIds (window.map (·.item matchesConn)) = view := by
    rw [shownIds, List.filter_map, List.map_map]
    rfl
  change final.adapter.Indexed (shownIds (window.map (·.item matchesConn))) removed at indexed
  change replayAll [] final.adapter.notified =
    some (shownIds (window.map (·.item matchesConn))) at replayed
  rw [shown] at indexed replayed
  have conns := sightings_conn platform slots calls
  obtain ⟨-, -, -, ids⟩ := performCalls_follows (ConnectionsRegister.Follows.new is) few platform
    calls consecutive
  have inWindow : Consecutive ((window.map (·.conn)).map (·.incrId)) := by
    rw [← rtake_map, ← rtake_map, conns]
    change Consecutive (((calls.foldl (RegisterCall.record platform slots) []).map _).rtake slots)
    rw [ids]
    exact List.IsChain.drop consecutive _
  have tracks := follows.tracks
  rw [rtake_map] at tracks
  refine ⟨conns, start, final, started, performed,
    tracks.getConnById_eq (by rw [follows.ringSize]; exact few) inWindow, indexed.filtered, ?_,
    fun incrId pos => ⟨fun stored => ?_, ?_⟩, replayed⟩
  · have increase := inWindow.pairwise_lt
    rw [List.map_map] at increase
    exact increase.sublist (List.filter_sublist.map _)
  · -- an identifier with a position is in the view
    have member : incrId ∈ view := by
      by_contra absent
      rw [indexed.others absent] at stored
      cases stored
    obtain ⟨index, found⟩ := List.mem_iff_getElem?.mp member
    have known := indexed.stores index incrId found
    rw [stored] at known
    obtain rfl := Option.some.inj known
    refine ⟨index, found, ?_⟩
    rw [indexed.numRemoved, Int32.ofNat_add, Int32.add_sub_cancel]
  · rintro ⟨index, found, position⟩
    rw [indexed.stores index incrId found, Int32.ofNat_add, ← position, indexed.numRemoved,
      Int32.sub_add_cancel]

/-- The connections of one app, with no other condition. -/
def ofApp (uid : Int32) : Selection := ⟨{ FilterDescriptor.new with uid := uid }, none⟩

/-- A mask that hides nothing. -/
def noMask : Mask := ⟨true, fun _ => false⟩

/-- Of four connections in a register for three, the two of the app that are left are shown. -/
theorem filtered_view_of_app :
    ∃ start final, startListening ((ofApp 7).matchesConn bare noMask) true 3 = some start ∧
      start.performAll bare ((ofApp 7).matchesConn bare noMask)
        [.newConnections ⟨[.new 0 "" 0 0 7 0 false 0, .new 1 "" 0 0 7 0 false 0,
            .new 2 "" 0 0 8 0 false 0, .new 3 "" 0 0 7 0 false 0], by decide⟩,
          .connectionsUpdates false ⟨[.new 3, .new 0, .new 2], by decide⟩] = some final ∧
      final.adapter.filteredConn = some [1, 3] := by
  obtain ⟨-, start, final, started, performed, -, filtered, -⟩ :=
    filtered_view_follows_register bare noMask (ofApp 7) rfl 3 (by decide) (by decide)
      [.newConnections ⟨[.new 0 "" 0 0 7 0 false 0, .new 1 "" 0 0 7 0 false 0,
          .new 2 "" 0 0 8 0 false 0, .new 3 "" 0 0 7 0 false 0], by decide⟩,
        .connectionsUpdates false ⟨[.new 3, .new 0, .new 2], by decide⟩]
      (.cons_cons (by decide) (.cons_cons (by decide) (.cons_cons (by decide) (.singleton 3))))
      (by decide)
      (fun isLowMemory updates member => by
        rcases List.mem_cons.mp member with same | later
        · cases same
        · rw [List.mem_singleton] at later
          cases later
          decide)
  exact ⟨start, final, started, performed, filtered⟩

/-- With too many slots the first update throws, and the view cannot follow. -/
theorem filtered_view_lost_in_oversized_register :
    ∃ conns : JavaArray ConnectionDescriptor, Consecutive (conns.items.map (·.incrId)) ∧
      ∃ start, startListening ((ofApp 0).matchesConn bare noMask)
          ((ofApp 0).hasFilter noMask) 0x40000001 = some start ∧
        start.performAll bare ((ofApp 0).matchesConn bare noMask)
          [.newConnections conns, .connectionsUpdates false ⟨[.new 0], by decide⟩] = none := by
  obtain ⟨conns, consecutive, -, -, reg, calls, stored, cur, behind⟩ := oversized_lastPos
  refine ⟨conns, consecutive, _, rfl, ?_⟩
  have notEmpty : ¬reg.curItems = 0 := by
    rw [cur]
    decide
  have throws : reg.connectionsUpdates false ⟨[.new 0], by decide⟩ = none := by
    simp only [ConnectionsRegister.connectionsUpdates, if_neg notEmpty, loadAt_of_neg behind,
      Option.join_none, Option.bind_eq_bind, Option.bind_none, Option.bind_fun_none]
  have first : ∀ adapter, (Listening.mk (ConnectionsRegister.new 0x40000001) adapter).performAll
      bare ((ofApp 0).matchesConn bare noMask)
      [.newConnections conns, .connectionsUpdates false ⟨[.new 0], by decide⟩] = none := by
    intro adapter
    simp only [Listening.performAll, List.foldlM_cons, List.foldlM_nil, Listening.perform,
      RegisterCall.perform, stored, Option.bind_eq_bind, Option.bind_some]
    rw [Option.bind_assoc]
    simp only [Option.bind_some, throws, Option.bind_none, Option.bind_fun_none]
  exact first _

end PcapdroidFormal.Register
