import PcapdroidFormal.Register.Posted

/-!
# Posting calls

While calls are on their way, an item of the view may not match any more; it will
then be visited by one of these calls.  The invariant of the two threads says so,
and the capture thread keeps it: its updates are followed by a call, and the
positions of earlier calls stay right unless it drops the oldest connections.
-/

namespace PcapdroidFormal.Register

open Foundation
open ConnectionsAdapter

variable {stored : List ConnectionDescriptor} {pos : Int32} {calls : List ListenerCall}
  {count : Nat} {queue : List ListenerCall} {slots : Nat}

/-! ## Positions that are still to be read -/

/-- The positions that the calls have still to read; the first call has read some. -/
def unreadPositions (count : Nat) : List ListenerCall → List Int32
  | .connectionsUpdated positions :: queue =>
    (visitOrder positions).drop count ++ queue.flatMap (·.positions)
  | queue => queue.flatMap (·.positions)

theorem mem_unread_zero : pos ∈ unreadPositions 0 queue ↔ pos ∈ queue.flatMap (·.positions) := by
  unfold unreadPositions
  split
  next positions queue =>
    rw [List.drop_zero, List.mem_append, mem_visitOrder, List.flatMap_cons, List.mem_append]
    rfl
  next => rfl

theorem mem_positions_of_unread (member : pos ∈ unreadPositions count queue) :
    pos ∈ queue.flatMap (·.positions) := by
  unfold unreadPositions at member
  split at member
  next positions queue =>
    rw [List.flatMap_cons, List.mem_append]
    rcases List.mem_append.mp member with first | later
    · exact .inl (mem_visitOrder.mp (List.mem_of_mem_drop first))
    · exact .inr later
  next => exact member

/-- Calls that are posted later leave more to read. -/
theorem mem_unread_append (more : List ListenerCall) (member : pos ∈ unreadPositions count queue) :
    pos ∈ unreadPositions count (queue ++ more) := by
  cases queue with
  | nil => cases member
  | cons call queue =>
    cases call with
    | connectionsUpdated positions =>
      rw [List.cons_append, unreadPositions, List.flatMap_append, ← List.append_assoc]
      exact List.mem_append_left _ member
    | connectionsRemoved | connectionsAdded =>
      rw [List.cons_append, unreadPositions, ← List.cons_append, List.flatMap_append]
      · exact List.mem_append_left _ member
      · nofun

/-- What is posted has to be read. -/
theorem mem_unread_of_posted {queue more : List ListenerCall}
    (idle : queue = [] → count = 0) (member : pos ∈ more.flatMap (·.positions)) :
    pos ∈ unreadPositions count (queue ++ more) := by
  cases queue with
  | nil =>
    rw [idle rfl, List.nil_append]
    exact mem_unread_zero.mpr member
  | cons call queue =>
    have later : pos ∈ (queue ++ more).flatMap (·.positions) := by
      grind
    cases call with
    | connectionsUpdated positions => exact List.mem_append_right _ later
    | connectionsRemoved start conns => exact later
    | connectionsAdded start conns => exact later

/-! ## What holds of the items of the view -/

/-- A connection matches now, or it will be visited. -/
def Covered (matchesConn : ConnectionDescriptor → Bool)
    (objects : Int32 → Option ConnectionDescriptor) (ids unread : List Int32) (id : Int32) : Prop :=
  (∃ conn, objects id = some conn ∧ matchesConn conn = true) ∨
    ∃ index : Nat, Int32.ofNat index ∈ unread ∧ ids[index]? = some id

def refutedIds (matchesConn : ConnectionDescriptor → Bool)
    (found : List (Option ConnectionDescriptor)) : List ListenerCall → List Int32
  | .connectionsUpdated _ :: _ =>
    ((found.filterMap id).filter fun conn => !matchesConn conn).map (·.incrId)
  | _ => []

def Reading (matchesConn : ConnectionDescriptor → Bool)
    (objects : Int32 → Option ConnectionDescriptor) (ids : List Int32)
    (found : List (Option ConnectionDescriptor)) : List ListenerCall → Prop
  | .connectionsAdded start conns :: queue => ∃ contents : List ConnectionDescriptor,
      found = contents.map some ∧
      contents.map (·.incrId) = (conns.map (·.incrId)).take contents.length ∧
      ∀ conn ∈ contents, matchesConn conn = true →
        Covered matchesConn objects ids
          (unreadPositions found.length (.connectionsAdded start conns :: queue)) conn.incrId
  | .connectionsUpdated positions :: _ => ∃ contents : List ConnectionDescriptor,
      found = contents.map some ∧
      List.Forall₂ (fun pos conn => ∃ index : Nat, pos = .ofNat index ∧
        ids[index]? = some conn.incrId) ((visitOrder positions).take contents.length) contents
  | _ => found = []

theorem Reading.nothing (matchesConn : ConnectionDescriptor → Bool)
    (objects : Int32 → Option ConnectionDescriptor) (ids : List Int32)
    (queue : List ListenerCall) : Reading matchesConn objects ids [] queue := by
  cases queue with
  | nil => rfl
  | cons call queue =>
    cases call with
    | connectionsRemoved start conns => rfl
    | connectionsAdded start conns => exact ⟨[], rfl, rfl, List.forall_mem_nil _⟩
    | connectionsUpdated positions => exact ⟨[], rfl, .nil⟩

/-! ## The state of the two threads -/

/-- The register, the contents of the connections and the calls that were posted, when the
adapter knows some of the connections. -/
structure Posted (slots : Nat) (log : List ConnectionDescriptor) (known : List Int32)
    (reg : ConnectionsRegister) (objects : Int32 → Option ConnectionDescriptor)
    (queue : List ListenerCall) : Prop where
  follows : reg.Follows slots log
  consecutive : Consecutive (log.map (·.incrId))
  contents : ∀ conn ∈ log.rtake slots, objects conn.incrId = some conn
  named : ∀ id conn, objects id = some conn → conn.incrId = id ∧ id ∈ log.map (·.incrId)
  stored : ∀ conn ∈ queue.flatMap (·.added), ∃ contents, objects conn.incrId = some contents
  delivers : Delivers slots known queue ((log.rtake slots).map (·.incrId))
  calm : queue.Pairwise fun earlier later => earlier.isUpdate = true → later.isRemoval = false
  valid : ∀ pos ∈ queue.flatMap (·.positions),
    ∃ index, index < (log.rtake slots).length ∧ pos = .ofNat index
  ordered : (known ++ (queue.flatMap (·.added)).map (·.incrId)).Sublist (log.map (·.incrId))

/-- The view of the adapter. -/
structure Viewed (matchesConn : ConnectionDescriptor → Bool)
    (objects : Int32 → Option ConnectionDescriptor) (ids : List Int32) (total : Nat)
    (known : List Int32) (found : List (Option ConnectionDescriptor)) (queue : List ListenerCall)
    (adapter : ConnectionsAdapter) (view : List Int32) (removed : Nat) : Prop where
  mirrors : adapter.Mirrors view removed
  known : view.Sublist known
  bound : removed + view.length + (queue.flatMap (·.added)).length ≤ total
  covered : ∀ id ∈ view, Covered matchesConn objects ids (unreadPositions found.length queue) id ∨
    id ∈ refutedIds matchesConn found queue

/-- What holds in each state. -/
structure Consistent (platform : Platform) (slots : Nat) (log : List ConnectionDescriptor)
    (known : List Int32) (delivery : Delivery) : Prop where
  posted : Posted slots log known delivery.reg delivery.objects delivery.queue
  counted : delivery.adapter.unfilteredItemsCount = .ofNat known.length
  reading : Reading (delivery.matchesConn platform) delivery.objects
    ((log.rtake slots).map (·.incrId)) delivery.found delivery.queue
  filtered : delivery.hasFilter = true → ∃ view removed,
    Viewed (delivery.matchesConn platform) delivery.objects ((log.rtake slots).map (·.incrId))
      log.length known delivery.found delivery.queue delivery.adapter view removed
  unfiltered : delivery.hasFilter = false → delivery.adapter.filteredConn = none

/-! ## Posting calls -/

theorem exists_update_of_position (member : pos ∈ queue.flatMap (·.positions)) :
    ∃ call ∈ queue, call.isUpdate = true := by
  obtain ⟨call, inQueue, here⟩ := List.mem_flatMap.mp member
  refine ⟨call, inQueue, ?_⟩
  cases call with
  | connectionsUpdated positions => rfl
  | connectionsRemoved start conns => cases here
  | connectionsAdded start conns => cases here

section Posting

variable {matchesConn : ConnectionDescriptor → Bool}
  {objects objectsAfter : Int32 → Option ConnectionDescriptor} {ids idsAfter : List Int32}
  {found : List (Option ConnectionDescriptor)} {queue more : List ListenerCall}

theorem Reading.found_eq_nil (reading : Reading matchesConn objects ids found []) :
    found = [] := reading

/-- A connection that was covered still is, when its contents are kept and its position too. -/
theorem Covered.post {id : Int32}
    (covered : Covered matchesConn objects ids (unreadPositions found.length queue) id)
    (kept : ∀ conn, objects id = some conn → objectsAfter id = some conn)
    (stays : ∀ call ∈ queue, call.isUpdate = true → ids <+: idsAfter) :
    Covered matchesConn objectsAfter idsAfter
      (unreadPositions found.length (queue ++ more)) id := by
  rcases covered with ⟨conn, here, matching⟩ | ⟨index, unread, place⟩
  · exact .inl ⟨conn, kept conn here, matching⟩
  · obtain ⟨call, inQueue, update⟩ := exists_update_of_position (mem_positions_of_unread unread)
    obtain ⟨others, rfl⟩ := stays call inQueue update
    refine .inr ⟨index, mem_unread_append more unread, ?_⟩
    grind

theorem Reading.post (reading : Reading matchesConn objects ids found queue)
    (keeps : ∀ id, Covered matchesConn objects ids (unreadPositions found.length queue) id →
      Covered matchesConn objectsAfter idsAfter (unreadPositions found.length (queue ++ more)) id)
    (stays : ∀ call ∈ queue, call.isUpdate = true → ids <+: idsAfter) :
    Reading matchesConn objectsAfter idsAfter found (queue ++ more) := by
  cases queue with
  | nil =>
    obtain rfl := reading.found_eq_nil
    exact .nothing _ _ _ _
  | cons call queue =>
    cases call with
    | connectionsRemoved start conns => exact reading
    | connectionsAdded start conns =>
      obtain ⟨contents, read, order, covered⟩ := reading
      exact ⟨contents, read, order, fun conn member matching =>
        keeps _ (covered conn member matching)⟩
    | connectionsUpdated positions =>
      obtain ⟨contents, read, places⟩ := reading
      obtain ⟨others, rfl⟩ := stays _ List.mem_cons_self rfl
      refine ⟨contents, read, places.imp fun pos conn ⟨index, here, place⟩ =>
        ⟨index, here, ?_⟩⟩
      grind

theorem refutedIds_append {id : Int32} (refuted : id ∈ refutedIds matchesConn found queue) :
    id ∈ refutedIds matchesConn found (queue ++ more) := by
  cases queue with
  | nil => cases refuted
  | cons call queue =>
    cases call with
    | connectionsRemoved start conns => cases refuted
    | connectionsAdded start conns => cases refuted
    | connectionsUpdated positions => exact refuted

theorem Viewed.post {total totalAfter : Nat} {known view : List Int32}
    {adapter : ConnectionsAdapter} {removed : Nat}
    (viewed : Viewed matchesConn objects ids total known found queue adapter view removed)
    (keeps : ∀ id, Covered matchesConn objects ids (unreadPositions found.length queue) id →
      Covered matchesConn objectsAfter idsAfter (unreadPositions found.length (queue ++ more)) id)
    (room : total + (more.flatMap (·.added)).length ≤ totalAfter) :
    Viewed matchesConn objectsAfter idsAfter totalAfter known found (queue ++ more) adapter view
      removed := by
  refine ⟨viewed.mirrors, viewed.known, ?_, fun id member => ?_⟩
  · have bound := viewed.bound
    grind
  · rcases viewed.covered id member with covered | refuted
    · exact .inl (keeps id covered)
    · exact .inr (refutedIds_append refuted)

end Posting

/-! ## New connections -/

theorem ConnectionsRegister.Follows.share_eq {reg : ConnectionsRegister}
    {log : List ConnectionDescriptor} (follows : reg.Follows slots log) (small : slots ≤ 2 ^ 30)
    (objects : Int32 → Option ConnectionDescriptor) :
    reg.share objects = (log.rtake slots).foldl putContents objects :=
  ConnectionsRegister.share_eq (follows.tracks.lists (follows.ringSize ▸ small))
    follows.tracks.curItems objects

/-- The calls for new connections. -/
theorem Delivers.storeCalls {window stored : List ConnectionDescriptor}
    (fits : stored.length ≤ slots) :
    Delivers slots (window.map (·.incrId)) (ConnectionsRegister.storeCalls slots window stored)
      ((window.drop (window.length + stored.length - slots) ++ stored).map (·.incrId)) := by
  have addition : Delivers slots
      ((window.drop (window.length + stored.length - slots)).map (·.incrId))
      (if 0 < stored.length then [.connectionsAdded (.ofNat (window.length -
        (window.length + stored.length - slots))) stored] else [])
      ((window.drop (window.length + stored.length - slots) ++ stored).map (·.incrId)) := by
    rw [List.map_append]
    split
    next =>
      refine .added ?_ (.done _)
      grind
    next none =>
      obtain rfl := List.length_eq_zero_iff.mp (Nat.eq_zero_of_not_pos none)
      rw [List.map_nil, List.append_nil]
      exact .done _
  rw [ConnectionsRegister.storeCalls]
  split
  next =>
    have split : window.map (·.incrId) =
        (window.take (window.length + stored.length - slots)).map (·.incrId) ++
          (window.drop (window.length + stored.length - slots)).map (·.incrId) := by
      simp
    rw [split]
    exact .removed addition
  next => grind

theorem storeCalls_added (slots : Nat) (window stored : List ConnectionDescriptor) :
    (ConnectionsRegister.storeCalls slots window stored).flatMap (·.added) = stored := by
  have addition : (if 0 < stored.length then [ListenerCall.connectionsAdded (.ofNat
      (window.length - (window.length + stored.length - slots))) stored] else []).flatMap
        (·.added) = stored := by
    split
    next => exact List.append_nil stored
    next => grind
  rw [ConnectionsRegister.storeCalls, List.flatMap_append, addition]
  split
  next => rfl
  next => rfl

theorem storeCalls_not_update {window : List ConnectionDescriptor} :
    ∀ call ∈ ConnectionsRegister.storeCalls slots window stored, call.isUpdate = false := by
  intro call member
  rw [ConnectionsRegister.storeCalls, List.mem_append] at member
  rcases member with first | second
  · split at first
    next => exact (List.mem_singleton.mp first) ▸ rfl
    next => cases first
  · split at second
    next => exact (List.mem_singleton.mp second) ▸ rfl
    next => cases second

theorem storeCalls_not_removal {window : List ConnectionDescriptor}
    (room : window.length + stored.length ≤ slots) :
    ∀ call ∈ ConnectionsRegister.storeCalls slots window stored, call.isRemoval = false := by
  intro call member
  rw [ConnectionsRegister.storeCalls, List.mem_append] at member
  rcases member with first | second
  · grind
  · split at second
    next => exact (List.mem_singleton.mp second) ▸ rfl
    next => cases second

theorem not_mem_positions (none : ∀ call ∈ calls, call.isUpdate = false) :
    pos ∉ calls.flatMap (·.positions) := by
  intro member
  obtain ⟨call, inCalls, update⟩ := exists_update_of_position member
  grind

section Steps

variable {slots : Nat} {log : List ConnectionDescriptor} {known : List Int32}
  {reg : ConnectionsRegister} {objects : Int32 → Option ConnectionDescriptor}
  {queue : List ListenerCall} {conn : ConnectionDescriptor}

section

variable (posted : Posted slots log known reg objects queue)
include posted

theorem Posted.nodup : ((log.rtake slots).map (·.incrId)).Nodup :=
  posted.consecutive.nodup.sublist ((List.drop_sublist _ _).map _)

/-- The contents of connections that arrived earlier stay as they are. -/
theorem Posted.kept_of_new {new : List ConnectionDescriptor}
    (distinct : ((log ++ new).map (·.incrId)).Nodup) {id : Int32} (here : objects id = some conn) :
    ((log ++ new).rtake slots).foldl putContents objects id = some conn := by
  have inside : (((log ++ new).rtake slots).map (·.incrId)).Nodup :=
    distinct.sublist ((List.drop_sublist _ _).map _)
  apply putAll_kept inside here
  rintro other inWindow rfl
  have old := (posted.named other.incrId conn here).2
  rw [rtake_append, List.mem_append] at inWindow
  rcases inWindow with stayed | entered
  · have before := posted.contents other (List.mem_of_mem_drop stayed)
    grind
  · rw [List.map_append] at distinct
    have arrived : other.incrId ∈ new.map (·.incrId) :=
      List.mem_map_of_mem (List.mem_of_mem_drop entered)
    grind

end

/-- Calls that are no updates, or no removals, are calm among themselves. -/
theorem calm_of_forall (calm : ∀ earlier ∈ calls, ∀ later ∈ calls, earlier.isUpdate = true →
      later.isRemoval = false) :
    calls.Pairwise fun earlier later => earlier.isUpdate = true → later.isRemoval = false := by
  refine List.Pairwise.imp_of_mem ?_ (List.pairwise_of_forall fun _ _ => trivial)
  exact fun first second _ => calm _ first _ second

/-- The capture thread posts the calls for new connections. -/
theorem Posted.newConnections (posted : Posted slots log known reg objects queue)
    (small : slots ≤ 2 ^ 30) (platform : Platform) (conns : JavaArray ConnectionDescriptor)
    (consecutive : Consecutive (log.map (·.incrId) ++ conns.items.map (·.incrId)))
    (careful : slots < (log.rtake slots).length + conns.items.length →
      ∀ call ∈ queue, call.isUpdate = false) :
    ∃ after calls, reg.newConnections platform conns = some (after, calls) ∧
      Posted slots (log ++ conns.items.map (·.registered platform)) known after
        (after.share objects) (queue ++ calls) ∧
      (calls.flatMap (·.added)).length ≤ conns.items.length ∧
      (∀ id conn, objects id = some conn → after.share objects id = some conn) ∧
      ∀ call ∈ queue, call.isUpdate = true →
        (log.rtake slots).map (·.incrId) <+:
          ((log ++ conns.items.map (·.registered platform)).rtake slots).map (·.incrId) := by
  obtain ⟨after, performed, followed⟩ :=
    posted.follows.newConnections (by omega) platform conns
  generalize newIs : conns.items.map (·.registered platform) = new at performed followed ⊢
  have newIds : new.map (·.incrId) = conns.items.map (·.incrId) := by
    rw [← newIs, List.map_map]
    rfl
  have newLength : new.length = conns.items.length := by grind
  have allIds : Consecutive ((log ++ new).map (·.incrId)) := by
    grind
  have storedLength := length_rtake new slots
  have shared := followed.share_eq small objects
  have window := rtake_append log new slots
  have distinct : (((log ++ new).rtake slots).map (·.incrId)).Nodup :=
    allIds.nodup.sublist ((List.drop_sublist _ _).map _)
  have kept : ∀ id conn, objects id = some conn → after.share objects id = some conn := by
    intro id conn here
    rw [shared]
    exact posted.kept_of_new allIds.nodup here
  have stays : ∀ call ∈ queue, call.isUpdate = true →
      (log.rtake slots).length + conns.items.length ≤ slots := by
    grind
  have grows : (log.rtake slots).length + conns.items.length ≤ slots →
      (log ++ new).rtake slots = log.rtake slots ++ new.rtake slots := by
    intro room
    rw [window, Nat.sub_eq_zero_of_le (by omega), List.drop_zero]
  have calls := @Delivers.storeCalls slots (log.rtake slots) (new.rtake slots) (by omega)
  rw [← window] at calls
  refine ⟨after, _, performed, ⟨followed, allIds, ?_, ?_, ?_, posted.delivers.append calls, ?_, ?_,
    ?_⟩, ?_, kept, ?_⟩
  · intro conn member
    rw [shared]
    exact putAll_of_mem distinct member
  · rw [shared]
    refine putAll_named distinct (fun conn member => ?_) fun id conn here => ?_
    · exact List.mem_map_of_mem (List.mem_of_mem_drop member)
    · obtain ⟨named, old⟩ := posted.named id conn here
      grind
  · intro conn member
    rw [List.flatMap_append, storeCalls_added, List.mem_append] at member
    rcases member with old | entered
    · obtain ⟨contents, here⟩ := posted.stored conn old
      exact ⟨contents, kept _ _ here⟩
    · refine ⟨conn, ?_⟩
      rw [shared]
      apply putAll_of_mem distinct
      grind
  · refine List.pairwise_append.mpr ⟨posted.calm, ?_, fun earlier old later new update => ?_⟩
    · apply calm_of_forall
      intro earlier member _ _ update
      rw [storeCalls_not_update earlier member] at update
      cases update
    · have room := stays earlier old update
      exact storeCalls_not_removal (by omega) later new
  · intro pos member
    rw [List.flatMap_append, List.mem_append] at member
    rcases member with old | new
    · obtain ⟨call, inQueue, update⟩ := exists_update_of_position old
      obtain ⟨index, inside, same⟩ := posted.valid pos old
      grind
    · exact absurd new (not_mem_positions storeCalls_not_update)
  · rw [List.flatMap_append, storeCalls_added, List.map_append, List.map_append,
      ← List.append_assoc]
    exact posted.ordered.append ((List.drop_sublist _ _).map _)
  · rw [storeCalls_added]
    omega
  · grind

/-! ## Updates -/

/-- An update leaves other connections alone. -/
theorem mem_updateWindows {isLowMemory : Bool} {window : List ConnectionDescriptor}
    {updates : List ConnectionUpdate} (member : conn ∈ window)
    (untouched : conn.incrId ∉ updates.map (·.incrId)) :
    conn ∈ updates.foldl (ConnectionsRegister.updateWindow isLowMemory) window := by
  induction updates generalizing window with
  | nil => exact member
  | cons update updates ih =>
    rw [List.map_cons, List.mem_cons, not_or] at untouched
    refine ih ?_ untouched.2
    exact List.mem_map.mpr ⟨conn, member, if_neg untouched.1⟩

section

variable (slots : Nat) (ids : List Int32) (window : List ConnectionDescriptor)
    (updates : List ConnectionUpdate)

theorem updateCalls_positions :
    (ConnectionsRegister.updateCalls window updates).flatMap (·.positions) =
      ConnectionsRegister.changedPositions window updates := by
  rw [ConnectionsRegister.updateCalls]
  split
  next silent =>
    rw [silent]
    rfl
  next => exact List.append_nil _

theorem updateCalls_added :
    (ConnectionsRegister.updateCalls window updates).flatMap (·.added) = [] := by
  rw [ConnectionsRegister.updateCalls]
  split <;> rfl

theorem updateCalls_not_removal {window : List ConnectionDescriptor}
    {updates : List ConnectionUpdate} :
    ∀ call ∈ ConnectionsRegister.updateCalls window updates, call.isRemoval = false := by
  intro call member
  rw [ConnectionsRegister.updateCalls] at member
  split at member
  next => cases member
  next => exact (List.mem_singleton.mp member) ▸ rfl

theorem Delivers.updateCalls :
    Delivers slots ids (ConnectionsRegister.updateCalls window updates) ids := by
  rw [ConnectionsRegister.updateCalls]
  split
  next => exact .done ids
  next => exact .updated (.done ids)

end

/-- The capture thread posts the call for updates. -/
theorem Posted.connectionsUpdates (posted : Posted slots log known reg objects queue)
    (small : slots ≤ 2 ^ 30) (platform : Platform) (isLowMemory : Bool)
    (updates : JavaArray ConnectionUpdate) :
    ∃ after calls, reg.connectionsUpdates isLowMemory updates = some (after, calls) ∧
      ∃ logAfter, RegisterCall.record platform slots log
          (.connectionsUpdates isLowMemory updates) = logAfter ∧
        Posted slots logAfter known after (after.share objects) (queue ++ calls) ∧
        logAfter.length = log.length ∧
        (logAfter.rtake slots).map (·.incrId) = (log.rtake slots).map (·.incrId) ∧
        calls.flatMap (·.added) = [] ∧
        ∀ id conn, objects id = some conn → after.share objects id = some conn ∨
          ∃ index : Nat, Int32.ofNat index ∈ calls.flatMap (·.positions) ∧
            ((log.rtake slots).map (·.incrId))[index]? = some id := by
  have inWindow := consecutive_window slots posted.consecutive
  obtain ⟨after, performed, followed⟩ :=
    posted.follows.connectionsUpdates small inWindow platform isLowMemory updates
  have ids := RegisterCall.record_incrIds platform slots log
    (.connectionsUpdates isLowMemory updates)
  rw [show delivered [.connectionsUpdates isLowMemory updates] = [] from rfl, List.map_nil,
    List.append_nil] at ids
  have window := rtake_record_updates platform slots log isLowMemory updates
  generalize RegisterCall.record platform slots log (.connectionsUpdates isLowMemory updates) =
    logAfter at followed ids window
  have windowIds : (logAfter.rtake slots).map (·.incrId) = (log.rtake slots).map (·.incrId) := by
    rw [← rtake_map, ids, rtake_map]
  have distinct : ((logAfter.rtake slots).map (·.incrId)).Nodup := by
    rw [windowIds]
    exact posted.nodup
  have shared := followed.share_eq small objects
  have length := congrArg List.length ids
  rw [List.length_map, List.length_map] at length
  have windowLength := congrArg List.length windowIds
  rw [List.length_map, List.length_map] at windowLength
  have kept : ∀ id conn, objects id = some conn → after.share objects id = some conn ∨
      ∃ index : Nat, Int32.ofNat index ∈
          ConnectionsRegister.changedPositions (log.rtake slots) updates.items ∧
        ((log.rtake slots).map (·.incrId))[index]? = some id := by
    intro id conn here
    rw [shared]
    by_cases member : id ∈ (log.rtake slots).map (·.incrId)
    · obtain ⟨other, found, rfl⟩ := List.mem_map.mp member
      have before := posted.contents other found
      rw [here] at before
      obtain rfl := Option.some.inj before
      by_cases touched : conn.incrId ∈ updates.items.map (·.incrId)
      · obtain ⟨index, place⟩ := List.mem_iff_getElem?.mp found
        refine .inr ⟨index, ?_, by grind⟩
        exact (ConnectionsRegister.mem_changedPositions inWindow).mpr
          ⟨index, conn, place, touched, rfl⟩
      · refine .inl (putAll_of_mem distinct ?_)
        rw [window]
        exact mem_updateWindows found touched
    · rw [← windowIds] at member
      rw [putAll_of_not_mem member]
      exact .inl here
  refine ⟨after, _, performed, logAfter, rfl, ⟨followed, ids ▸ posted.consecutive, ?_, ?_, ?_, ?_,
    ?_, ?_, ?_⟩, length, windowIds, updateCalls_added _ _, ?_⟩
  · intro conn member
    rw [shared]
    exact putAll_of_mem distinct member
  · rw [shared]
    refine putAll_named distinct (fun conn member => ?_) fun id conn here => ?_
    · exact List.mem_map_of_mem (List.mem_of_mem_drop member)
    · rw [ids]
      exact posted.named id conn here
  · intro conn member
    rw [List.flatMap_append, updateCalls_added, List.append_nil] at member
    obtain ⟨contents, here⟩ := posted.stored conn member
    rw [shared]
    exact exists_putAll distinct here
  · rw [windowIds]
    exact posted.delivers.append (Delivers.updateCalls slots _ _ _)
  · refine List.pairwise_append.mpr ⟨posted.calm, ?_, fun _ _ later new _ =>
      updateCalls_not_removal later new⟩
    exact calm_of_forall fun _ _ later member _ => updateCalls_not_removal later member
  · intro pos member
    rw [List.flatMap_append, updateCalls_positions, List.mem_append] at member
    rw [windowLength]
    rcases member with old | new
    · exact posted.valid pos old
    · obtain ⟨index, conn, found, -, same⟩ :=
        (ConnectionsRegister.mem_changedPositions inWindow).mp new
      grind
  · rw [List.flatMap_append, updateCalls_added, List.append_nil, ids]
    exact posted.ordered
  · rw [updateCalls_positions]
    exact kept

end Steps

end PcapdroidFormal.Register
