import PcapdroidFormal.Register.Posting

/-!
# The view once all calls are handled

The UI thread keeps the invariant too: a call reads what the register shows, and
ends with a view from which everything is gone that it found not to match.  When
no call is left, nothing is left to be visited, so all items match.  Without care
the view breaks: a refresh may meet connections that are added once more later, and
a position may mean another connection when it is visited.
-/

namespace PcapdroidFormal.Register

open Foundation
open ConnectionsAdapter

variable {reg : ConnectionsRegister} {pos start : Int32} {positions : List Int32}
    {contents : List ConnectionDescriptor} {conns : List ConnectionDescriptor}
  {selection : Selection} {mask : Mask} {log : List ConnectionDescriptor} {slots : Nat}
  {platform : Platform} {known : List Int32}

section Capture

variable {platform : Platform} {slots : Nat} {log : List ConnectionDescriptor}
  {known : List Int32} {delivery : Delivery}

variable (consistent : Consistent platform slots log known delivery)
include consistent

/-- A call of the capture thread keeps the invariant if it keeps what is covered. -/
theorem Consistent.capture {call : RegisterCall} {after : ConnectionsRegister}
    {calls : List ListenerCall} {logAfter : List ConnectionDescriptor}
    (performed : call.perform platform delivery.reg = some (after, calls))
    (posted : Posted slots logAfter known after (after.share delivery.objects)
      (delivery.queue ++ calls))
    (keeps : ∀ id, Covered (delivery.matchesConn platform) delivery.objects
      ((log.rtake slots).map (·.incrId)) (unreadPositions delivery.found.length delivery.queue) id →
      Covered (delivery.matchesConn platform) (after.share delivery.objects)
        ((logAfter.rtake slots).map (·.incrId))
        (unreadPositions delivery.found.length (delivery.queue ++ calls)) id)
    (stays : ∀ call ∈ delivery.queue, call.isUpdate = true →
      (log.rtake slots).map (·.incrId) <+: (logAfter.rtake slots).map (·.incrId))
    (room : log.length + (calls.flatMap (·.added)).length ≤ logAfter.length) :
    ∃ next, delivery.capture platform call = some next ∧
      Consistent platform slots logAfter known next := by
  refine ⟨{ delivery with
      reg := after
      objects := after.share delivery.objects
      queue := delivery.queue ++ calls },
    ?_, posted, consistent.counted, consistent.reading.post keeps stays, fun filter => ?_,
    consistent.unfiltered⟩
  · simp only [Delivery.capture, performed, Option.bind_eq_bind, Option.bind_some]
  · obtain ⟨view, removed, viewed⟩ := consistent.filtered filter
    exact ⟨view, removed, viewed.post keeps room⟩

/-- The capture thread keeps the invariant with new connections. -/
theorem Consistent.newConnections (small : slots ≤ 2 ^ 30) (conns : JavaArray ConnectionDescriptor)
    (consecutive : Consecutive (log.map (·.incrId) ++ conns.items.map (·.incrId)))
    (careful : slots < (log.rtake slots).length + conns.items.length →
      ∀ call ∈ delivery.queue, call.isUpdate = false) :
    ∃ next, delivery.capture platform (.newConnections conns) = some next ∧
      Consistent platform slots (log ++ conns.items.map (·.registered platform)) known next := by
  obtain ⟨after, calls, performed, posted, few, kept, stays⟩ :=
    consistent.posted.newConnections small platform conns consecutive careful
  refine consistent.capture performed posted (fun id covered => covered.post (kept id) stays)
    stays ?_
  rw [List.length_append, List.length_map]
  omega

/-- The capture thread keeps the invariant with updates. -/
theorem Consistent.connectionsUpdates (small : slots ≤ 2 ^ 30) (isLowMemory : Bool)
    (updates : JavaArray ConnectionUpdate) :
    ∃ next, delivery.capture platform (.connectionsUpdates isLowMemory updates) = some next ∧
      Consistent platform slots (RegisterCall.record platform slots log
        (.connectionsUpdates isLowMemory updates)) known next := by
  obtain ⟨after, calls, performed, logAfter, rfl, posted, length, ids, nothing, kept⟩ :=
    consistent.posted.connectionsUpdates small platform isLowMemory updates
  have idle : delivery.queue = [] → delivery.found.length = 0 := by
    intro empty
    have reading := consistent.reading
    rw [empty] at reading
    rw [reading.found_eq_nil, List.length_nil]
  refine consistent.capture performed posted ?_ (fun _ _ _ => ids ▸ List.prefix_rfl) ?_
  · rw [ids]
    rintro id (⟨conn, here, matching⟩ | ⟨index, unread, place⟩)
    · rcases kept id conn here with same | ⟨index, posted, place⟩
      · exact .inl ⟨conn, same, matching⟩
      · exact .inr ⟨index, mem_unread_of_posted idle posted, place⟩
    · exact .inr ⟨index, mem_unread_append calls unread, place⟩
  · rw [nothing, length, List.length_nil]
    exact Nat.le_refl _

end Capture

/-! ## Reading -/

/-- A posted position is that of a connection of the register. -/
theorem Posted.getConn_of_position {objects : Int32 → Option ConnectionDescriptor}
    {queue : List ListenerCall} (posted : Posted slots log known reg objects queue)
    (small : slots ≤ 2 ^ 30) (member : pos ∈ queue.flatMap (·.positions)) :
    ∃ index conn, pos = .ofNat index ∧ (log.rtake slots)[index]? = some conn ∧
      reg.getConn pos = some (some conn) := by
  obtain ⟨index, inside, rfl⟩ := posted.valid pos member
  have place := List.getElem?_eq_getElem inside
  have shown := posted.follows.tracks.lists (posted.follows.ringSize ▸ small) index _ place
  rw [Nat.zero_add] at shown
  exact ⟨index, _, rfl, place, shown⟩

section Reading

variable {matchesConn : ConnectionDescriptor → Bool}
  {objects : Int32 → Option ConnectionDescriptor} {ids : List Int32}
  {found : List (Option ConnectionDescriptor)} {queue : List ListenerCall}
  {conn : ConnectionDescriptor} {index : Nat}

theorem Reading.read_added {referred : ConnectionDescriptor}
    (reading : Reading matchesConn objects ids found (.connectionsAdded start conns :: queue))
    (next : conns[found.length]? = some referred) (same : conn.incrId = referred.incrId)
    (here : objects conn.incrId = some conn) :
    Reading matchesConn objects ids (found ++ [some conn]) (.connectionsAdded start conns :: queue):= by
  obtain ⟨contents, rfl, order, covered⟩ := reading
  rw [List.length_map] at next
  refine ⟨contents ++ [conn], by rw [List.map_append]; rfl, ?_, fun other member matching => ?_⟩
  · rw [List.map_append, order, List.length_append, List.length_singleton, List.take_add_one,
      List.getElem?_map, next, List.map_singleton, same]
    rfl
  · rcases List.mem_append.mp member with old | new
    · exact covered other old matching
    · obtain rfl := List.mem_singleton.mp new
      exact .inl ⟨other, here, matching⟩

theorem Reading.read_updated
    (reading : Reading matchesConn objects ids found (.connectionsUpdated positions :: queue))
    (next : (visitOrder positions)[found.length]? = some pos) (is : pos = .ofNat index)
    (place : ids[index]? = some conn.incrId) :
    Reading matchesConn objects ids (found ++ [some conn]) (.connectionsUpdated positions :: queue):= by
  obtain ⟨contents, rfl, places⟩ := reading
  rw [List.length_map] at next
  refine ⟨contents ++ [conn], by rw [List.map_append]; rfl, ?_⟩
  rw [List.length_append, List.length_singleton, List.take_add_one, next]
  exact List.rel_append places (.cons ⟨index, is, place⟩ .nil)

/-- A connection that was to be visited has been found: it matches, or it is refuted. -/
theorem Covered.read_updated {id : Int32} (covered : Covered matchesConn objects ids
        (unreadPositions found.length (.connectionsUpdated positions :: queue)) id ∨
      id ∈ refutedIds matchesConn found (.connectionsUpdated positions :: queue))
    (small : ids.length ≤ 2 ^ 31)
    (next : (visitOrder positions)[found.length]? = some pos) (is : pos = .ofNat index)
    (place : ids[index]? = some conn.incrId) (here : objects conn.incrId = some conn) :
    Covered matchesConn objects ids
        (unreadPositions (found ++ [some conn]).length (.connectionsUpdated positions :: queue))
        id ∨
      id ∈ refutedIds matchesConn (found ++ [some conn]) (.connectionsUpdated positions :: queue):= by
  have grown : refutedIds matchesConn (found ++ [some conn])
      (.connectionsUpdated positions :: queue) =
        refutedIds matchesConn found (.connectionsUpdated positions :: queue) ++
          ([conn].filter fun conn => !matchesConn conn).map (·.incrId) := by
    simp only [refutedIds, List.filterMap_append, List.filter_append, List.map_append]
    rfl
  rw [grown, List.mem_append]
  rcases covered with (⟨other, there, matching⟩ | ⟨place', unread, found'⟩) | refuted
  · exact .inl (.inl ⟨other, there, matching⟩)
  · obtain ⟨inside, same⟩ := List.getElem?_eq_some_iff.mp next
    rw [unreadPositions, List.drop_eq_getElem_cons inside, same, List.cons_append,
      List.mem_cons] at unread
    rcases unread with first | later
    · -- the position that was just read
      have known : IsNat pos index := by
        rw [is]
        exact .ofNat (by have := (List.getElem?_eq_some_iff.mp place).1; omega)
      have again : IsNat pos place' := by
        rw [← first]
        exact .ofNat (by have := (List.getElem?_eq_some_iff.mp found').1; omega)
      obtain rfl := known.unique again
      rw [place] at found'
      obtain rfl := Option.some.inj found'
      rcases Bool.eq_false_or_eq_true (matchesConn conn) with matching | unmatched
      · exact .inl (.inl ⟨conn, here, matching⟩)
      · refine .inr (.inr ?_)
        rw [List.filter_cons_of_pos (by rw [unmatched]; rfl)]
        exact List.mem_cons_self
    · refine .inl (.inr ⟨place', ?_, found'⟩)
      rw [unreadPositions, List.length_append, List.length_singleton]
      exact later
  · exact .inr (.inl refuted)

end Reading

/-! ## The ends of the calls -/

theorem filter_mem_of_sublist {view known : List Int32} (sublist : view.Sublist known)
    (nodup : known.Nodup) : known.filter (fun id => decide (id ∈ view)) = view := by
  induction sublist with
  | slnil => rfl
  | cons id sublist ih =>
    obtain ⟨absent, distinct⟩ := List.nodup_cons.mp nodup
    rw [List.filter_cons_of_neg, ih distinct]
    rw [decide_eq_true_iff]
    exact fun member => absent (sublist.subset member)
  | cons_cons id sublist ih =>
    obtain ⟨absent, distinct⟩ := List.nodup_cons.mp nodup
    rw [List.filter_cons_of_pos]
    · congr 1
      refine (List.filter_congr fun other member => ?_).trans (ih distinct)
      rw [decide_eq_decide, List.mem_cons, or_iff_right]
      rintro rfl
      exact absent member
    · exact decide_eq_true List.mem_cons_self

section Views

variable {matchesConn : ConnectionDescriptor → Bool}
  {objects : Int32 → Option ConnectionDescriptor} {ids known rest : List Int32} {total : Nat}
  {found : List (Option ConnectionDescriptor)} {queue : List ListenerCall}
  {adapter : ConnectionsAdapter} {view : List Int32} {removed : Nat}

theorem Viewed.connectionsRemoved {gone : List ConnectionDescriptor}
    (viewed : Viewed matchesConn objects ids total (gone.map (·.incrId) ++ rest) []
      (.connectionsRemoved start (gone.map some) :: queue) adapter view removed)
    (nodup : (gone.map (·.incrId) ++ rest).Nodup) (small : total < 2 ^ 32) :
    ∃ viewAfter removedAfter, Viewed matchesConn objects ids total rest [] queue
      (adapter.connectionsRemoved start (gone.map some)) viewAfter removedAfter := by
  obtain ⟨mirrors, inside, bound, covered⟩ := viewed
  have shown : view = shownIds ((gone.map fun conn => ⟨conn, decide (conn.incrId ∈ view)⟩) ++
      rest.map fun id => ⟨plainConn id, decide (id ∈ view)⟩) := by
    rw [shownIds_append]
    simp only [shownIds, List.filter_map, List.map_map]
    conv_lhs => rw [← filter_mem_of_sublist inside nodup, List.filter_append, List.filter_map]
    congr 1
    exact (List.map_id _).symm
  have restShown : shownIds (rest.map fun id => ⟨plainConn id, decide (id ∈ view)⟩) =
      rest.filter fun id => decide (id ∈ view) := by
    simp only [shownIds, List.filter_map, List.map_map]
    exact List.map_id _
  have bound' : removed + view.length + (queue.flatMap (·.added)).length ≤ total := bound
  have mirrors' := mirrors
  rw [shown] at mirrors'
  obtain ⟨after, mirrored, count⟩ := mirrors'.connectionsRemoved start
    (gone.map fun conn => ⟨conn, decide (conn.incrId ∈ view)⟩)
    (rest.map fun id => ⟨plainConn id, decide (id ∈ view)⟩)
    (by
      rw [List.map_append, List.map_map, List.map_map]
      refine Eq.subst (motive := List.Nodup) ?_ nodup
      congr 1
      exact (List.map_id _).symm)
    (by rw [← shown]; omega)
  rw [← shown, restShown] at count
  rw [restShown, List.map_map] at mirrored
  refine ⟨_, after, mirrored, List.filter_sublist, by omega, fun id member => ?_⟩
  obtain ⟨-, inView⟩ := List.mem_filter.mp member
  rcases covered id (of_decide_eq_true inView) with (here | ⟨index, unread, place⟩) | refuted
  · exact .inl (.inl here)
  · exact .inl (.inr ⟨index, mem_unread_zero.mpr unread, place⟩)
  · cases refuted

theorem Viewed.connectionsAdded
    (viewed : Viewed matchesConn objects ids total known (contents.map some)
      (.connectionsAdded start conns :: queue) adapter view removed)
    (reading : Reading matchesConn objects ids (contents.map some)
      (.connectionsAdded start conns :: queue))
    (order : contents.map (·.incrId) = conns.map (·.incrId))
    (nodup : (known ++ conns.map (·.incrId)).Nodup) (fits : known.length + conns.length ≤ slots)
    (small : slots < 2 ^ 31) :
    Viewed matchesConn objects ids total (known ++ conns.map (·.incrId)) [] queue
      (adapter.connectionsAdded matchesConn start contents)
      (view ++ (contents.filter matchesConn).map (·.incrId)) removed := by
  obtain ⟨mirrors, inside, bound, covered⟩ := viewed
  obtain ⟨read, same, -, fresh⟩ := reading
  obtain rfl : contents = read := List.map_injective_iff.mpr (Option.some_injective _) same
  have lengths := congrArg List.length order
  rw [List.length_map, List.length_map] at lengths
  have fewer := inside.length_le
  have few := List.length_filter_le matchesConn contents
  refine ⟨mirrors.connectionsAdded matchesConn start contents ?_ (by omega), ?_, ?_,
    fun id member => .inl ?_⟩
  · rw [order]
    exact nodup.sublist (inside.append_right _)
  · rw [← order]
    exact inside.append (List.filter_sublist.map _)
  · rw [List.flatMap_cons, List.length_append] at bound
    change removed + view.length + (conns.length + _) ≤ total at bound
    rw [List.length_append, List.length_map]
    omega
  · have later : Covered matchesConn objects ids (queue.flatMap (·.positions)) id := by
      rcases List.mem_append.mp member with old | new
      · rcases covered id old with here | refuted
        · exact here
        · cases refuted
      · obtain ⟨conn, matched, rfl⟩ := List.mem_map.mp new
        obtain ⟨wasRead, matching⟩ := List.mem_filter.mp matched
        exact fresh conn wasRead matching
    rcases later with here | ⟨index, unread, place⟩
    · exact .inl here
    · exact .inr ⟨index, mem_unread_zero.mpr unread, place⟩

theorem Viewed.connectionsUpdated
    (viewed : Viewed matchesConn objects ids total known (contents.map some)
      (.connectionsUpdated positions :: queue) adapter view removed)
    (whole : contents.length = positions.length) (increasing : known.Pairwise (· < ·))
    (sorted : (contents.map (·.incrId)).Pairwise (· ≤ ·)) (total_lt : total < 2 ^ 32)
    (small : known.length < 2 ^ 31) :
    Viewed matchesConn objects ids total known [] queue
      (adapter.visitFound matchesConn positions (contents.map some))
      (view.filter (unrefuted matchesConn contents)) removed := by
  obtain ⟨mirrors, inside, bound, covered⟩ := viewed
  have fewer := inside.length_le
  have bound : removed + view.length + (queue.flatMap (·.added)).length ≤ total := bound
  have few := List.length_filter_le (unrefuted matchesConn contents) view
  refine ⟨mirrors.visitFound matchesConn (increasing.sublist inside) positions sorted (by omega)
    (by omega), List.filter_sublist.trans inside, by omega, fun id member => .inl ?_⟩
  obtain ⟨inView, unrefuted⟩ := List.mem_filter.mp member
  rcases covered id inView with (here | ⟨index, unread, place⟩) | refuted
  · exact .inl here
  · have all : (visitOrder positions).length ≤ (contents.map some).length := by
      rw [visitOrder, List.length_mergeSort, List.length_map, whole]
    rw [unreadPositions, List.drop_eq_nil_of_le all, List.nil_append] at unread
    exact .inr ⟨index, mem_unread_zero.mpr unread, place⟩
  · -- nothing that was found speaks against an item that stays
    rw [refutedIds, List.filterMap_map, Function.id_comp, List.filterMap_some] at refuted
    obtain ⟨conn, unmatched, rfl⟩ := List.mem_map.mp refuted
    obtain ⟨wasRead, unmatched⟩ := List.mem_filter.mp unmatched
    have verdict := List.all_eq_true.mp unrefuted conn wasRead
    rw [bne_self_eq_false, Bool.false_or] at verdict
    rw [verdict] at unmatched
    cases unmatched

end Views

section Handling

variable {platform : Platform} {slots : Nat} {log : List ConnectionDescriptor}
  {known : List Int32} {delivery next : Delivery} {objects : Int32 → Option ConnectionDescriptor}
  {adapter : ConnectionsAdapter} {queue : List ListenerCall}

theorem Consistent.read (consistent : Consistent platform slots log known delivery)
    (small : slots ≤ 2 ^ 30) (taken : delivery.read = some next) :
    Consistent platform slots log known next := by
  obtain ⟨posted, counted, reading, filtered, unfiltered⟩ := consistent
  obtain ⟨reg, objects, queue, found, mask, selection, adapter⟩ := delivery
  rw [Delivery.read] at taken
  split at taken
  next start conns rest queueIs =>
    obtain rfl : queue = _ := queueIs
    obtain ⟨referred, nextConn, taken⟩ := Option.bind_eq_some_iff.mp taken
    obtain ⟨conn, here, taken⟩ := Option.bind_eq_some_iff.mp taken
    obtain rfl := Option.some.inj taken
    have same := (posted.named _ _ here).1
    refine ⟨posted, counted, reading.read_added nextConn same (same ▸ here), fun filter => ?_,
      unfiltered⟩
    obtain ⟨view, removed, viewed⟩ := filtered filter
    exact ⟨view, removed, viewed.mirrors, viewed.known, viewed.bound, viewed.covered⟩
  next positions rest queueIs =>
    obtain rfl : queue = _ := queueIs
    obtain ⟨pos, nextPos, taken⟩ := Option.bind_eq_some_iff.mp taken
    obtain ⟨read, shown, taken⟩ := Option.bind_eq_some_iff.mp taken
    obtain rfl := Option.some.inj taken
    have member : pos ∈ (ListenerCall.connectionsUpdated positions :: rest).flatMap
        (·.positions) :=
      List.mem_append_left _ (mem_visitOrder.mp (List.mem_of_getElem? nextPos))
    obtain ⟨index, conn, is, place, known⟩ := posted.getConn_of_position small member
    have known : reg.getConn pos = some (some conn) := known
    rw [shown] at known
    obtain rfl := Option.some.inj known
    have ids : ((log.rtake slots).map (·.incrId))[index]? = some conn.incrId := by
      rw [List.getElem?_map, place]
      rfl
    have here := posted.contents conn (List.mem_of_getElem? place)
    refine ⟨posted, counted, reading.read_updated nextPos is ids, fun filter => ?_, unfiltered⟩
    obtain ⟨view, removed, viewed⟩ := filtered filter
    refine ⟨view, removed, viewed.mirrors, viewed.known, viewed.bound, fun id inView => ?_⟩
    refine Covered.read_updated (viewed.covered id inView) ?_ nextPos is ids here
    rw [List.length_map, length_rtake]
    omega
  next => cases taken

/-- A call is done. -/
theorem Posted.handled
    {call : ListenerCall} {after : List Int32}
    (posted : Posted slots log known reg objects (call :: queue))
    (delivers : Delivers slots after queue ((log.rtake slots).map (·.incrId)))
    (ordered : (after ++ (queue.flatMap (·.added)).map (·.incrId)).Sublist
      (known ++ ((call :: queue).flatMap (·.added)).map (·.incrId))) :
    Posted slots log after reg objects queue where
  follows := posted.follows
  consecutive := posted.consecutive
  contents := posted.contents
  named := posted.named
  stored := fun conn member => posted.stored conn (List.mem_append_right _ member)
  delivers := delivers
  calm := (List.pairwise_cons.mp posted.calm).2
  valid := fun pos member => posted.valid pos (List.mem_append_right _ member)
  ordered := ordered.trans posted.ordered

/-- The adapter knows the connections in their order. -/
theorem Posted.known_increasing (posted : Posted slots log known reg objects queue) :
    (known ++ (queue.flatMap (·.added)).map (·.incrId)).Pairwise (· < ·) :=
  posted.consecutive.pairwise_lt.sublist posted.ordered

/-- What is found are the connections at the positions. -/
theorem found_ids {ids : List Int32} (small : ids.length ≤ 2 ^ 31)
    (places : List.Forall₂ (fun pos conn => ∃ index : Nat, pos = .ofNat index ∧
      ids[index]? = some conn.incrId) positions contents) :
    contents.map (·.incrId) = positions.filterMap fun pos => ids[pos.toNatClampNeg]? := by
  induction places with
  | nil => rfl
  | cons here others ih =>
    obtain ⟨index, rfl, place⟩ := here
    have inside := (List.getElem?_eq_some_iff.mp place).1
    have is : IsNat (Int32.ofNat index) index := .ofNat (by omega)
    rw [List.map_cons, List.filterMap_cons, is.toNat, place, ih]

section

variable (none : adapter.filteredConn = none)
include none

theorem connectionsAdded_of_none (matchesConn : ConnectionDescriptor → Bool) (start : Int32)
    (conns : List ConnectionDescriptor) :
    (adapter.connectionsAdded matchesConn start conns).filteredConn = .none := by
  simp only [ConnectionsAdapter.connectionsAdded, none, Option.isNone_none, if_true]
  rfl

theorem connectionsRemoved_of_none (start : Int32) (conns : List (Option ConnectionDescriptor)) :
    (adapter.connectionsRemoved start conns).filteredConn = .none := by
  simp only [ConnectionsAdapter.connectionsRemoved, none, Option.isNone_none, if_true]
  rfl

theorem visitFound_of_none (matchesConn : ConnectionDescriptor → Bool) (positions : List Int32)
    (found : List (Option ConnectionDescriptor)) :
    (adapter.visitFound matchesConn positions found).filteredConn = .none := by
  rw [ConnectionsAdapter.visitFound, if_pos (by rw [none]; rfl)]
  exact (notifyAll_fields adapter positions).2.trans none

end

variable (consistent : Consistent platform slots log known delivery)
include consistent

/-- The UI thread keeps the invariant when a call ends. -/
theorem Consistent.handle (small : slots ≤ 2 ^ 30) (bound : log.length < 2 ^ 32)
    (taken : delivery.handle platform = some next) :
    ∃ after, Consistent platform slots log after next := by
  obtain ⟨posted, counted, reading, filtered, unfiltered⟩ := consistent
  obtain ⟨reg, objects, queue, found, mask, selection, adapter⟩ := delivery
  have increasing := posted.known_increasing
  rw [Delivery.handle] at taken
  split at taken
  next start conns queue queueIs =>
    obtain rfl : _ = _ := queueIs
    obtain rfl := Option.some.inj taken
    obtain rfl : found = [] := reading
    have delivers := posted.delivers
    cases delivers with
    | @removed _ gone rest _ _ others =>
      refine ⟨rest, posted.handled others ?_, ?_, .nothing _ _ _ _, fun filter => ?_,
        fun filter => connectionsRemoved_of_none (unfiltered filter) _ _⟩
      · rw [List.append_assoc]
        exact List.sublist_append_right _ _
      · rw [connectionsRemoved_unfilteredItemsCount, List.length_map]
        refine (congrArg (· - Int32.ofNat gone.length) counted).trans ?_
        rw [List.length_append, List.length_map, Nat.add_comm, Int32.ofNat_add,
          Int32.add_sub_cancel]
      · obtain ⟨view, removed, viewed⟩ := filtered filter
        refine viewed.connectionsRemoved ?_ bound
        exact (increasing.sublist (List.sublist_append_left _ _)).imp fun order =>
          Int32.ne_of_lt order
  next start conns queue queueIs =>
    obtain rfl : _ = _ := queueIs
    obtain ⟨contents, rfl, order, -⟩ := id reading
    split at taken
    next whole =>
      obtain rfl := Option.some.inj taken
      rw [List.length_map] at whole
      have order : contents.map (·.incrId) = conns.map (·.incrId) := by
        rw [order, whole]
        exact List.take_of_length_le (by rw [List.length_map])
      have delivers := posted.delivers
      have apart := increasing
      rw [List.flatMap_cons, List.map_append, ← List.append_assoc] at apart
      cases delivers with
      | added fits others =>
        refine ⟨known ++ conns.map (·.incrId), posted.handled others ?_, ?_, .nothing _ _ _ _,
          fun filter => ?_, fun filter => connectionsAdded_of_none (unfiltered filter) _ _ _⟩
        · rw [List.flatMap_cons, List.map_append, List.append_assoc]
          exact List.Sublist.refl _
        · rw [connectionsAdded_unfilteredItemsCount, List.filterMap_map, Function.id_comp,
            List.filterMap_some, List.length_append, List.length_map, ← whole, Int32.ofNat_add]
          exact congrArg (· + Int32.ofNat contents.length) counted
        · obtain ⟨view, removed, viewed⟩ := filtered filter
          simp only [List.filterMap_map, Function.id_comp, List.filterMap_some]
          refine ⟨_, removed, viewed.connectionsAdded reading order ?_ fits (by omega)⟩
          exact (apart.sublist (List.sublist_append_left _ _)).imp fun order =>
            Int32.ne_of_lt order
    next => cases taken
  next positions queue queueIs =>
    obtain rfl : _ = _ := queueIs
    obtain ⟨contents, rfl, places⟩ := id reading
    split at taken
    next whole =>
      obtain rfl := Option.some.inj taken
      rw [List.length_map] at whole
      have delivers := posted.delivers
      cases delivers with
      | updated others =>
        have idsIncreasing : ((log.rtake slots).map (·.incrId)).Pairwise (· < ·) :=
          posted.consecutive.pairwise_lt.sublist ((List.drop_sublist _ _).map _)
        have idsLength : ((log.rtake slots).map (·.incrId)).length ≤ slots := by
          rw [List.length_map, length_rtake]
          exact Nat.min_le_right _ _
        -- behind an update nothing is removed, so the adapter is at most behind the register
        have known_le : known.length ≤ ((log.rtake slots).map (·.incrId)).length := by
          have all := others.without_removals fun call member =>
            (List.pairwise_cons.mp posted.calm).1 call member rfl
          have length := congrArg List.length all
          rw [List.length_append] at length
          omega
        have sorted := sorted_of_positions idsIncreasing
          (visitOrder_sorted.sublist (List.take_sublist contents.length (visitOrder positions)))
        rw [← found_ids (by omega) places] at sorted
        refine ⟨known, posted.handled others (List.Sublist.refl _), ?_, .nothing _ _ _ _,
          fun filter => ?_, fun filter => visitFound_of_none (unfiltered filter) _ _ _⟩
        · rw [visitFound_unfilteredItemsCount]
          exact counted
        · obtain ⟨view, removed, viewed⟩ := filtered filter
          exact ⟨_, removed, viewed.connectionsUpdated whole
            (increasing.sublist (List.sublist_append_left _ _)) sorted bound (by omega)⟩
    next => cases taken
  next => cases taken

/-- The user changes the filter. -/
theorem Consistent.refresh (small : slots ≤ 2 ^ 30)
    (careful : ∀ call ∈ delivery.queue, call.isRemoval = false)
    (taken : delivery.refresh platform mask selection = some next) :
    Consistent platform slots log known next := by
  obtain ⟨posted, counted, reading, -, -⟩ := consistent
  have all := posted.delivers.without_removals careful
  have lengths := congrArg List.length all
  rw [List.length_append, List.length_map, List.length_map, length_rtake] at lengths
  have lists := (posted.follows.tracks.lists (posted.follows.ringSize ▸ small)).take known.length
  have shownIds : ((log.rtake slots).take known.length).map (·.incrId) = known := by
    rw [List.map_take, all, List.take_left]
  have shownLength := congrArg List.length shownIds
  rw [List.length_map] at shownLength
  rw [Delivery.refresh] at taken
  split at taken
  next idle =>
    obtain ⟨adapter, refreshed, taken⟩ := Option.bind_eq_some_iff.mp taken
    obtain rfl := Option.some.inj taken
    cases filter : selection.hasFilter mask with
    | true =>
      rw [filter] at refreshed
      have count : IsNat delivery.adapter.unfilteredItemsCount
          ((log.rtake slots).take known.length).length := by
        rw [counted, shownLength]
        exact .ofNat (by omega)
      obtain ⟨after, refreshed', mirrors, sameCount⟩ := refresh_filtered lists count
        (posted.nodup.sublist ((List.take_sublist _ _).map _))
      obtain rfl := Option.some.inj (refreshed.symm.trans refreshed')
      refine ⟨posted, sameCount.trans counted, ?_, fun _ => ⟨_, 0, mirrors, ?_, ?_,
        fun id member => ?_⟩, fun unset => ?_⟩
      · change Reading _ _ _ delivery.found _
        rw [idle]
        exact .nothing _ _ _ _
      · have inside := (@List.filter_sublist _ (selection.matchesConn platform mask)
          ((log.rtake slots).take known.length)).map (·.incrId)
        rwa [shownIds] at inside
      · have few := List.length_filter_le (selection.matchesConn platform mask)
          ((log.rtake slots).take known.length)
        rw [List.length_map]
        change 0 + _ + (delivery.queue.flatMap (·.added)).length ≤ _
        omega
      · obtain ⟨conn, matched, rfl⟩ := List.mem_map.mp member
        obtain ⟨shown, matching⟩ := List.mem_filter.mp matched
        exact .inl (.inl ⟨conn, posted.contents conn (List.mem_of_mem_take shown), matching⟩)
      · exact absurd (filter.symm.trans unset) (by decide)
    | false =>
      rw [filter] at refreshed
      obtain ⟨after, refreshed', none, sameCount⟩ :=
        @refresh_unfiltered (selection.matchesConn platform mask) delivery.adapter delivery.reg
      obtain rfl := Option.some.inj (refreshed.symm.trans refreshed')
      refine ⟨posted, sameCount.trans counted, ?_, fun set => ?_, fun _ => none⟩
      · change Reading _ _ _ delivery.found _
        rw [idle]
        exact .nothing _ _ _ _
      · exact absurd (filter.symm.trans set) (by decide)
  next => cases taken

end Handling

/-! ## Whole runs -/

/-- The oldest connections are dropped only when no update is on its way, and the filter is
changed only when no removal is. -/
def Delivery.Careful (delivery : Delivery) : DeliveryStep → Prop
  | .capture (.newConnections conns) =>
    delivery.reg.size.toInt < delivery.reg.curItems.toInt + conns.items.length →
      ∀ call ∈ delivery.queue, call.isUpdate = false
  | .refresh _ _ => ∀ call ∈ delivery.queue, call.isRemoval = false
  | _ => True

instance (delivery : Delivery) (step : DeliveryStep) : Decidable (delivery.Careful step) :=
  match step with
  | .capture (.newConnections conns) =>
    inferInstanceAs (Decidable (delivery.reg.size.toInt < delivery.reg.curItems.toInt +
      conns.items.length → ∀ call ∈ delivery.queue, call.isUpdate = false))
  | .capture (.connectionsUpdates _ _) => .isTrue trivial
  | .read => .isTrue trivial
  | .handle => .isTrue trivial
  | .refresh _ _ =>
    inferInstanceAs (Decidable (∀ call ∈ delivery.queue, call.isRemoval = false))

def DeliveryStep.calls : DeliveryStep → List RegisterCall
  | .capture call => [call]
  | _ => []

theorem start_consistent {size : Int32} (is : IsNat size slots) {start : Delivery}
    (started : Delivery.start platform mask selection size = some start) :
    Consistent platform slots [] [] start := by
  have window : ([] : List ConnectionDescriptor).rtake slots = [] :=
    rtake_of_length_le (Nat.zero_le slots)
  have posted : Posted slots [] [] (ConnectionsRegister.new size) (fun _ => none) [] := by
    refine ⟨.new is, .nil, ?_, fun _ _ absent => ?_, List.forall_mem_nil _, ?_, .nil,
      List.forall_mem_nil _, .slnil⟩
    · rw [window]
      exact List.forall_mem_nil _
    · cases absent
    · rw [window]
      exact .done []
  rw [Delivery.start] at started
  cases filter : selection.hasFilter mask with
  | true =>
    rw [filter] at started
    obtain rfl := Option.some.inj started
    refine ⟨posted, rfl, rfl, fun _ => ⟨[], 0, ?_, .slnil, Nat.le_refl 0, List.forall_mem_nil _⟩,
      fun unset => absurd (filter.symm.trans unset) (by decide)⟩
    exact ⟨⟨rfl, rfl, Stores.nil, fun _ => rfl⟩, rfl⟩
  | false =>
    rw [filter] at started
    obtain rfl := Option.some.inj started
    exact ⟨posted, rfl, rfl, fun set => absurd (filter.symm.trans set) (by decide), fun _ => rfl⟩

/-- One careful step of the two threads. -/
theorem Consistent.step {delivery next : Delivery}
    (consistent : Consistent platform slots log known delivery) (small : slots ≤ 2 ^ 30)
    (bound : log.length < 2 ^ 32) {step : DeliveryStep} (careful : delivery.Careful step)
    (consecutive : Consecutive (log.map (·.incrId) ++ (delivered step.calls).map (·.incrId)))
    (taken : delivery.step platform step = some next) : ∃ after, Consistent platform slots
        (step.calls.foldl (RegisterCall.record platform slots) log) after next := by
  cases step with
  | capture call =>
    cases call with
    | newConnections conns =>
      simp only [DeliveryStep.calls, delivered, List.flatMap_cons, List.flatMap_nil,
        List.append_nil] at consecutive
      obtain ⟨result, performed, final⟩ := consistent.newConnections small conns consecutive
        (fun evicts => by
          refine careful ?_
          have follows := consistent.posted.follows
          rw [follows.tracks.size, follows.tracks.curItems, follows.ringSize]
          omega)
      obtain rfl := Option.some.inj (taken.symm.trans performed)
      exact ⟨known, final⟩
    | connectionsUpdates isLowMemory updates =>
      obtain ⟨result, performed, final⟩ :=
        consistent.connectionsUpdates small isLowMemory updates
      obtain rfl := Option.some.inj (taken.symm.trans performed)
      exact ⟨known, final⟩
  | read => exact ⟨known, consistent.read small taken⟩
  | handle => exact consistent.handle small bound taken
  | refresh mask selection => exact ⟨known, consistent.refresh small careful taken⟩

theorem Consistent.run {start final : Delivery} {steps : List DeliveryStep}
    (consistent : Consistent platform slots log known start) (small : slots ≤ 2 ^ 30)
    (path : Path (Delivery.step platform) Delivery.Careful start steps final)
    (consecutive : Consecutive (log.map (·.incrId) ++
      (delivered (steps.flatMap (·.calls))).map (·.incrId)))
    (bound : log.length + (delivered (steps.flatMap (·.calls))).length < 2 ^ 32) :
    ∃ after known, Consistent platform slots after known final := by
  induction path generalizing log known with
  | done => exact ⟨log, known, consistent⟩
  | @step state next final event events careful taken _ ih =>
    have split : delivered ((event :: events).flatMap (·.calls)) =
        delivered event.calls ++ delivered (events.flatMap (·.calls)) := by
      simp only [delivered, List.flatMap_cons, List.flatMap_append]
    rw [split, List.map_append, ← List.append_assoc] at consecutive
    rw [split, List.length_append] at bound
    obtain ⟨after, next⟩ := consistent.step small (by omega) careful
      (List.IsChain.left_of_append consecutive) taken
    have ids : (event.calls.foldl (RegisterCall.record platform slots) log).map (·.incrId) =
        log.map (·.incrId) ++ (delivered event.calls).map (·.incrId) := by
      cases event with
      | capture call => exact call.record_incrIds platform slots log
      | read => exact (List.append_nil _).symm
      | handle => exact (List.append_nil _).symm
      | refresh mask selection => exact (List.append_nil _).symm
    have length := congrArg List.length ids
    rw [List.length_append, List.length_map, List.length_map, List.length_map] at length
    exact ih next (ids ▸ consecutive) (by omega)

/-- However the threads are interleaved, when all calls are handled and a filter is set, the view
is in the order of the register, without repetitions, and all its connections are in the register
and match; provided that no connections are dropped while an update is on its way, and that the
filter is not changed while a removal is. -/
theorem quiet_view_is_consistent (platform : Platform) (mask : Mask) (selection : Selection)
    (size : Int32) (nonneg : 0 ≤ size) (small : size ≤ 0x40000000) {start final : Delivery}
    (started : Delivery.start platform mask selection size = some start)
    (steps : List DeliveryStep)
    (path : Path (Delivery.step platform) Delivery.Careful start steps final)
    (consecutive : Consecutive ((delivered (steps.flatMap (·.calls))).map (·.incrId)))
    (bound : (delivered (steps.flatMap (·.calls))).length < 2 ^ 32)
    (quiet : final.queue = []) (filter : final.hasFilter = true) :
    ∃ view, final.adapter.filteredConn = some view ∧ view.Nodup ∧ view.Pairwise (· < ·) ∧
      ∀ id ∈ view, ∃ conn, final.reg.getConnById id = some (some conn) ∧
        final.matchesConn platform conn = true := by
  have is : IsNat size size.toNatClampNeg := .of_nonneg fun negative =>
    Int32.lt_irrefl (Int32.lt_of_lt_of_le negative nonneg)
  have few : size.toNatClampNeg ≤ 2 ^ 30 := (is.le_iff
    (by decide : (0x40000000 : Int32).toInt = (2 ^ 30 : Nat))).mp small
  obtain ⟨log, known, posted, -, reading, filtered, -⟩ := (start_consistent is started).run few path
    consecutive (by rw [List.length_nil]; omega)
  obtain ⟨view, removed, mirrors, inside, -, covered⟩ := filtered filter
  rw [quiet] at posted covered
  have increasing : view.Pairwise (· < ·) :=
    (posted.known_increasing.sublist (List.sublist_append_left _ _)).sublist inside
  refine ⟨view, mirrors.indexed.filtered, increasing.imp fun order => Int32.ne_of_lt order,
    increasing, fun id member => ?_⟩
  have all := posted.delivers.without_removals (List.forall_mem_nil _)
  rw [List.flatMap_nil, List.map_nil, List.append_nil] at all
  have inRegister := inside.subset member
  rw [← all] at inRegister
  obtain ⟨conn, inWindow, rfl⟩ := List.mem_map.mp inRegister
  rcases covered _ member with (⟨contents, here, matching⟩ | ⟨index, unread, -⟩) | refuted
  · rw [posted.contents conn inWindow] at here
    obtain rfl := Option.some.inj here
    refine ⟨conn, ?_, matching⟩
    have consecutive := consecutive_window size.toNatClampNeg posted.consecutive
    rw [posted.follows.tracks.getConnById_eq (posted.follows.ringSize ▸ few) consecutive,
      ConnectionsRegister.Tracks.find?_incrId consecutive.nodup inWindow]
  · cases unread
  · cases refuted

/-- The connections that are still open. -/
def openConns : Selection := ⟨{ FilterDescriptor.new with status := .active }, none⟩

/-- A batch of one connection. -/
def oneConn (incrId : Int32) : RegisterCall :=
  .newConnections ⟨[plainConn incrId], Nat.one_lt_two_pow (by decide)⟩

def closing (incrId : Int32) : ConnectionUpdate :=
  { ConnectionUpdate.new incrId with updateType := updateStats, status := connStatusClosed }

/-- What is seen at the end of a run. -/
def Delivery.seen (delivery : Delivery) : Bool × Bool × Option (List Int32) :=
  (delivery.queue.isEmpty, delivery.hasFilter, delivery.adapter.filteredConn)

theorem Delivery.of_seen {delivery : Delivery} {view : List Int32}
    (seen : delivery.seen = (true, true, some view)) :
    delivery.queue = [] ∧ delivery.hasFilter = true ∧
      delivery.adapter.filteredConn = some view := by
  obtain ⟨empty, filter⟩ := Prod.mk.inj seen
  obtain ⟨filter, shown⟩ := Prod.mk.inj filter
  exact ⟨List.isEmpty_iff.mp empty, filter, shown⟩

/-- Of two connections that were shown, one is closed. -/
theorem quiet_view_of_open_connection :
    ∃ start final, Delivery.start bare noMask openConns 2 = some start ∧
      Path (Delivery.step bare) Delivery.Careful start
        [.capture (oneConn 0), .capture (oneConn 1), .read, .handle, .read, .handle,
          .capture (.connectionsUpdates false ⟨[closing 0], by decide⟩), .read, .handle] final ∧
      final.adapter.filteredConn = some [1] ∧
      ∃ conn, final.reg.getConnById 1 = some (some conn) ∧
        final.matchesConn bare conn = true := by
  obtain ⟨start, final, started, path, seen⟩ := @exists_path _ _ (Delivery.step bare)
    Delivery.Careful _ _ (Delivery.start bare noMask openConns 2)
    [.capture (oneConn 0), .capture (oneConn 1), .read, .handle, .read, .handle,
      .capture (.connectionsUpdates false ⟨[closing 0], by decide⟩), .read, .handle]
    Delivery.seen (true, true, some [1]) (by decide +kernel)
  obtain ⟨quiet, filter, view⟩ := Delivery.of_seen seen
  obtain ⟨_, shown, -, -, matching⟩ := quiet_view_is_consistent bare noMask openConns 2 (by decide)
    (by decide) started _ path (.cons_cons (by decide) (.singleton 1)) (by decide) quiet filter
  obtain rfl := Option.some.inj (view.symm.trans shown)
  exact ⟨start, final, started, path, view, matching 1 List.mem_cons_self⟩

/-- Without care the view breaks.  A refresh meets the connection that is about to be added, which
is then shown twice; and a position means another connection when it is visited, so a connection
that was closed stays in the view. -/
theorem quiet_view_breaks :
    (∃ start final, Delivery.start bare noMask openConns 1 = some start ∧
      Path (Delivery.step bare) (fun _ _ => True) start
        [.capture (oneConn 0), .read, .handle, .capture (oneConn 1), .refresh noMask openConns,
          .handle, .read, .handle] final ∧
      final.queue = [] ∧ final.hasFilter = true ∧ final.adapter.filteredConn = some [1, 1]) ∧
    ∃ start final, Delivery.start bare noMask openConns 2 = some start ∧
      Path (Delivery.step bare) (fun _ _ => True) start
        [.capture (oneConn 0), .read, .handle, .capture (oneConn 1), .read, .handle,
          .capture (.connectionsUpdates false ⟨[closing 1], by decide⟩), .capture (oneConn 2),
          .read, .handle, .handle, .read, .handle] final ∧
      final.queue = [] ∧ final.hasFilter = true ∧ final.adapter.filteredConn = some [1, 2] ∧
      (final.reg.getConnById 1).map (·.map (final.matchesConn bare)) = some (some false) := by
  constructor
  · obtain ⟨start, final, started, path, seen⟩ := @exists_path _ _ (Delivery.step bare)
      (fun _ _ => True) _ _ (Delivery.start bare noMask openConns 1)
      [.capture (oneConn 0), .read, .handle, .capture (oneConn 1), .refresh noMask openConns,
        .handle, .read, .handle]
      Delivery.seen (true, true, some [1, 1]) (by decide +kernel)
    exact ⟨start, final, started, path, Delivery.of_seen seen⟩
  · obtain ⟨start, final, started, path, seen⟩ := @exists_path _ _ (Delivery.step bare)
      (fun _ _ => True) _ _ (Delivery.start bare noMask openConns 2)
      [.capture (oneConn 0), .read, .handle, .capture (oneConn 1), .read, .handle,
        .capture (.connectionsUpdates false ⟨[closing 1], by decide⟩), .capture (oneConn 2),
        .read, .handle, .handle, .read, .handle]
      (fun final => (final.seen,
        (final.reg.getConnById 1).map (·.map (final.matchesConn bare))))
      ((true, true, some [1, 2]), some (some false)) (by decide +kernel)
    obtain ⟨seen, unmatched⟩ := Prod.mk.inj seen
    obtain ⟨quiet, filter, view⟩ := Delivery.of_seen seen
    exact ⟨start, final, started, path, quiet, filter, view, unmatched⟩

end PcapdroidFormal.Register
