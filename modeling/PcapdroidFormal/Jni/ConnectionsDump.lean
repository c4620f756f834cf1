import PcapdroidFormal.Firewall.Examined
import PcapdroidFormal.Pcap.PacketLoop

/-!
# Dumps that fail

A model of `sendConnectionsDump` of `jni_impl.c` in which every JNI call may
fail.  The dump stops at the first connection that cannot be reported, and
`pd_housekeeping` clears the queues all the same.  A connection that was not
reached then stays marked as pending although it is in no queue.
-/

namespace PcapdroidFormal.Jni

open PcapdroidFormal.Core Firewall Pcap

variable {slots : List ConnAndTuple} {id : ConnId}

/-! ## The dump -/

/-- The JNI calls of `getConnUpdate`: the creation of the object, and whether an
exception is pending after it has been filled. -/
structure UpdateCalls where
  created : Bool
  filled : Bool
  deriving DecidableEq, Repr

/-- The calls of `dumpNewConnection`: `inet_ntop`, the creation of the descriptor, its
first update and its place in the array. -/
structure DescriptorCalls where
  printed : Bool
  described : Bool
  update : UpdateCalls
  stored : Bool
  deriving DecidableEq, Repr

/-- The calls of `sendConnectionsDump`: both arrays, and the elements by position. -/
structure DumpCalls where
  arrays : Bool
  newConn : Nat → DescriptorCalls
  update : Nat → UpdateCalls

/-- `getConnUpdate`; the result says whether there is an update. -/
def getConnUpdate (calls : UpdateCalls) (data : Conn) : Conn × Bool :=
  if calls.created then
    ({ data with
        payloadChunks := data.payloadChunks && !data.updateType.payload
        updateType := .none }, calls.filled)
  else (data, false)

/-- `dumpNewConnection`; the first update has all the data.  The result says whether the
dump goes on. -/
def dumpNewConnection (calls : DescriptorCalls) (data : Conn) : Conn × Bool :=
  if !calls.printed then (data, true)
  else if !calls.described then (data, false)
  else
    let (data, updated) := getConnUpdate calls.update
      { data with updateType := { data.updateType with stats := true, info := true } }
    (data, updated && calls.stored)

def dumpConnectionUpdate (calls : UpdateCalls) (data : Conn) : Conn × Bool :=
  getConnUpdate calls data

/-- A loop of `sendConnectionsDump` from a position on. -/
def dumpConns {Calls : Type} (dump : Calls → Conn → Conn × Bool) (calls : Nat → Calls) :
    Nat → Pcapdroid → List ConnAndTuple → Pcapdroid × Bool
  | _, pd, [] => (pd, true)
  | index, pd, slot :: slots =>
    let (data, success) :=
      dump (calls index) { pd.conn slot.data with pendingNotification := false }
    let pd := pd.setConn slot.data data
    if success then dumpConns dump calls (index + 1) pd slots else (pd, false)

def sendConnectionsDump (calls : DumpCalls) (pd : Pcapdroid) : Pcapdroid :=
  if calls.arrays then
    let (pd, success) := dumpConns dumpNewConnection calls.newConn 0 pd pd.newConns
    if success then (dumpConns dumpConnectionUpdate calls.update 0 pd pd.connsUpdates).1 else pd
  else pd

def reportConnections (calls : DumpCalls) (pd : Pcapdroid) : Pcapdroid :=
  connsClear false (sendConnectionsDump calls pd)

/-! ## Where the dump stops -/

def UpdateCalls.succeed (calls : UpdateCalls) : Bool := calls.created && calls.filled

def DescriptorCalls.succeed (calls : DescriptorCalls) : Bool :=
  !calls.printed || (calls.described && calls.update.succeed && calls.stored)

/-- The slots after the first one whose calls fail. -/
def slotsAfterFailure (succeed : Nat → Bool) : Nat → List ConnAndTuple → List ConnAndTuple
  | _, [] => []
  | index, _ :: slots =>
    if succeed index then slotsAfterFailure succeed (index + 1) slots else slots

/-- Every slot's calls succeed. -/
def allSucceed (succeed : Nat → Bool) : Nat → List ConnAndTuple → Bool
  | _, [] => true
  | index, _ :: slots => succeed index && allSucceed succeed (index + 1) slots

/-- The queued connections that the dump does not reach. -/
def unreachedConns (calls : DumpCalls) (pd : Pcapdroid) : List ConnAndTuple :=
  if calls.arrays then
    if allSucceed (fun index => (calls.newConn index).succeed) 0 pd.newConns then
      slotsAfterFailure (fun index => (calls.update index).succeed) 0 pd.connsUpdates
    else
      slotsAfterFailure (fun index => (calls.newConn index).succeed) 0 pd.newConns ++
        pd.connsUpdates
  else pd.newConns ++ pd.connsUpdates

theorem slotsAfterFailure_suffix (succeed : Nat → Bool) (index : Nat) (slots : List ConnAndTuple) :
    slotsAfterFailure succeed index slots <:+ slots := by
  induction slots generalizing index with
  | nil => exact List.suffix_refl []
  | cons slot slots ih =>
    unfold slotsAfterFailure
    grind

theorem slotsAfterFailure_of_success {succeed : Nat → Bool} {index : Nat}
    (success : allSucceed succeed index slots = true) :
    slotsAfterFailure succeed index slots = [] := by
  induction slots generalizing index with
  | nil => rfl
  | cons slot slots ih =>
    rw [allSucceed, Bool.and_eq_true] at success
    rw [slotsAfterFailure, if_pos success.1]
    exact ih success.2

/-- The function reports one connection: it leaves the flags alone, and succeeds if its
calls do. -/
structure Reports {Calls : Type} (dump : Calls → Conn → Conn × Bool) (succeed : Calls → Bool) :
    Prop where
  pending : ∀ calls data, (dump calls data).1.pendingNotification = data.pendingNotification
  toPurge : ∀ calls data, (dump calls data).1.toPurge = data.toPurge
  success : ∀ calls data, (dump calls data).2 = succeed calls

theorem dumpConnectionUpdate_reports : Reports dumpConnectionUpdate UpdateCalls.succeed := by
  constructor
  all_goals
    rintro ⟨created, filled⟩ data
    cases created <;> rfl

theorem dumpNewConnection_reports : Reports dumpNewConnection DescriptorCalls.succeed := by
  constructor
  all_goals
    rintro ⟨printed, described, ⟨created, filled⟩, stored⟩ data
    cases printed <;> cases described <;> cases created <;> rfl

namespace Reports

variable {Calls : Type} {dump : Calls → Conn → Conn × Bool} {succeed : Calls → Bool}
  (reports : Reports dump succeed) (calls : Nat → Calls)

include reports

variable (index : Nat) (pd : Pcapdroid)

theorem dumpConns_cons (slot : ConnAndTuple) (slots : List ConnAndTuple) :
    ∃ data : Conn, data.pendingNotification = false ∧
      data.toPurge = (pd.conn slot.data).toPurge ∧
      dumpConns dump calls index pd (slot :: slots) =
        if succeed (calls index) then
          dumpConns dump calls (index + 1) (pd.setConn slot.data data) slots
        else (pd.setConn slot.data data, false) := by
  refine ⟨(dump (calls index) { pd.conn slot.data with pendingNotification := false }).1,
    reports.pending (calls index) _, reports.toPurge (calls index) _, ?_⟩
  simp only [dumpConns, reports.success]

/-- Only connections change, and they keep `to_purge`. -/
theorem dumpConns_rest (slots : List ConnAndTuple) :
    ∃ heap, (dumpConns dump calls index pd slots).1 = { pd with heap := heap } ∧
      ∀ id, (heap id).toPurge = (pd.conn id).toPurge := by
  induction slots generalizing index pd with
  | nil => exact ⟨pd.heap, rfl, fun _ => rfl⟩
  | cons slot slots ih =>
    obtain ⟨data, _, toPurge, step⟩ := reports.dumpConns_cons calls index pd slot slots
    have kept (id : ConnId) :
        ((pd.setConn slot.data data).conn id).toPurge = (pd.conn id).toPurge :=
      Pcapdroid.setConn_cases toPurge (fun _ _ => rfl) id
    rw [step]
    split
    · obtain ⟨heap, rest, same⟩ := ih (index + 1) (pd.setConn slot.data data)
      exact ⟨heap, rest, fun id => (same id).trans (kept id)⟩
    · exact ⟨_, rfl, kept⟩

theorem dumpConns_success (slots : List ConnAndTuple) :
    (dumpConns dump calls index pd slots).2 =
      allSucceed (fun index => succeed (calls index)) index slots := by
  induction slots generalizing index pd with
  | nil => rfl
  | cons slot slots ih =>
    obtain ⟨data, _, _, step⟩ := reports.dumpConns_cons calls index pd slot slots
    rw [step, allSucceed]
    grind

theorem dumpConns_other (other : id ∉ slots.map (·.data)) :
    (dumpConns dump calls index pd slots).1.conn id = pd.conn id := by
  induction slots generalizing index pd with
  | nil => rfl
  | cons slot slots ih =>
    rw [List.map_cons, List.mem_cons, not_or] at other
    obtain ⟨data, _, _, step⟩ := reports.dumpConns_cons calls index pd slot slots
    rw [step]
    split
    · rw [ih _ _ other.2, Pcapdroid.setConn_conn_other _ _ other.1]
    · exact Pcapdroid.setConn_conn_other _ _ other.1

/-- The loop does not touch what comes after a failure. -/
theorem dumpConns_unreached (distinct : (slots.map (·.data)).Nodup)
    (unreached : id ∈ (slotsAfterFailure (fun index => succeed (calls index)) index slots).map
      (·.data)) : (dumpConns dump calls index pd slots).1.conn id = pd.conn id := by
  induction slots generalizing index pd with
  | nil => rfl
  | cons slot slots ih =>
    rw [List.map_cons, List.nodup_cons] at distinct
    obtain ⟨data, _, _, step⟩ := reports.dumpConns_cons calls index pd slot slots
    rw [slotsAfterFailure] at unreached
    rw [step]
    split at unreached
    next success =>
      have later := ((slotsAfterFailure_suffix _ (index + 1) slots).map _).subset unreached
      rw [if_pos success, ih _ _ distinct.2 unreached]
      exact Pcapdroid.setConn_conn_other _ _ fun own => distinct.1 (own ▸ later)
    next failure =>
      rw [if_neg failure]
      exact Pcapdroid.setConn_conn_other _ _ fun own => distinct.1 (own ▸ unreached)

/-- What the loop reaches is pending no more. -/
theorem dumpConns_reached
    (idle : (pd.conn id).pendingNotification = false ∨ id ∈ slots.map (·.data))
    (reached : id ∉ (slotsAfterFailure (fun index => succeed (calls index)) index slots).map
      (·.data)) :
    ((dumpConns dump calls index pd slots).1.conn id).pendingNotification = false := by
  induction slots generalizing index pd with
  | nil => exact idle.resolve_right List.not_mem_nil
  | cons slot slots ih =>
    obtain ⟨data, pending, _, step⟩ := reports.dumpConns_cons calls index pd slot slots
    rw [slotsAfterFailure] at reached
    have visited : ((pd.setConn slot.data data).conn id).pendingNotification = false ∨
        id ∈ slots.map (·.data) := by
      by_cases own : id = slot.data
      · subst own
        rw [Pcapdroid.setConn_conn_self]
        exact .inl pending
      · rw [Pcapdroid.setConn_conn_other _ _ own]
        grind
    grind

end Reports

/-! ## Reports -/

section Dump

variable (calls : DumpCalls) (pd : Pcapdroid)

/-- The state after the new connections. -/
def newConnsDumped : Pcapdroid := (dumpConns dumpNewConnection calls.newConn 0 pd pd.newConns).1

theorem sendConnectionsDump_eq :
    sendConnectionsDump calls pd =
      if calls.arrays then
        if allSucceed (fun index => (calls.newConn index).succeed) 0 pd.newConns then
          (dumpConns dumpConnectionUpdate calls.update 0 (newConnsDumped calls pd)
            pd.connsUpdates).1
        else newConnsDumped calls pd
      else pd := by
  obtain ⟨heap, rest, _⟩ := dumpNewConnection_reports.dumpConns_rest calls.newConn 0 pd pd.newConns
  have updates : (newConnsDumped calls pd).connsUpdates = pd.connsUpdates := by
    unfold newConnsDumped
    rw [rest]
  simp only [sendConnectionsDump, dumpNewConnection_reports.dumpConns_success]
  rw [← updates]
  rfl

theorem sendConnectionsDump_rest :
    ∃ heap, sendConnectionsDump calls pd = { pd with heap := heap } ∧
      ∀ id, (heap id).toPurge = (pd.conn id).toPurge := by
  obtain ⟨heap, rest, same⟩ :=
    dumpNewConnection_reports.dumpConns_rest calls.newConn 0 pd pd.newConns
  have first : newConnsDumped calls pd = { pd with heap := heap } := rest
  rw [sendConnectionsDump_eq, first]
  split
  · split
    · obtain ⟨last, rest', same'⟩ := dumpConnectionUpdate_reports.dumpConns_rest calls.update 0
        { pd with heap := heap } pd.connsUpdates
      exact ⟨last, rest', fun id => (same' id).trans (same id)⟩
    · exact ⟨heap, rfl, same⟩
  · exact ⟨pd.heap, rfl, fun _ => rfl⟩

variable {calls pd} {id : ConnId}

/-- A connection that the dump does not reach stays as it is. -/
theorem sendConnectionsDump_unreached (distinct : (queuedConns pd).Nodup)
    (unreached : id ∈ (unreachedConns calls pd).map (·.data)) :
    (sendConnectionsDump calls pd).conn id = pd.conn id := by
  rw [queuedConns, List.map_append, List.nodup_append'] at distinct
  obtain ⟨newDistinct, updatesDistinct, apart⟩ := distinct
  have update (member : id ∈ pd.connsUpdates.map (·.data)) :
      (newConnsDumped calls pd).conn id = pd.conn id :=
    dumpNewConnection_reports.dumpConns_other calls.newConn 0 pd fun other => apart other member
  unfold unreachedConns at unreached
  rw [sendConnectionsDump_eq]
  split at unreached
  next arrays =>
    rw [if_pos arrays]
    split at unreached
    next success =>
      have later := ((slotsAfterFailure_suffix _ 0 pd.connsUpdates).map _).subset unreached
      rw [if_pos success]
      exact (dumpConnectionUpdate_reports.dumpConns_unreached calls.update 0 _ updatesDistinct
        unreached).trans (update later)
    next failure =>
      rw [if_neg failure]
      rw [List.map_append, List.mem_append] at unreached
      rcases unreached with first | later
      · exact dumpNewConnection_reports.dumpConns_unreached calls.newConn 0 pd newDistinct first
      · exact update later
  next => grind

/-- A connection that the dump reaches is pending no more. -/
theorem sendConnectionsDump_reached
    (idle : (pd.conn id).pendingNotification = false ∨ id ∈ queuedConns pd)
    (reached : id ∉ (unreachedConns calls pd).map (·.data)) :
    ((sendConnectionsDump calls pd).conn id).pendingNotification = false := by
  rw [queuedConns, List.map_append, List.mem_append] at idle
  have first (known : (pd.conn id).pendingNotification = false ∨ id ∈ pd.newConns.map (·.data))
      (left : id ∉ (slotsAfterFailure (fun index => (calls.newConn index).succeed) 0
        pd.newConns).map (·.data)) :
      ((newConnsDumped calls pd).conn id).pendingNotification = false :=
    dumpNewConnection_reports.dumpConns_reached calls.newConn 0 pd known left
  unfold unreachedConns at reached
  rw [sendConnectionsDump_eq]
  split at reached
  next arrays =>
    rw [if_pos arrays]
    split at reached
    next success =>
      rw [if_pos success]
      refine dumpConnectionUpdate_reports.dumpConns_reached calls.update 0 _ ?_ reached
      have none : id ∉ (slotsAfterFailure (fun index => (calls.newConn index).succeed) 0
          pd.newConns).map (·.data) := by
        rw [slotsAfterFailure_of_success success]
        exact List.not_mem_nil
      grind
    next => grind
  next => grind

end Dump

theorem dumpConns_of_success {Calls : Type} {dump : Calls → Conn → Conn × Bool}
    {calls : Nat → Calls} (success : ∀ index data,
      dump (calls index) { data with pendingNotification := false } = (reportedConn data, true))
    (index : Nat) (pd : Pcapdroid) (slots : List ConnAndTuple) :
    dumpConns dump calls index pd slots = (slots.foldl
      (fun pd slot => pd.setConn slot.data (reportedConn (pd.conn slot.data))) pd, true) := by
  induction slots generalizing index pd with
  | nil => rfl
  | cons slot slots ih =>
    simp only [dumpConns, success]
    exact ih (index + 1) _

/-- Where every call succeeds, this is the dump of the capture engine. -/
theorem sendConnectionsDump_of_success {calls : DumpCalls} (arrays : calls.arrays = true)
    (newConn : ∀ index, calls.newConn index = ⟨true, true, ⟨true, true⟩, true⟩)
    (update : ∀ index, calls.update index = ⟨true, true⟩) (pd : Pcapdroid) :
    sendConnectionsDump calls pd = Core.sendConnectionsDump pd := by
  have newConns (index : Nat) (data : Conn) : dumpNewConnection (calls.newConn index)
      { data with pendingNotification := false } = (reportedConn data, true) := by
    rw [newConn]
    rfl
  have updates (index : Nat) (data : Conn) : dumpConnectionUpdate (calls.update index)
      { data with pendingNotification := false } = (reportedConn data, true) := by
    rw [update]
    rfl
  obtain ⟨heap, rest⟩ := report_rest pd pd.newConns
  unfold sendConnectionsDump Core.sendConnectionsDump
  rw [if_pos arrays, dumpConns_of_success newConns, List.foldl_append]
  dsimp only
  rw [if_pos rfl, dumpConns_of_success updates, rest]

/-! ## Connections that are still notified -/

/-- The connection has been created and not been freed. -/
def Live (pd : Pcapdroid) (id : ConnId) : Prop := id < pd.newConnId ∧ id ∉ freedConns pd

/-- The queued connections are distinct and live, and they are the live ones that are
pending. -/
structure QueueConsistent (pd : Pcapdroid) : Prop where
  once : (queuedConns pd).Nodup
  live : ∀ id ∈ queuedConns pd, Live pd id
  pending : ∀ id, Live pd id →
    ((pd.conn id).pendingNotification = true ↔ id ∈ queuedConns pd)

/-- The next notification queues the connection.  If it is closed by zdtun or expires in the
hash table, the next `conns_clear` frees it, whatever the JNI calls of that dump do. -/
structure StillNotified (pd : Pcapdroid) (id : ConnId) : Prop where
  idle : (pd.conn id).pendingNotification = false
  queued : ∀ platform tuple, id ∈ queuedConns (pdNotifyConnectionUpdate platform pd tuple id)
  closed : ∀ platform tuple status calls,
    id ∈ freedConns (reportConnections calls (connectionClosed platform pd tuple id status))
  expired : ∀ platform tuple calls,
    id ∈ freedConns (reportConnections calls (pdNotifyConnectionUpdate platform
      (pd.setConn id (expireConn (pd.conn id))) tuple id))

variable (calls : DumpCalls) (pd : Pcapdroid)

theorem reportConnections_freed :
    freedConns (reportConnections calls pd) =
      freedConns pd ++ (queuedConns pd).filter fun id => (pd.conn id).toPurge := by
  obtain ⟨heap, rest, same⟩ := sendConnectionsDump_rest calls pd
  unfold reportConnections
  rw [connsClear_freed, rest]
  have purged : purges false { pd with heap := heap } = fun id => (pd.conn id).toPurge := by
    funext id
    exact (Bool.or_false _).trans (same id)
  rw [purged]
  rfl

/-- A queued connection that is to be purged is freed with the queue. -/
theorem reportConnections_frees {pd : Pcapdroid} (queued : id ∈ queuedConns pd)
    (purge : (pd.conn id).toPurge = true) : id ∈ freedConns (reportConnections calls pd) := by
  rw [reportConnections_freed]
  grind

/-- A connection that is not pending is queued when it is notified. -/
theorem pdNotifyConnectionUpdate_queues {pd : Pcapdroid} (platform : Platform) (tuple : FiveTuple)
    (idle : (pd.conn id).pendingNotification = false) :
    id ∈ queuedConns (pdNotifyConnectionUpdate platform pd tuple id) := by
  have after : ((pdNotifyConnectionUpdate platform pd tuple id).conn id).pendingNotification =
      true := by
    rw [pdNotifyConnectionUpdate_conn]
    rfl
  cases (pdNotifyConnectionUpdate_worked platform pd tuple id).queue with
  | kept queue pending =>
    grind
  | queued queue _ _ => grind

theorem StillNotified.of_idle {pd : Pcapdroid} (idle : (pd.conn id).pendingNotification = false) :
    StillNotified pd id where
  idle := idle
  queued platform tuple := pdNotifyConnectionUpdate_queues platform tuple idle
  closed platform tuple status calls := by
    have marked : ((pd.setConn id (pd.conn id).markStats).conn id).pendingNotification =
        false := by
      rw [Pcapdroid.setConn_conn_self]
      exact idle
    refine reportConnections_frees calls
      (pdNotifyConnectionUpdate_queues platform tuple marked) ?_
    exact congrArg Conn.toPurge (Pcapdroid.setConn_conn_self _ id _)
  expired platform tuple calls := by
    have closed : ((pd.setConn id (expireConn (pd.conn id))).conn id).pendingNotification =
        false := by
      rw [Pcapdroid.setConn_conn_self, expireConn_pending]
      exact idle
    have purge : ((pd.setConn id (expireConn (pd.conn id))).conn id).toPurge = true := by
      rw [Pcapdroid.setConn_conn_self, expireConn_toPurge]
    refine reportConnections_frees calls
      (pdNotifyConnectionUpdate_queues platform tuple closed) ?_
    exact (pdNotifyConnectionUpdate_worked platform _ tuple id).own.toPurge.trans purge

theorem unreachedConns_subset :
    unreachedConns calls pd ⊆ pd.newConns ++ pd.connsUpdates := by
  unfold unreachedConns
  split
  · split
    · exact List.Subset.trans (slotsAfterFailure_suffix _ 0 pd.connsUpdates).subset
        (List.subset_append_right _ _)
    · exact List.append_subset.mpr
        ⟨List.Subset.trans (slotsAfterFailure_suffix _ 0 pd.newConns).subset
          (List.subset_append_left _ _), List.subset_append_right _ _⟩
  · exact List.Subset.refl _

theorem reportConnections_conn (id : ConnId) :
    (reportConnections calls pd).conn id = (sendConnectionsDump calls pd).conn id :=
  connsClear_conn false (sendConnectionsDump calls pd) id

theorem reportConnections_live (id : ConnId) :
    Live (reportConnections calls pd) id ↔
      Live pd id ∧ ¬(id ∈ queuedConns pd ∧ (pd.conn id).toPurge = true) := by
  have created : (reportConnections calls pd).newConnId = pd.newConnId := by
    obtain ⟨heap, rest, _⟩ := sendConnectionsDump_rest calls pd
    unfold reportConnections
    rw [connsClear_eq, rest]
  unfold Live
  rw [created, reportConnections_freed, List.mem_append, not_or, List.mem_filter, and_assoc]

/-- After a dump every live connection is notified again if and only if every queued
connection that the dump did not reach is one that is to be purged. -/
theorem dump_keeps_notifications_iff (calls : DumpCalls) (pd : Pcapdroid)
    (consistent : QueueConsistent pd) :
    (∀ id, Live (reportConnections calls pd) id →
        StillNotified (reportConnections calls pd) id) ↔
      ∀ slot ∈ unreachedConns calls pd, (pd.conn slot.data).toPurge = true := by
  constructor
  · intro notified slot unreached
    by_contra stayed
    have queued : slot.data ∈ queuedConns pd :=
      List.mem_map_of_mem (unreachedConns_subset calls pd unreached)
    have live := consistent.live slot.data queued
    have stays : Live (reportConnections calls pd) slot.data :=
      (reportConnections_live calls pd slot.data).mpr ⟨live, fun freed => stayed freed.2⟩
    -- the connection is as before the dump, so it is still pending
    have idle := (notified slot.data stays).idle
    rw [reportConnections_conn, sendConnectionsDump_unreached consistent.once
      (List.mem_map_of_mem unreached), (consistent.pending slot.data live).mpr queued] at idle
    exact Bool.noConfusion idle
  · intro purged id stays
    obtain ⟨live, kept⟩ := (reportConnections_live calls pd id).mp stays
    have reached : id ∉ (unreachedConns calls pd).map (·.data) := by
      intro member
      obtain ⟨slot, unreached, rfl⟩ := List.mem_map.mp member
      exact kept ⟨List.mem_map_of_mem (unreachedConns_subset calls pd unreached),
        purged slot unreached⟩
    apply StillNotified.of_idle
    rw [reportConnections_conn]
    refine sendConnectionsDump_reached ?_ reached
    cases pending : (pd.conn id).pendingNotification with
    | false => exact .inl rfl
    | true => exact .inr ((consistent.pending id live).mp pending)

/-- A capture with one connection, which is queued as a new one. -/
def oneConnection : Pcapdroid :=
  (pdNewConnection .inert .initial ⟨1, 2, 40000, 443, 4, ipprotoTcp⟩ 10001).1

def elementsSucceed (arrays : Bool) : DumpCalls where
  arrays := arrays
  newConn _ := ⟨true, true, ⟨true, true⟩, true⟩
  update _ := ⟨true, true⟩

theorem oneConnection_consistent : QueueConsistent oneConnection where
  once := by decide
  live id member := by
    obtain rfl : id = 0 := List.mem_singleton.mp member
    exact ⟨Nat.zero_lt_one, by decide⟩
  pending id live := by
    obtain rfl : id = 0 := Nat.lt_one_iff.mp live.1
    exact iff_of_true rfl (List.mem_singleton_self 0)

/-- No descriptor can be created. -/
def descriptorsFail : DumpCalls :=
  { elementsSucceed true with newConn _ := ⟨true, false, ⟨true, true⟩, true⟩ }

/-- The dump fails at the last connection of the queues, so it has reached them all. -/
theorem dump_failing_last_keeps_notifications : QueueConsistent oneConnection ∧
    (dumpConns dumpNewConnection descriptorsFail.newConn 0 oneConnection
      oneConnection.newConns).2 = false ∧
    ∀ id, Live (reportConnections descriptorsFail oneConnection) id →
      StillNotified (reportConnections descriptorsFail oneConnection) id :=
  ⟨oneConnection_consistent, by decide,
    (dump_keeps_notifications_iff descriptorsFail oneConnection
      oneConnection_consistent).mpr (by decide)⟩

/-- If no array can be created, the connection stays pending in no queue.  It is never
queued again, and not freed when it is closed. -/
theorem failed_arrays_lose_connection : QueueConsistent oneConnection ∧
    Live (reportConnections (elementsSucceed false) oneConnection) 0 ∧
    ((reportConnections (elementsSucceed false) oneConnection).conn 0).pendingNotification = true ∧
    queuedConns (pdNotifyConnectionUpdate .inert
      (reportConnections (elementsSucceed false) oneConnection)
      ⟨1, 2, 40000, 443, 4, ipprotoTcp⟩ 0) = [] ∧
    freedConns (reportConnections (elementsSucceed true) (connectionClosed .inert
      (reportConnections (elementsSucceed false) oneConnection)
      ⟨1, 2, 40000, 443, 4, ipprotoTcp⟩ 0 .closed)) = [] := by
  refine ⟨oneConnection_consistent, ⟨Nat.zero_lt_one, by decide⟩, rfl, by decide, by decide⟩

end PcapdroidFormal.Jni
