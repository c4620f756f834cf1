import Mathlib.Data.List.Nodup
import PcapdroidFormal.Core.Connections

/-!
# What a step leaves alone

Callbacks on a connection change this connection, the queue of updates and the
trace.  The iteration over the active connections then visits each of them
once, in a state that has it as it was at the start.
-/

namespace PcapdroidFormal.Core

/-- Only these connections change; the queue of updates and the trace grow. -/
structure TouchesOnly (touched : List ConnId) (before after : Pcapdroid) : Prop where
  rest : ∃ heap updates effects, after =
    { before with
      heap := heap
      connsUpdates := before.connsUpdates ++ updates
      effects := before.effects ++ effects }
  frame : ∀ id, id ∉ touched → after.conn id = before.conn id

namespace TouchesOnly

variable {touched : List ConnId} {before after : Pcapdroid} {more : List ConnId} {last : Pcapdroid}

theorem refl (pd : Pcapdroid) : TouchesOnly [] pd pd := by
  refine ⟨⟨pd.heap, [], [], ?_⟩, fun _ _ => rfl⟩
  simp

theorem trans (first : TouchesOnly touched before after)
    (second : TouchesOnly more after last) : TouchesOnly (touched ++ more) before last := by
  obtain ⟨⟨_, updates, effects, rfl⟩, firstFrame⟩ := first
  obtain ⟨⟨heap, moreUpdates, moreEffects, rfl⟩, secondFrame⟩ := second
  refine ⟨⟨heap, updates ++ moreUpdates, effects ++ moreEffects, ?_⟩, ?_⟩
  · grind
  · grind

theorem mono (step : TouchesOnly touched before after)
    (included : touched ⊆ more) : TouchesOnly more before after :=
  ⟨step.rest, fun id untouched => step.frame id fun member => untouched (included member)⟩

/-- Two steps on the same connection. -/
theorem again {id : ConnId} (first : TouchesOnly [id] before after)
    (second : TouchesOnly [id] after last) : TouchesOnly [id] before last :=
  (first.trans second).mono
    (List.append_subset.mpr ⟨List.Subset.refl [id], List.Subset.refl [id]⟩)

variable (step : TouchesOnly touched before after)
include step

theorem firewall : after.firewall = before.firewall := by
  obtain ⟨⟨_, _, _, rfl⟩, _⟩ := step
  rfl

theorem malwareDetection : after.malwareDetection = before.malwareDetection := by
  obtain ⟨⟨_, _, _, rfl⟩, _⟩ := step
  rfl

theorem tlsDecryption : after.tlsDecryption = before.tlsDecryption := by
  obtain ⟨⟨_, _, _, rfl⟩, _⟩ := step
  rfl

theorem vpnCapture : after.vpnCapture = before.vpnCapture := by
  obtain ⟨⟨_, _, _, rfl⟩, _⟩ := step
  rfl

theorem connections : after.connections = before.connections := by
  obtain ⟨⟨_, _, _, rfl⟩, _⟩ := step
  rfl

theorem newConnId : after.newConnId = before.newConnId := by
  obtain ⟨⟨_, _, _, rfl⟩, _⟩ := step
  rfl

theorem newConns : after.newConns = before.newConns := by
  obtain ⟨⟨_, _, _, rfl⟩, _⟩ := step
  rfl

theorem connsUpdates : ∃ updates, after.connsUpdates = before.connsUpdates ++ updates := by
  obtain ⟨⟨_, updates, _, rfl⟩, _⟩ := step
  exact ⟨updates, rfl⟩

end TouchesOnly

section

variable (platform : Platform) (pd : Pcapdroid) (tuple : FiveTuple) (id : ConnId) {data : Conn}

theorem setConn_touches (data : Conn) :
    TouchesOnly [id] pd (pd.setConn id data) := by
  refine ⟨⟨(pd.setConn id data).heap, [], [], ?_⟩, ?_⟩
  · rw [List.append_nil, List.append_nil]
    rfl
  · intro other untouched
    exact Pcapdroid.setConn_conn_other _ _ (List.ne_of_not_mem_cons untouched)

theorem emit_touches (effect : Effect) : TouchesOnly [] pd (pd.emit effect) := by
  refine ⟨⟨pd.heap, [], [effect], ?_⟩, fun _ _ => rfl⟩
  rw [List.append_nil]
  rfl

theorem enqueue_touches (slot : ConnAndTuple) :
    TouchesOnly [] pd (enqueue pd .connsUpdates slot) := by
  refine ⟨⟨pd.heap, [slot], [], ?_⟩, fun _ _ => rfl⟩
  rw [List.append_nil]
  rfl

/-! ## Notifications -/

/-- The connection is in one of the queues. -/
def Queued (pd : Pcapdroid) (id : ConnId) : Prop :=
  ∃ slot ∈ pd.newConns ++ pd.connsUpdates, slot.data = id

theorem TouchesOnly.queued {touched : List ConnId} {before after : Pcapdroid} {id : ConnId}
    (step : TouchesOnly touched before after) (queued : Queued before id) : Queued after id := by
  obtain ⟨slot, member, same⟩ := queued
  obtain ⟨updates, grown⟩ := step.connsUpdates
  refine ⟨slot, ?_, same⟩
  rw [step.newConns, grown, ← List.append_assoc]
  grind

theorem Conn.markPending_of_pending (pending : data.pendingNotification = true) :
    data.markPending = data := by
  unfold Conn.markPending
  rw [← pending]

/-- What `notif_connection` makes of a connection; a closed one gives up on its DPI. -/
def notifiedConn (platform : Platform) (pd : Pcapdroid) (tuple : FiveTuple) (data : Conn) : Conn :=
  (if data.status.isClosed then pdGiveupDpi platform pd tuple data else data).markPending

theorem notifiedConn_of_open (active : data.status.isClosed = false) :
    notifiedConn platform pd tuple data = data.markPending := by
  unfold notifiedConn
  rw [active]
  rfl

theorem pdNotifyConnectionUpdate_conn :
    (pdNotifyConnectionUpdate platform pd tuple id).conn id =
      notifiedConn platform pd tuple (pd.conn id) := by
  simp only [pdNotifyConnectionUpdate, notifConnection, notifiedConn]
  generalize (if (pd.conn id).status.isClosed = true then pdGiveupDpi platform pd tuple (pd.conn id)
    else pd.conn id) = data
  by_cases pending : data.pendingNotification = true
  · rw [if_pos pending, Pcapdroid.setConn_conn_self, Conn.markPending_of_pending pending]
  · rw [if_neg pending, Pcapdroid.setConn_conn_self]

theorem pdNotifyConnectionUpdate_touches :
    TouchesOnly [id] pd (pdNotifyConnectionUpdate platform pd tuple id) := by
  simp only [pdNotifyConnectionUpdate, notifConnection]
  generalize (if (pd.conn id).status.isClosed = true then pdGiveupDpi platform pd tuple (pd.conn id)
    else pd.conn id) = data
  by_cases pending : data.pendingNotification = true
  · rw [if_pos pending]
    exact setConn_touches pd id data
  · rw [if_neg pending]
    exact (enqueue_touches pd ⟨tuple, id⟩).trans (setConn_touches _ id data.markPending)

/-- A notified connection is queued, now or before. -/
theorem pdNotifyConnectionUpdate_queued (active : (pd.conn id).status.isClosed = false)
    (pending : (pd.conn id).pendingNotification = true → Queued pd id) :
    Queued (pdNotifyConnectionUpdate platform pd tuple id) id := by
  by_cases already : (pd.conn id).pendingNotification = true
  · exact (pdNotifyConnectionUpdate_touches platform pd tuple id).queued (pending already)
  · simp only [pdNotifyConnectionUpdate, notifConnection, active, Bool.false_eq_true, if_false,
      if_neg already]
    refine ⟨⟨tuple, id⟩, ?_, rfl⟩
    exact List.mem_append_right _ (List.mem_append_right _ (List.mem_singleton_self _))

theorem connectionClosed_touches (status : ConnStatus) :
    TouchesOnly [id] pd (connectionClosed platform pd tuple id status) := by
  have marked := setConn_touches pd id (pd.conn id).markStats
  have notified := marked.again
    (pdNotifyConnectionUpdate_touches platform (pd.setConn id (pd.conn id).markStats) tuple id)
  exact notified.again (setConn_touches _ id _)

end

/-! ## Active connections -/

section Iteration

variable {callback : Pcapdroid → FiveTuple → ConnId → Pcapdroid}
  (each : ∀ pd tuple id, TouchesOnly [id] pd (callback pd tuple id)) {pd : Pcapdroid}

include each

theorem foldl_touches (pd : Pcapdroid) (slots : List ConnAndTuple) :
    TouchesOnly (slots.map (·.data)) pd
      (slots.foldl (fun pd slot => callback pd slot.tuple slot.data) pd) := by
  induction slots generalizing pd with
  | nil => exact .refl pd
  | cons slot slots ih => exact (each pd slot.tuple slot.data).trans (ih _)

/-- A relation that the callback keeps between a connection before and after. -/
theorem foldl_conns {Kept : Conn → Conn → Prop} (refl : ∀ data, Kept data data)
    (trans : ∀ first second third, Kept first second → Kept second third → Kept first third)
    (own : ∀ pd tuple id, Kept (pd.conn id) ((callback pd tuple id).conn id))
    (pd : Pcapdroid) (slots : List ConnAndTuple) (id : ConnId) :
    Kept (pd.conn id)
      ((slots.foldl (fun pd slot => callback pd slot.tuple slot.data) pd).conn id) := by
  induction slots generalizing pd with
  | nil => exact refl (pd.conn id)
  | cons slot slots ih =>
    refine trans _ ((callback pd slot.tuple slot.data).conn id) _ ?_ (ih _)
    by_cases same : id = slot.data
    · grind
    · rw [(each pd slot.tuple slot.data).frame id (mt List.mem_singleton.mp same)]
      exact refl (pd.conn id)

theorem iterActiveConnections_touches (pd : Pcapdroid) :
    TouchesOnly (pd.connections.map (·.data)) pd (iterActiveConnections pd callback) :=
  foldl_touches each pd pd.connections

/-- An invariant that the callback keeps on the active connections. -/
theorem iterActiveConnections_invariant {Inv : Pcapdroid → Prop}
    (kept : ∀ {pd : Pcapdroid} {slot : ConnAndTuple}, slot ∈ pd.connections → Inv pd →
      Inv (callback pd slot.tuple slot.data))
    (inv : Inv pd) : Inv (iterActiveConnections pd callback) := by
  have loop (slots : List ConnAndTuple) {pd : Pcapdroid}
      (active : ∀ slot ∈ slots, slot ∈ pd.connections) (inv : Inv pd) :
      Inv (slots.foldl (fun pd slot => callback pd slot.tuple slot.data) pd) := by
    induction slots generalizing pd with
    | nil => exact inv
    | cons slot slots ih =>
      rw [List.forall_mem_cons] at active
      apply ih _ (kept active.1 inv)
      rw [(each pd slot.tuple slot.data).connections]
      exact active.2
  exact loop pd.connections (fun _ member => member) inv

/-- The iteration visits an active connection once and leaves it alone otherwise. -/
theorem iterActiveConnections_visits {slot : ConnAndTuple}
    (distinct : (pd.connections.map (·.data)).Nodup) (active : slot ∈ pd.connections) :
    ∃ earlier later visited, TouchesOnly earlier pd visited ∧ slot.data ∉ earlier ∧
      TouchesOnly later (callback visited slot.tuple slot.data)
        (iterActiveConnections pd callback) ∧ slot.data ∉ later := by
  obtain ⟨first, second, split⟩ := List.append_of_mem active
  rw [split, List.map_append, List.map_cons] at distinct
  have apart := List.nodup_middle.mp distinct
  have absent := (List.nodup_cons.mp apart).1
  rw [List.mem_append, not_or] at absent
  refine ⟨first.map (·.data), second.map (·.data), _, foldl_touches each pd first, absent.1, ?_,
    absent.2⟩
  unfold iterActiveConnections
  rw [split, List.foldl_append, List.foldl_cons]
  exact foldl_touches each _ second

end Iteration

/-! ## Periodic tasks -/

/-- The times and the requests of the periodic tasks. -/
structure TaskFields where
  dumpCaptureStatsNow : Bool
  newStats : Bool
  lastUpdateMs : UInt64
  lastConnectionsDump : UInt64
  nextConnectionsDump : UInt64
  netdResolveWaiting : Nat
  reloadBlacklistsNow : Bool
  bl : Option Blacklist
  newBl : Option Blacklist
  reloadInProgress : Bool
  reloadDone : Bool

namespace Pcapdroid

variable (pd : Pcapdroid)

def taskFields : TaskFields where
  dumpCaptureStatsNow := pd.dumpCaptureStatsNow
  newStats := pd.captureStats.newStats
  lastUpdateMs := pd.captureStats.lastUpdateMs
  lastConnectionsDump := pd.lastConnectionsDump
  nextConnectionsDump := pd.nextConnectionsDump
  netdResolveWaiting := pd.netdResolveWaiting
  reloadBlacklistsNow := pd.reloadBlacklistsNow
  bl := pd.malwareDetection.bl
  newBl := pd.malwareDetection.newBl
  reloadInProgress := pd.malwareDetection.reloadInProgress
  reloadDone := pd.malwareDetection.reloadDone

def setTaskFields (fields : TaskFields) : Pcapdroid :=
  { pd with
    dumpCaptureStatsNow := fields.dumpCaptureStatsNow
    captureStats := { pd.captureStats with
      newStats := fields.newStats, lastUpdateMs := fields.lastUpdateMs }
    lastConnectionsDump := fields.lastConnectionsDump
    nextConnectionsDump := fields.nextConnectionsDump
    netdResolveWaiting := fields.netdResolveWaiting
    reloadBlacklistsNow := fields.reloadBlacklistsNow
    malwareDetection := { pd.malwareDetection with
      bl := fields.bl
      newBl := fields.newBl
      reloadInProgress := fields.reloadInProgress
      reloadDone := fields.reloadDone } }

theorem setTaskFields_taskFields : pd.setTaskFields pd.taskFields = pd := rfl

end Pcapdroid

theorem useNewBlacklists_eq (pd : Pcapdroid) :
    ∃ fields, useNewBlacklists pd = pd.setTaskFields fields := by
  unfold useNewBlacklists
  cases pd.malwareDetection.newBl with
  | none => exact ⟨pd.taskFields, pd.setTaskFields_taskFields.symm⟩
  | some bl => exact ⟨{ pd.taskFields with bl := some bl, newBl := none }, rfl⟩

/-- A periodic task sets its own fields; the dump reports the connections before it does. -/
theorem periodicTask_eq (exported : Bool) (pd : Pcapdroid) :
    ∃ fields, periodicTask exported pd = pd.setTaskFields fields ∨
      periodicTask exported pd =
        (connsClear false (sendConnectionsDump pd)).setTaskFields fields := by
  have idle : ∃ fields, pd = pd.setTaskFields fields ∨
      pd = (connsClear false (sendConnectionsDump pd)).setTaskFields fields :=
    ⟨pd.taskFields, .inl pd.setTaskFields_taskFields.symm⟩
  simp only [periodicTask]
  split
  next =>
    exact ⟨{ pd.taskFields with
      dumpCaptureStatsNow := false, newStats := false, lastUpdateMs := pd.nowMs }, .inl rfl⟩
  next =>
    split
    next =>
      split
      next =>
        exact ⟨{ pd.taskFields with
          lastConnectionsDump := pd.nowMs
          nextConnectionsDump := pd.nowMs + connectionDumpUpdateFrequencyMs
          netdResolveWaiting := 0 }, .inl rfl⟩
      next =>
        generalize connsClear false (sendConnectionsDump pd) = dumped
        exact ⟨{ dumped.taskFields with
          lastConnectionsDump := dumped.nowMs
          nextConnectionsDump := dumped.nowMs + connectionDumpUpdateFrequencyMs
          netdResolveWaiting := 0 }, .inr rfl⟩
    next =>
      split
      next => exact idle
      next =>
        split
        next =>
          split
          next =>
            split
            next =>
              obtain ⟨fields, joined⟩ := useNewBlacklists_eq
                (pd.setMalwareDetection { pd.malwareDetection with reloadInProgress := false })
              exact ⟨fields, .inl joined⟩
            next => exact idle
          next =>
            split
            next =>
              exact ⟨{ pd.taskFields with
                reloadBlacklistsNow := false
                reloadDone := false
                newBl := none
                reloadInProgress := true }, .inl rfl⟩
            next => exact idle
        next => exact idle

/-- The connection is the same up to having been reported. -/
def Reported (before after : Conn) : Prop := after = before ∨ after = reportedConn before

theorem reportedConn_reportedConn (data : Conn) :
    reportedConn (reportedConn data) = reportedConn data := by
  simp [reportedConn, UpdateType.none]

theorem Reported.trans {first second third : Conn} (earlier : Reported first second)
    (later : Reported second third) : Reported first third := by
  rcases earlier with rfl | rfl
  · exact later
  · rcases later with rfl | rfl
    · exact .inr rfl
    · exact .inr (reportedConn_reportedConn first)

/-- A periodic task reports connections; it requests and installs no list that the
firewall or the malware whitelist depend on. -/
structure PeriodicStep (before after : Pcapdroid) : Prop where
  newConnId : after.newConnId = before.newConnId
  connections : after.connections = before.connections
  vpnCapture : after.vpnCapture = before.vpnCapture
  firewall : after.firewall = before.firewall
  malwareEnabled : after.malwareDetection.enabled = before.malwareDetection.enabled
  whitelist : after.malwareDetection.whitelist = before.malwareDetection.whitelist
  newWl : after.malwareDetection.newWl = before.malwareDetection.newWl
  tlsDecryption : after.tlsDecryption = before.tlsDecryption
  conns : ∀ id, Reported (before.conn id) (after.conn id)

namespace PeriodicStep

variable {first second third : Pcapdroid}

theorem refl (pd : Pcapdroid) : PeriodicStep pd pd :=
  ⟨rfl, rfl, rfl, rfl, rfl, rfl, rfl, rfl, fun _ => .inl rfl⟩

theorem trans (earlier : PeriodicStep first second) (later : PeriodicStep second third) :
    PeriodicStep first third where
  newConnId := later.newConnId.trans earlier.newConnId
  connections := later.connections.trans earlier.connections
  vpnCapture := later.vpnCapture.trans earlier.vpnCapture
  firewall := later.firewall.trans earlier.firewall
  malwareEnabled := later.malwareEnabled.trans earlier.malwareEnabled
  whitelist := later.whitelist.trans earlier.whitelist
  newWl := later.newWl.trans earlier.newWl
  tlsDecryption := later.tlsDecryption.trans earlier.tlsDecryption
  conns id := (earlier.conns id).trans (later.conns id)

end PeriodicStep

variable (exported freeAll : Bool) (pd : Pcapdroid) (queue : List ConnAndTuple) (id : ConnId)

theorem reportConn_periodicStep :
    PeriodicStep pd (pd.setConn id (reportedConn (pd.conn id))) := by
  refine ⟨rfl, rfl, rfl, rfl, rfl, rfl, rfl, rfl, ?_⟩
  exact fun other => Pcapdroid.setConn_cases (.inr rfl) (fun _ _ => .inl rfl) other

theorem sendConnectionsDump_periodicStep :
    PeriodicStep pd (sendConnectionsDump pd) := by
  unfold sendConnectionsDump
  generalize pd.newConns ++ pd.connsUpdates = slots
  induction slots generalizing pd with
  | nil => exact .refl pd
  | cons slot slots ih => exact (reportConn_periodicStep pd slot.data).trans (ih _)

theorem purgeQueue_periodicStep :
    PeriodicStep pd (purgeQueue freeAll pd queue) := by
  induction queue generalizing pd with
  | nil => exact .refl pd
  | cons slot queue ih =>
    refine PeriodicStep.trans ?_ (ih _)
    dsimp only
    split
    · exact ⟨rfl, rfl, rfl, rfl, rfl, rfl, rfl, rfl, fun _ => .inl rfl⟩
    · exact .refl pd

theorem connsClear_periodicStep :
    PeriodicStep pd (connsClear freeAll pd) := by
  have newConns := purgeQueue_periodicStep freeAll pd pd.newConns
  have cleared : PeriodicStep (purgeQueue freeAll pd pd.newConns)
      { purgeQueue freeAll pd pd.newConns with newConns := [] } :=
    ⟨rfl, rfl, rfl, rfl, rfl, rfl, rfl, rfl, fun _ => .inl rfl⟩
  have updates := purgeQueue_periodicStep freeAll
    { purgeQueue freeAll pd pd.newConns with newConns := [] }
    (purgeQueue freeAll pd pd.newConns).connsUpdates
  have last : PeriodicStep _ (connsClear freeAll pd) :=
    (⟨rfl, rfl, rfl, rfl, rfl, rfl, rfl, rfl, fun _ => .inl rfl⟩ : PeriodicStep
      (purgeQueue freeAll { purgeQueue freeAll pd pd.newConns with newConns := [] }
        (purgeQueue freeAll pd pd.newConns).connsUpdates) (connsClear freeAll pd))
  exact ((newConns.trans cleared).trans updates).trans last

theorem setTaskFields_periodicStep (fields : TaskFields) :
    PeriodicStep pd (pd.setTaskFields fields) :=
  ⟨rfl, rfl, rfl, rfl, rfl, rfl, rfl, rfl, fun _ => .inl rfl⟩

theorem periodicTask_periodicStep :
    PeriodicStep pd (periodicTask exported pd) := by
  obtain ⟨fields, same | dumped⟩ := periodicTask_eq exported pd
  · rw [same]
    exact setTaskFields_periodicStep pd fields
  · have cleared := (sendConnectionsDump_periodicStep pd).trans
      (connsClear_periodicStep false (sendConnectionsDump pd))
    rw [dumped]
    exact cleared.trans (setTaskFields_periodicStep _ fields)

/-! ## Pending notifications -/

/-- A connection with a pending notification is in a queue. -/
def PendingQueued (pd : Pcapdroid) (id : ConnId) : Prop :=
  (pd.conn id).pendingNotification = true → Queued pd id

/-- The report takes every connection out of the queues. -/
theorem report_pending (slots : List ConnAndTuple) (id : ConnId)
    (idle : (pd.conn id).pendingNotification = false ∨ ∃ slot ∈ slots, slot.data = id) :
    ((slots.foldl (fun pd slot => pd.setConn slot.data (reportedConn (pd.conn slot.data))) pd).conn
      id).pendingNotification = false := by
  induction slots generalizing pd with
  | nil =>
    grind
  | cons first slots ih =>
    refine ih _ ?_
    by_cases own : id = first.data
    · left
      subst own
      rw [Pcapdroid.setConn_conn_self]
      rfl
    · rw [Pcapdroid.setConn_conn_other _ _ own]
      grind

theorem sendConnectionsDump_pending {pd : Pcapdroid} {id : ConnId}
    (queued : PendingQueued pd id) :
    ((sendConnectionsDump pd).conn id).pendingNotification = false := by
  refine report_pending pd (pd.newConns ++ pd.connsUpdates) id ?_
  cases pending : (pd.conn id).pendingNotification with
  | false => exact .inl rfl
  | true => exact .inr (queued pending)

theorem purgeQueue_conn : (purgeQueue freeAll pd queue).conn id = pd.conn id := by
  induction queue generalizing pd with
  | nil => rfl
  | cons slot queue ih =>
    refine (ih _).trans ?_
    dsimp only
    split <;> rfl

theorem connsClear_conn :
    (connsClear freeAll pd).conn id = pd.conn id :=
  (purgeQueue_conn freeAll _ _ id).trans (purgeQueue_conn freeAll pd pd.newConns id)

theorem periodicTask_pendingQueued {pd : Pcapdroid} {id : ConnId}
    (queued : PendingQueued pd id) : PendingQueued (periodicTask exported pd) id := by
  obtain ⟨fields, same | dumped⟩ := periodicTask_eq exported pd
  · rw [same]
    exact queued
  · rw [dumped]
    intro pending
    have idle := sendConnectionsDump_pending queued
    rw [← connsClear_conn false] at idle
    exact absurd (idle.symm.trans pending) Bool.false_ne_true

end PcapdroidFormal.Core
