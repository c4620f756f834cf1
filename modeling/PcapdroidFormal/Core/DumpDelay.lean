import PcapdroidFormal.Core.Packets
import PcapdroidFormal.Firewall.Recheck
import PcapdroidFormal.Foundation.Runs

/-!
# The delay of the next dump

The first DNS request of netd delays the next dump of the connections, the last one whose app
is known removes the delay, and a dump starts over.
-/

namespace PcapdroidFormal.Core

open Foundation PcapdroidFormal.Firewall

/-- The first dump is due so long after the start of `pd_run`. -/
def firstDumpMs : UInt64 := 500

/-- `pd_housekeeping` gets to the dump of the connections. -/
def dumpDue (pd : Pcapdroid) : Bool :=
  !(pd.dumpCaptureStatsNow || (pd.captureStats.newStats &&
      decide (captureStatsUpdateFrequencyMs ≤ pd.nowMs - pd.captureStats.lastUpdateMs))) &&
    decide (pd.nextConnectionsDump ≤ pd.nowMs)

/-- The capture, and whether the connections have been dumped since its start. -/
structure DumpState where
  pd : Pcapdroid
  dumped : Bool

/-- The times `pd_run` starts with. -/
def DumpState.start (pd : Pcapdroid) : DumpState :=
  ⟨{ pd with
    lastConnectionsDump := pd.nowMs
    nextConnectionsDump := pd.nowMs + firstDumpMs
    netdResolveWaiting := 0 }, false⟩

inductive DumpCall where
  | performDpi (pctx : PktContext) (flow : NdpiFlow)
  | pdNewConnection (tuple : FiveTuple) (uid : Int)
  | pdHousekeeping (exported : Bool)
  /-- Anything else, which includes that time passes. -/
  | other (pd : Pcapdroid)

/-- Everything of the capture but the times of the dumps may change. -/
def Pcapdroid.keepDumpTimes (pd after : Pcapdroid) : Pcapdroid :=
  { after with
    lastConnectionsDump := pd.lastConnectionsDump
    nextConnectionsDump := pd.nextConnectionsDump
    netdResolveWaiting := pd.netdResolveWaiting }

def dumpStep (platform : Platform) (state : DumpState) : DumpCall → DumpState
  | .performDpi pctx flow => { state with pd := performDpi platform state.pd pctx flow }
  | .pdNewConnection tuple uid => { state with pd := (pdNewConnection platform state.pd tuple uid).1 }
  | .pdHousekeeping exported =>
    ⟨pdHousekeeping platform exported state.pd, state.dumped || dumpDue state.pd⟩
  | .other pd => { state with pd := state.pd.keepDumpTimes pd }

/-- When the next dump is due; requests that wait delay it once. -/
def deadline (dumped : Bool) (last : UInt64) (waiting : Nat) : UInt64 :=
  let due := last + if dumped then connectionDumpUpdateFrequencyMs else firstDumpMs
  match waiting with
  | 0 => due
  | _ + 1 => due + netdResolveDelayMs

structure DelayedOnce (dumped : Bool) (requests : Nat) (pd : Pcapdroid) : Prop where
  next : pd.nextConnectionsDump = deadline dumped pd.lastConnectionsDump pd.netdResolveWaiting
  waiting : pd.netdResolveWaiting ≤ requests

section Calls

variable {platform : Platform} {dumped : Bool} {requests : Nat} {pd after : Pcapdroid}

section

variable (delayed : DelayedOnce dumped requests pd)
include delayed

theorem DelayedOnce.touches {touched : List ConnId} (step : TouchesOnly touched pd after) :
    DelayedOnce dumped requests after := by
  obtain ⟨⟨_, _, _, rfl⟩, _⟩ := step
  exact ⟨delayed.next, delayed.waiting⟩

/-! ## Requests -/

theorem DelayedOnce.delayNetdDump (data : Conn) :
    DelayedOnce dumped (requests + 1) (delayNetdDump pd data) := by
  obtain ⟨next, waiting⟩ := delayed
  unfold Core.delayNetdDump
  split
  · refine ⟨?_, Nat.succ_le_succ waiting⟩
    simp only [Pcapdroid.setNetdDelay, next]
    cases pd.netdResolveWaiting <;> rfl
  · exact ⟨next, Nat.le_succ_of_le waiting⟩

theorem DelayedOnce.performDpi (pctx : PktContext) (flow : NdpiFlow) :
    DelayedOnce dumped (requests + 1) (performDpi platform pd pctx flow) := by
  have answered (query : Host) : DelayedOnce dumped requests
      (processDnsReply platform pd query pctx.pkt) := by
    unfold processDnsReply
    split <;> exact ⟨delayed.next, delayed.waiting⟩
  have completed {pd : Pcapdroid} {requests : Nat} (delayed : DelayedOnce dumped requests pd) :
      DelayedOnce dumped requests (completeDetection platform pd pctx.tuple pctx.data) := by
    simp only [completeDetection]
    split
    · exact (delayed.touches (setConn_touches pd _ _)).touches
        (pdNotifyConnectionUpdate_touches platform _ _ _)
    · exact delayed
  refine completed (.delayNetdDump (.touches ?_ (setConn_touches _ _ _)) _)
  split
  · exact answered _
  · exact delayed

theorem DelayedOnce.netdResolveDone : DelayedOnce dumped requests (netdResolveDone pd) := by
  obtain ⟨next, waiting⟩ := delayed
  unfold Core.netdResolveDone
  split
  · exact ⟨next, waiting⟩
  · split
    next last =>
      rw [last] at next
      exact ⟨by simp [next, deadline], Nat.zero_le _⟩
    next =>
      refine ⟨?_, Nat.le_trans (Nat.sub_le _ 1) waiting⟩
      obtain ⟨more, count⟩ : ∃ more, pd.netdResolveWaiting = more + 2 :=
        ⟨pd.netdResolveWaiting - 2, by omega⟩
      simp only [next, count]
      rfl

theorem DelayedOnce.resolveHost (tuple : FiveTuple) (uid : Int) (id : ConnId) :
    DelayedOnce dumped requests (resolveHost pd tuple uid id) := by
  have resolved (host : Host) (slots : List ConnAndTuple) {pd : Pcapdroid}
      (delayed : DelayedOnce dumped requests pd) :
      DelayedOnce dumped requests (slots.foldl (resolveNetdUid uid host) pd) := by
    induction slots generalizing pd with
    | nil => exact delayed
    | cons slot slots ih =>
      apply ih
      simp only [resolveNetdUid]
      split
      · exact (delayed.touches (setConn_touches pd _ _)).netdResolveDone
      · exact delayed
  simp only [Core.resolveHost]
  split
  · exact ⟨delayed.next, delayed.waiting⟩
  next host _ =>
    refine .touches ?_ (setConn_touches _ id _)
    split
    · exact ⟨delayed.next, delayed.waiting⟩
    · exact resolved host _ ⟨delayed.next, delayed.waiting⟩

theorem DelayedOnce.pdNewConnection (tuple : FiveTuple) (uid : Int) :
    DelayedOnce dumped requests (pdNewConnection platform pd tuple uid).1 := by
  have registered : DelayedOnce dumped requests (registerConnection platform pd tuple uid) := by
    rw [registerConnection_eq]
    exact ⟨delayed.next, delayed.waiting⟩
  obtain ⟨next, waiting⟩ := registered.resolveHost tuple uid pd.newConnId
  exact ⟨next, waiting⟩

end

/-! ## Dumps -/

theorem DelayedOnce.keptByInstalls :
    KeptByInstalls platform (DelayedOnce dumped requests) where
  setMalwareDetection _ delayed := ⟨delayed.next, delayed.waiting⟩
  setFirewall _ delayed := ⟨delayed.next, delayed.waiting⟩
  setTlsDecryption _ delayed := ⟨delayed.next, delayed.waiting⟩
  checkBlacklistedConnCb _ delayed := delayed.touches (checkBlacklistedConnCb_touches platform _ _ _)
  checkBlockedConnCb _ delayed := delayed.touches (checkBlockedConnCb_touches platform _ _ _)

theorem DelayedOnce.periodicTask (delayed : DelayedOnce dumped requests pd) (exported : Bool) :
    DelayedOnce (dumped || dumpDue pd) requests (periodicTask exported pd) := by
  have kept : DelayedOnce (dumped || false) requests pd := by rwa [Bool.or_false]
  simp only [Core.periodicTask, dumpDue]
  split
  next stats =>
    rw [stats]
    exact ⟨kept.next, kept.waiting⟩
  next idle =>
    rw [Bool.eq_false_iff.mpr idle]
    split
    next due =>
      rw [decide_eq_true due, Bool.not_false, Bool.and_true, Bool.or_true]
      exact ⟨rfl, Nat.zero_le _⟩
    next early =>
      rw [decide_eq_false early, Bool.and_false]
      unfold useNewBlacklists
      repeat' split
      all_goals exact ⟨kept.next, kept.waiting⟩

end Calls

theorem DelayedOnce.step {platform : Platform} {state : DumpState} {requests : Nat}
    (delayed : DelayedOnce state.dumped requests state.pd) (call : DumpCall) :
    DelayedOnce (dumpStep platform state call).dumped (requests + 1)
      (dumpStep platform state call).pd := by
  have more {dumped : Bool} {pd : Pcapdroid} (delayed : DelayedOnce dumped requests pd) :
      DelayedOnce dumped (requests + 1) pd := ⟨delayed.next, Nat.le_succ_of_le delayed.waiting⟩
  cases call with
  | performDpi pctx flow => exact delayed.performDpi pctx flow
  | pdNewConnection tuple uid => exact more (delayed.pdNewConnection tuple uid)
  | pdHousekeeping exported =>
    exact more (DelayedOnce.keptByInstalls.pdHousekeeping (delayed.periodicTask exported))
  | other pd => exact more ⟨delayed.next, delayed.waiting⟩

theorem DelayedOnce.run (platform : Platform) (pd : Pcapdroid) (calls : List DumpCall) :
    DelayedOnce (run (dumpStep platform) (.start pd) calls).dumped calls.length
      (run (dumpStep platform) (.start pd) calls).pd := by
  induction calls using List.reverseRecOn with
  | nil => exact ⟨rfl, Nat.le_refl 0⟩
  | append_singleton calls call ih =>
    rw [run_append, List.length_append]
    exact ih.step call

/-- In every state of a capture the next dump is delayed once while netd requests wait, and
never by more than two seconds after the last one. -/
theorem netd_delay_never_accumulates (platform : Platform) (pd : Pcapdroid)
    (calls : List DumpCall) :
    let state := Foundation.run (dumpStep platform) (.start pd) calls
    state.pd.nextConnectionsDump = state.pd.lastConnectionsDump +
        (if state.dumped then connectionDumpUpdateFrequencyMs else firstDumpMs) +
        (if 0 < state.pd.netdResolveWaiting then netdResolveDelayMs else 0) ∧
      state.pd.netdResolveWaiting ≤ calls.length ∧
      state.pd.nextConnectionsDump - state.pd.lastConnectionsDump ≤ 2000 := by
  intro state
  obtain ⟨next, waiting⟩ : DelayedOnce state.dumped calls.length state.pd := .run platform pd calls
  have apart (delay : UInt64) :
      state.pd.lastConnectionsDump + delay - state.pd.lastConnectionsDump = delay := by
    rw [UInt64.add_comm, UInt64.add_sub_cancel]
  rw [next]
  refine ⟨?_, waiting, ?_⟩
  · cases state.pd.netdResolveWaiting <;> simp [deadline]
  · cases state.dumped <;> cases state.pd.netdResolveWaiting <;>
      simp only [deadline, UInt64.add_assoc, apart] <;> decide

end PcapdroidFormal.Core
