import PcapdroidFormal.Firewall.Examined
import PcapdroidFormal.Foundation.GrowArray
import PcapdroidFormal.Foundation.Runs

/-!
# The arrays behind the queues

`notif_connection` keeps a queue in an array.  It doubles the size before it knows that the
reallocation succeeds, and overwrites the only pointer to the old block with its result.
-/

namespace PcapdroidFormal.Core.QueueArray

open Foundation

/-- `conn_array_t` -/
abbrev ConnArray := GrowArray ConnAndTuple

section Model

variable (platform : Platform)

/-- The detection ends when the connection is closed. -/
def endDetection (pd : Pcapdroid) (slot : ConnAndTuple) : Conn :=
  let data := pd.conn slot.data
  if data.status.isClosed then pdGiveupDpi platform pd slot.tuple data else data

/-- The end of `notif_connection`: the slot is written and the connection marked. -/
def fillSlot (pd : Pcapdroid) (arr : ConnArray) (slot : ConnAndTuple) :
    Option (Pcapdroid × ConnArray × Int) :=
  (arr.push slot).map fun arr => (pd.setConn slot.data (pd.conn slot.data).markPending, arr, 0)

/-- `notif_connection`, with the outcome of `pd_realloc` and the value that is returned; none
stands for a write outside of the block or an overflow. -/
def notifConnection (pd : Pcapdroid) (arr : ConnArray) (slot : ConnAndTuple) (granted : Bool) :
    Option (Pcapdroid × ConnArray × Int) :=
  let data := endDetection platform pd slot
  let pd := pd.setConn slot.data data
  if data.pendingNotification then some (pd, arr, 0)
  else if arr.size ≤ arr.curItems then
    (GrowArray.grownSize arr.size).bind fun size =>
      if granted then fillSlot pd (arr.realloc size true) slot
      else some (pd, arr.realloc size false, -1)
  else fillSlot pd arr slot

/-- The connections `conns_clear` finds; nothing is read through a null pointer. -/
def found (arr : ConnArray) : List ConnAndTuple := (arr.slots.take arr.curItems).filterMap id

/-- `conns_clear` -/
def connsClear (freeAll : Bool) (pd : Pcapdroid) (arr : ConnArray) : Pcapdroid × ConnArray :=
  (purgeQueue freeAll pd (found arr), .empty)

/-- A queue, and the connections that were marked for it since it was last cleared. -/
structure QueueState where
  pd : Pcapdroid
  arr : ConnArray
  queued : List ConnAndTuple

inductive QueueCall where
  | notify (slot : ConnAndTuple) (granted : Bool)
  | clear (freeAll : Bool)
  /-- Anything else that happens to the capture. -/
  | other (pd : Pcapdroid)

def step : Option QueueState → QueueCall → Option QueueState
  | none, _ => none
  | some state, .notify slot granted =>
    (notifConnection platform state.pd state.arr slot granted).map fun (pd, arr, returned) =>
      ⟨pd, arr,
        if returned = 0 ∧ (state.pd.conn slot.data).pendingNotification = false ∧
            (pd.conn slot.data).pendingNotification = true then state.queued ++ [slot]
        else state.queued⟩
  | some state, .clear freeAll =>
    let cleared := connsClear freeAll state.pd state.arr
    some ⟨cleared.1, cleared.2, []⟩
  | some state, .other pd => some { state with pd := pd }

end Model

/-- Nothing was written outside of the block, which is as large as it should be, and
`conns_clear` finds the connections that were queued. -/
def Harmless (state : Option QueueState) : Prop :=
  ∃ queue, state = some queue ∧ queue.arr.Sound queue.queued ∧ found queue.arr = queue.queued

/-- If the array has to grow, the reallocation succeeds and the size remains an `int`. -/
def Granted : Option QueueState → QueueCall → Prop
  | some state, .notify slot granted =>
    (state.pd.conn slot.data).pendingNotification = false → state.arr.size ≤ state.arr.curItems →
      granted = true ∧ (GrowArray.grownSize state.arr.size).isSome = true
  | _, _ => True

variable {platform : Platform} {pd : Pcapdroid} {arr : ConnArray} {slot : ConnAndTuple}
  {queued : List ConnAndTuple} {granted : Bool}

theorem found_of_sound (sound : arr.Sound queued) : found arr = queued := by
  simp [found, sound.kept]

theorem endDetection_pending (platform : Platform) (pd : Pcapdroid) (slot : ConnAndTuple) :
    (endDetection platform pd slot).pendingNotification =
      (pd.conn slot.data).pendingNotification := by
  simp only [endDetection]
  split
  · exact (PcapdroidFormal.Firewall.pdGiveupDpi_examined platform pd slot.tuple _).pending
  · rfl

theorem fillSlot_of_sound (data : Conn) (sound : arr.Sound queued)
    (room : arr.curItems < arr.size) :
    ∃ next, fillSlot (pd.setConn slot.data data) arr slot =
        some (pd.setConn slot.data data.markPending, next, 0) ∧ next.Sound (queued ++ [slot]) := by
  obtain ⟨next, pushed, -, stored⟩ := sound.push room slot
  exact ⟨next, by simp [fillSlot, pushed], stored⟩

/-- A connection is queued once, if the array is sound and can grow. -/
theorem notifConnection_of_granted (sound : arr.Sound queued)
    (grows : Granted (some ⟨pd, arr, queued⟩) (.notify slot granted)) :
    ∃ next, notifConnection platform pd arr slot granted =
        some (pd.setConn slot.data (endDetection platform pd slot).markPending, next, 0) ∧
      next.Sound
        (if (pd.conn slot.data).pendingNotification = false then queued ++ [slot]
        else queued) := by
  have marked := endDetection_pending platform pd slot
  simp only [notifConnection, marked]
  cases pending : (pd.conn slot.data).pendingNotification with
  | true =>
    rw [Conn.markPending_of_pending (marked.trans pending)]
    exact ⟨arr, rfl, sound⟩
  | false =>
    by_cases full : arr.size ≤ arr.curItems
    · obtain ⟨rfl, fits⟩ := grows pending full
      obtain ⟨size, grown⟩ := Option.isSome_iff_exists.mp fits
      have more := GrowArray.lt_of_grownSize grown
      simpa [full, grown] using fillSlot_of_sound (endDetection platform pd slot)
        (sound.realloc (Nat.le_of_lt more)) (Nat.lt_of_le_of_lt sound.bounded more)
    · simpa [full] using fillSlot_of_sound (endDetection platform pd slot) sound
        (Nat.lt_of_not_le full)

def queueOf (pd : Pcapdroid) : ConnQueue → List ConnAndTuple
  | .newConns => pd.newConns
  | .connsUpdates => pd.connsUpdates

/-- An array that can grow refines the queue of the capture. -/
theorem notifConnection_refines (queue : ConnQueue) (sound : arr.Sound (queueOf pd queue))
    (grows : Granted (some ⟨pd, arr, queueOf pd queue⟩) (.notify slot granted)) :
    ∃ pd' next, notifConnection platform pd arr slot granted = some (pd', next, 0) ∧
      pd'.heap = (Core.notifConnection platform queue pd slot.tuple slot.data).heap ∧
      next.Sound (queueOf (Core.notifConnection platform queue pd slot.tuple slot.data) queue) := by
  obtain ⟨next, done, stored⟩ := @notifConnection_of_granted platform _ _ _ _ _ sound grows
  have marked := endDetection_pending platform pd slot
  refine ⟨_, next, done, ?_⟩
  cases pending : (pd.conn slot.data).pendingNotification with
  | true =>
    rw [pending] at marked stored
    have same : Core.notifConnection platform queue pd slot.tuple slot.data =
      pd.setConn slot.data (endDetection platform pd slot) := if_pos marked
    rw [same, Conn.markPending_of_pending marked]
    exact ⟨rfl, by cases queue <;> exact stored⟩
  | false =>
    rw [pending] at marked stored
    have same : Core.notifConnection platform queue pd slot.tuple slot.data =
      (enqueue pd queue slot).setConn slot.data (endDetection platform pd slot).markPending :=
        if_neg (Bool.eq_false_iff.mp marked)
    rw [same]
    cases queue with
    | newConns => exact ⟨rfl, stored⟩
    | connsUpdates => exact ⟨rfl, stored⟩

def numberedSlot (id : ConnId) : ConnAndTuple := ⟨⟨1, 2, 40000, 443, 4, ipprotoTcp⟩, id⟩

/-- The eight slots of the array are in use, so it grows for the next connection. -/
theorem ninth_connection_is_queued :
    let queued := (List.range 8).map numberedSlot
    ∃ pd next, notifConnection .inert { Pcapdroid.initial with newConns := queued }
        ⟨some (queued.map some), 8, 8⟩ (numberedSlot 8) true = some (pd, next, 0) ∧
      next.Sound (queued ++ [numberedSlot 8]) := by
  intro queued
  obtain ⟨pd, next, done, _, sound⟩ := @notifConnection_refines .inert
    { Pcapdroid.initial with newConns := queued } ⟨some (queued.map some), 8, 8⟩ (numberedSlot 8)
    true .newConns ⟨rfl, Nat.le_refl 8, Nat.le_refl 8, rfl⟩ fun _ _ => ⟨rfl, rfl⟩
  exact ⟨pd, next, done, sound⟩

/-- A queue that had to grow and could not is harmful. -/
theorem granted_of_harmless {state : QueueState}
    (harmless : Harmless (step platform (some state) (.notify slot granted))) :
    Granted (some state) (.notify slot granted) := by
  obtain ⟨next, stepped, sound, -⟩ := harmless
  intro idle full
  cases grown : GrowArray.grownSize state.arr.size with
  | none => simp [step, notifConnection, endDetection_pending, idle, full, grown] at stepped
  | some size =>
    refine ⟨?_, rfl⟩
    cases granted with
    | true => rfl
    | false =>
      simp only [step, notifConnection, endDetection_pending, idle, full, grown, if_pos,
        Option.bind_some, Option.map_some, Option.some.injEq, Bool.false_eq_true, if_false] at stepped
      rw [← stepped] at sound
      exact absurd (GrowArray.lt_of_grownSize grown)
        (Nat.not_lt.mpr (Nat.le_trans sound.allocated (Nat.zero_le _)))

theorem step_harmless_iff (state : Option QueueState) (call : QueueCall)
    (harmless : Harmless state) : Harmless (step platform state call) ↔ Granted state call := by
  obtain ⟨state, rfl, sound, -⟩ := harmless
  cases call with
  | clear freeAll => exact ⟨fun _ => trivial, fun _ => ⟨_, rfl, .empty, rfl⟩⟩
  | other pd => exact ⟨fun _ => trivial, fun _ => ⟨_, rfl, sound, found_of_sound sound⟩⟩
  | notify slot granted =>
    refine ⟨granted_of_harmless, fun grows => ?_⟩
    obtain ⟨next, done, stored⟩ := @notifConnection_of_granted platform _ _ _ _ _ sound grows
    simp only [step, done, Option.map_some, Harmless]
    refine ⟨_, rfl, ?_, found_of_sound ?_⟩ <;> simpa [Conn.markPending] using stored

/-- A call that fails leaves the marks of all connections as they were. -/
theorem notifConnection_refused {pd' : Pcapdroid} {arr' : ConnArray}
    (refused : notifConnection platform pd arr slot granted = some (pd', arr', -1)) (id : ConnId) :
    (pd'.conn id).pendingNotification = (pd.conn id).pendingNotification := by
  have filled {pd : Pcapdroid} {arr : ConnArray} :
      fillSlot pd arr slot ≠ some (pd', arr', -1) := by simp [fillSlot]
  have same : pd' = pd.setConn slot.data (endDetection platform pd slot) := by
    simp only [notifConnection] at refused
    split at refused
    · simp at refused
    · split at refused
      · obtain ⟨size, -, refused⟩ := Option.bind_eq_some_iff.mp refused
        split at refused
        · exact absurd refused filled
        · exact (congrArg Prod.fst (Option.some.inj refused)).symm
      · exact absurd refused filled
  rw [same]
  exact Pcapdroid.setConn_cases (endDetection_pending platform pd slot) (fun _ _ => rfl) id

/-- The queue does no harm just if it can grow whenever it has to. -/
theorem queue_harmless_iff (platform : Platform) (pd : Pcapdroid) (calls : List QueueCall) :
    ((∀ first rest, calls = first ++ rest →
        Harmless (run (step platform) (some ⟨pd, .empty, []⟩) first)) ↔
      Guarded (step platform) Granted (some ⟨pd, .empty, []⟩) calls) ∧
      ∀ (pd pd' : Pcapdroid) (arr arr' : ConnArray) (slot : ConnAndTuple) (granted : Bool),
        notifConnection platform pd arr slot granted = some (pd', arr', -1) →
          ∀ id, (pd'.conn id).pendingNotification = (pd.conn id).pendingNotification :=
  ⟨@guarded_iff _ _ (step platform) Granted (fun _ => True) Harmless (fun _ _ _ _ => trivial)
      (fun state call _ => step_harmless_iff state call) _ trivial
      ⟨_, rfl, .empty, rfl⟩ calls,
    fun _ _ _ _ _ _ => notifConnection_refused⟩

/-- The first connection that is queued does harm if there is no memory for it. -/
theorem refused_growth_is_harmful :
    ¬∀ first rest,
      [QueueCall.notify ⟨⟨1, 2, 40000, 443, 4, ipprotoTcp⟩, 0⟩ false] = first ++ rest →
      Harmless (run (step .inert) (some ⟨.initial, .empty, []⟩) first) := by
  intro harmless
  have queue := harmless _ [] (List.append_nil _).symm
  rw [run_cons, run_nil] at queue
  cases (granted_of_harmless queue rfl (Nat.le_refl 0)).1

end PcapdroidFormal.Core.QueueArray
