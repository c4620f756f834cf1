import PcapdroidFormal.Core.Frames

/-!
# The queues of notifications

`send_connections_dump` reports the queued connections, `conns_clear` frees
those that are to be purged and empties the queues.
-/

namespace PcapdroidFormal.Core

/-- The queued connections; the new ones come first. -/
def queuedConns (pd : Pcapdroid) : List ConnId := (pd.newConns ++ pd.connsUpdates).map (·.data)

/-- The connections that have been freed, in order. -/
def freedConns (pd : Pcapdroid) : List ConnId :=
  pd.effects.filterMap fun
    | .free id => some id
    | _ => none

variable (freeAll : Bool) (pd : Pcapdroid) (slots : List ConnAndTuple) (id : ConnId)

theorem freedConns_append (effects : List Effect) :
    freedConns { pd with effects := pd.effects ++ effects } =
      freedConns pd ++ freedConns { pd with effects := effects } :=
  List.filterMap_append

theorem freedConns_free (ids : List ConnId) :
    freedConns { pd with effects := pd.effects ++ ids.map Effect.free } =
      freedConns pd ++ ids := by
  simp [freedConns, List.filterMap_map]

/-! ## Reports -/

theorem report_rest :
    ∃ heap, slots.foldl
      (fun pd slot => pd.setConn slot.data (reportedConn (pd.conn slot.data))) pd =
        { pd with heap := heap } := by
  induction slots generalizing pd with
  | nil => exact ⟨pd.heap, rfl⟩
  | cons slot slots ih =>
    obtain ⟨heap, same⟩ := ih (pd.setConn slot.data (reportedConn (pd.conn slot.data)))
    exact ⟨heap, same⟩

/-- The report changes connections only. -/
theorem sendConnectionsDump_rest :
    ∃ heap, sendConnectionsDump pd = { pd with heap := heap } :=
  report_rest pd (pd.newConns ++ pd.connsUpdates)

theorem report_conn :
    (slots.foldl (fun pd slot => pd.setConn slot.data (reportedConn (pd.conn slot.data))) pd).conn
      id = if id ∈ slots.map (·.data) then reportedConn (pd.conn id) else pd.conn id := by
  induction slots generalizing pd with
  | nil => rfl
  | cons slot slots ih =>
    rw [List.foldl_cons, ih, List.map_cons]
    by_cases own : id = slot.data
    · subst own
      rw [Pcapdroid.setConn_conn_self, reportedConn_reportedConn, ite_self,
        if_pos List.mem_cons_self]
    · rw [Pcapdroid.setConn_conn_other _ _ own]
      grind

theorem sendConnectionsDump_conn :
    (sendConnectionsDump pd).conn id =
      if id ∈ queuedConns pd then reportedConn (pd.conn id) else pd.conn id :=
  report_conn pd (pd.newConns ++ pd.connsUpdates) id

/-! ## Clearing -/

/-- The connection is freed when its queue is cleared. -/
def purges (freeAll : Bool) (pd : Pcapdroid) (id : ConnId) : Bool :=
  (pd.conn id).toPurge || freeAll

theorem purges_emit (effect : Effect) :
    purges freeAll (pd.emit effect) = purges freeAll pd := rfl

theorem purgeQueue_eq (queue : List ConnAndTuple) :
    purgeQueue freeAll pd queue = { pd with effects :=
          pd.effects ++ ((queue.map (·.data)).filter (purges freeAll pd)).map Effect.free } := by
  induction queue generalizing pd with
  | nil =>
    change pd = { pd with effects := pd.effects ++ [] }
    rw [List.append_nil]
  | cons slot queue ih =>
    simp only [purgeQueue, List.foldl_cons, List.map_cons] at ih ⊢
    rw [ih]
    by_cases purged : purges freeAll pd slot.data = true
    · have first : ((pd.conn slot.data).toPurge || freeAll) = true := purged
      rw [if_pos first, List.filter_cons_of_pos purged, purges_emit]
      simp [Pcapdroid.emit]
    · have first : ¬((pd.conn slot.data).toPurge || freeAll) = true := purged
      grind

/-- The new connections are no longer queued. -/
def Pcapdroid.dropNewConns (pd : Pcapdroid) : Pcapdroid := { pd with newConns := [] }

/-- The updates are no longer queued. -/
def Pcapdroid.dropUpdates (pd : Pcapdroid) : Pcapdroid := { pd with connsUpdates := [] }

theorem connsClear_steps :
    connsClear freeAll pd = (purgeQueue freeAll (purgeQueue freeAll pd pd.newConns).dropNewConns
        (purgeQueue freeAll pd pd.newConns).connsUpdates).dropUpdates := rfl

theorem connsClear_eq :
    connsClear freeAll pd = { pd with
        newConns := []
        connsUpdates := []
        effects := pd.effects ++
          ((queuedConns pd).filter (purges freeAll pd)).map Effect.free } := by
  simp only [connsClear, purgeQueue_eq, queuedConns, List.map_append, List.filter_append,
    List.append_assoc]
  rfl

theorem connsClear_freed :
    freedConns (connsClear freeAll pd) =
      freedConns pd ++ (queuedConns pd).filter (purges freeAll pd) := by
  rw [connsClear_eq]
  exact freedConns_free pd ((queuedConns pd).filter (purges freeAll pd))

end PcapdroidFormal.Core
