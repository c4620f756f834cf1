import PcapdroidFormal.Firewall.Recheck
import PcapdroidFormal.Foundation.Runs

/-!
# The firewall law

Over a whole capture, the verdicts of the active connections follow the policy
whenever no list of the firewall is waiting to be installed, as long as every
control that takes effect at once leaves the policy of these connections as it
is or is followed by a re-check.
-/

namespace PcapdroidFormal.Firewall

open PcapdroidFormal.Core Foundation

variable {data other : Conn} {host : Host} {before after : Conn} {history : History}

/-- A capture, with the uids its connections were created with. -/
structure History where
  pd : Pcapdroid
  uidAt : ConnId → Int

inductive FirewallEvent where
  | newConnection (tuple : FiveTuple) (uid : Int)
  | inspected (id : ConnId) (tuple : FiveTuple) (flow : NdpiFlow) (l7proto : L7Proto)
      (encrypted : Bool)
  | reloadBlocklist (list : Blacklist)
  | requestFirewallWhitelist (list : Option Blacklist)
  | enableWhitelistMode
  | setFirewallEnabled (enabled : Bool)
  | closed (tuple : FiveTuple) (id : ConnId) (status : ConnStatus)
  | housekeeping (exported : Bool)

/-- A DPI result is applied to a connection. -/
def applyDpi (pd : Pcapdroid) (id : ConnId) (tuple : FiveTuple) (flow : NdpiFlow)
    (l7proto : L7Proto) (encrypted : Bool) : Pcapdroid :=
  pd.setConn id (processNdpiData pd tuple flow ((pd.conn id).setL7proto l7proto encrypted))

/-- One step of the capture. -/
def firewallStep (platform : Platform) (history : History) : FirewallEvent → History
  | .newConnection tuple uid =>
    let created := pdNewConnection platform history.pd tuple uid
    ⟨created.1.activate ⟨tuple, created.2⟩,
      fun id => if id = created.2 then uid else history.uidAt id⟩
  | .inspected id tuple flow l7proto encrypted =>
    ⟨applyDpi history.pd id tuple flow l7proto encrypted, history.uidAt⟩
  | .reloadBlocklist list => ⟨(reloadBlocklist history.pd list).1, history.uidAt⟩
  | .requestFirewallWhitelist list =>
    ⟨(requestFirewallWhitelist history.pd list).1, history.uidAt⟩
  | .enableWhitelistMode => ⟨enableWhitelistMode history.pd, history.uidAt⟩
  | .setFirewallEnabled enabled =>
    ⟨nativeSetFirewallEnabled history.pd enabled, history.uidAt⟩
  | .closed tuple id status =>
    ⟨(connectionClosed platform history.pd tuple id status).deactivate id, history.uidAt⟩
  | .housekeeping exported => ⟨pdHousekeeping platform exported history.pd, history.uidAt⟩

/-- A list of the firewall is waiting to be installed. -/
def ListPending (pd : Pcapdroid) : Prop :=
  pd.firewall.newBl.isSome = true ∨ pd.firewall.newWl.isSome = true

/-- The active connections whose uid the netd resolution has not rewritten. -/
def Watched (history : History) (slot : ConnAndTuple) : Prop :=
  slot ∈ history.pd.connections ∧ (history.pd.conn slot.data).uid = history.uidAt slot.data

/-- With no list waiting, every watched connection has the verdict of the policy. -/
def FollowsPolicy (history : History) : Prop :=
  ¬ ListPending history.pd → ∀ slot, Watched history slot → Settled history.pd slot

/-- The new firewall has the same policy for every watched connection. -/
def PolicyKept (history : History) (after : Pcapdroid) : Prop :=
  ∀ slot, Watched history slot →
    policy after slot.tuple (history.pd.conn slot.data) =
      policy history.pd slot.tuple (history.pd.conn slot.data)

/-- A connection blocked so far has a reason to stay blocked with its new host. -/
def ReasonKept (pd : Pcapdroid) (tuple : FiveTuple) (data : Conn) (host : Host) : Prop :=
  data.toBlock = true →
    flagged data = true ∨ hostHit pd host data = true ∨
      blockedByBlocklist pd tuple (inspectedConn host data) = true ∨
      blockedByWhitelistMode pd tuple data = true

/-- The steps after which the verdicts are right or will be re-checked. -/
def Rechecked (history : History) : FirewallEvent → Prop
  | .setFirewallEnabled enabled =>
    ListPending history.pd ∨ PolicyKept history (nativeSetFirewallEnabled history.pd enabled)
  | .requestFirewallWhitelist none =>
    ListPending history.pd ∨ PolicyKept history (requestFirewallWhitelist history.pd none).1
  | .enableWhitelistMode =>
    ListPending history.pd ∨ PolicyKept history (enableWhitelistMode history.pd)
  | .inspected id _ flow l7proto encrypted =>
    ListPending history.pd ∨ ∀ slot, Watched history slot → slot.data = id →
      ∀ host, inspectedHost flow ((history.pd.conn id).setL7proto l7proto encrypted) =
        some host → ReasonKept history.pd slot.tuple (history.pd.conn id) host
  | _ => True

structure Started (history : History) : Prop where
  vpnCapture : history.pd.vpnCapture = true
  noConnections : history.pd.connections = []
  noWhitelist : history.pd.malwareDetection.newWl = none

/-! ## Active connections -/

/-- What holds of the active connections in every state of a capture. -/
structure Active (history : History) : Prop where
  noWhitelist : history.pd.malwareDetection.newWl = none
  distinct : (history.pd.connections.map (·.data)).Nodup
  known : ∀ slot ∈ history.pd.connections, slot.data < history.pd.newConnId
  isOpen : ∀ slot ∈ history.pd.connections,
    (history.pd.conn slot.data).status.isClosed = false
  netd : ∀ slot ∈ history.pd.connections, (history.pd.conn slot.data).uid = uidNetd →
    history.uidAt slot.data = uidNetd

theorem Started.active (started : Started history) : Active history := by
  refine ⟨started.noWhitelist, ?_, ?_, ?_, ?_⟩
  · rw [started.noConnections]
    exact List.nodup_nil
  all_goals
    intro slot member
    rw [started.noConnections] at member
    cases member

theorem Started.followsPolicy (started : Started history) : FollowsPolicy history := by
  intro _ slot watched
  have member := watched.1
  rw [started.noConnections] at member
  cases member

/-- The active connections stay as they are if connections keep uid and status. -/
theorem Active.of_identity {before after : History} (active : Active before)
    (newWl : after.pd.malwareDetection.newWl = before.pd.malwareDetection.newWl)
    (connections : after.pd.connections = before.pd.connections)
    (newConnId : after.pd.newConnId = before.pd.newConnId)
    (uidAt : after.uidAt = before.uidAt)
    (conns : ∀ id, SameIdentity (before.pd.conn id) (after.pd.conn id)) : Active after := by
  refine ⟨newWl.trans active.noWhitelist, ?_, ?_, ?_, ?_⟩
  · rw [connections]
    exact active.distinct
  · rw [connections, newConnId]
    exact active.known
  · intro slot member
    rw [connections] at member
    rw [(conns slot.data).status_eq]
    exact active.isOpen slot member
  · intro slot member netd
    rw [connections] at member
    rw [(conns slot.data).uid_eq] at netd
    rw [uidAt]
    exact active.netd slot member netd

/-- The invariant of a capture whose steps are re-checked. -/
structure Lawful (history : History) : Prop where
  active : Active history
  follows : FollowsPolicy history

/-! ## New connections -/

theorem NetdResolved.sameVerdict {uid : Int} (resolved : NetdResolved uid before after)
    (same : after.uid = before.uid) : SameVerdict before after := by
  cases resolved with
  | kept missed => exact ⟨rfl, rfl, rfl, rfl, rfl, rfl, rfl, rfl, rfl, rfl⟩
  | renamed missed netd => exact ⟨same, rfl, rfl, rfl, rfl, rfl, rfl, rfl, rfl, rfl⟩

theorem NetdResolved.status_eq {uid : Int} (resolved : NetdResolved uid before after) :
    after.status = before.status := by
  cases resolved with
  | kept missed => rfl
  | renamed missed netd => rfl

/-- A connection keeps its uid unless it belonged to netd. -/
theorem NetdResolved.kept_or_netd {uid : Int} (resolved : NetdResolved uid before after) :
    after.uid = before.uid ∨ before.uid = uidNetd := by
  cases resolved with
  | kept missed => exact .inl rfl
  | renamed missed netd => exact .inr netd

section NewConnection

variable {history : History} {tuple : FiveTuple} {uid : Int} {opened : Pcapdroid}

variable (created : Created history.pd tuple uid opened)
include created

theorem Created.active (active : Active history) :
    Active ⟨opened.activate ⟨tuple, history.pd.newConnId⟩,
      fun id => if id = history.pd.newConnId then uid else history.uidAt id⟩ := by
  have fresh (slot : ConnAndTuple) (member : slot ∈ history.pd.connections) :
      slot.data ≠ history.pd.newConnId := Nat.ne_of_lt (active.known slot member)
  have connections : opened.connections = history.pd.connections := created.sameLists.connections
  have newConnId : opened.newConnId = history.pd.newConnId + 1 := created.sameLists.newConnId
  refine ⟨?_, ?_, ?_, ?_, ?_⟩
  · exact (congrArg MalwareDetection.newWl created.sameLists.malwareDetection).trans
      active.noWhitelist
  · simp only [Pcapdroid.activate, connections, List.map_append, List.map_cons, List.map_nil]
    refine List.nodup_append.mpr ⟨active.distinct, List.nodup_singleton _, ?_⟩
    grind
  · simp only [Pcapdroid.activate, connections, newConnId]
    intro slot member
    rcases List.mem_append.mp member with old | new
    · exact Nat.lt_succ_of_lt (active.known slot old)
    · grind
  · simp only [Pcapdroid.activate, connections]
    intro slot member
    rcases List.mem_append.mp member with old | new
    · have status := (created.others slot.data (fresh slot old)).status_eq
      exact (congrArg ConnStatus.isClosed status).trans (active.isOpen slot old)
    · rw [List.mem_singleton.mp new]
      exact congrArg ConnStatus.isClosed created.status_eq
  · simp only [Pcapdroid.activate, connections]
    intro slot member netd
    rcases List.mem_append.mp member with old | new
    · rw [if_neg (fresh slot old)]
      apply active.netd slot old
      rcases (created.others slot.data (fresh slot old)).kept_or_netd with kept | wasNetd
      · exact kept.symm.trans netd
      · exact wasNetd
    · rw [List.mem_singleton.mp new] at netd ⊢
      rw [if_pos rfl]
      exact created.uid_eq.symm.trans netd

theorem Created.follows (lawful : Lawful history) :
    FollowsPolicy ⟨opened.activate ⟨tuple, history.pd.newConnId⟩,
      fun id => if id = history.pd.newConnId then uid else history.uidAt id⟩ := by
  have connections : opened.connections = history.pd.connections := created.sameLists.connections
  have firewall : opened.firewall = history.pd.firewall := created.sameLists.firewall
  intro installed slot watched
  have notPending : ¬ ListPending history.pd := by
    intro pending
    refine installed ?_
    simp only [Pcapdroid.activate, firewall]
    exact pending
  obtain ⟨member, uidKept⟩ := watched
  simp only [Pcapdroid.activate, connections] at member
  rcases List.mem_append.mp member with old | new
  · have fresh : slot.data ≠ history.pd.newConnId := Nat.ne_of_lt (lawful.active.known slot old)
    have resolved := created.others slot.data fresh
    have uidAt : (opened.conn slot.data).uid = history.uidAt slot.data :=
      uidKept.trans (if_neg fresh)
    have before : (history.pd.conn slot.data).uid = history.uidAt slot.data := by
      rcases resolved.kept_or_netd with kept | wasNetd
      · exact kept.symm.trans uidAt
      · exact wasNetd.trans (lawful.active.netd slot old wasNetd).symm
    have settled := lawful.follows notPending slot ⟨old, before⟩
    exact Settled.of_sameVerdict settled firewall
      (resolved.sameVerdict (uidAt.trans before.symm))
  · rw [List.mem_singleton.mp new]
    exact created.verdict

end NewConnection

/-! ## DPI results -/

theorem foundInfo_nonempty {l7proto : L7Proto} {flow : NdpiFlow} {name : Host}
    (found : foundInfo l7proto flow = some name) : name.isEmpty = false := by
  unfold foundInfo at found
  split at found <;> grind

theorem inspectedHost_nonempty {flow : NdpiFlow}
    (found : inspectedHost flow data = some host) : host.isEmpty = false := by
  unfold inspectedHost at found
  split at found
  · obtain ⟨name, info, rfl⟩ := Option.map_eq_some_iff.mp found
    have filled := foundInfo_nonempty info
    cases name with
    | nil => cases filled
    | cons first rest => rfl
  · cases found

theorem domainBlocked_congr (pd : Pcapdroid) (info : other.info = data.info) :
    domainBlocked pd other = domainBlocked pd data := by
  unfold domainBlocked
  rw [info]

theorem blockedByBlocklist_congr (pd : Pcapdroid) (tuple : FiveTuple)
    (uid : other.uid = data.uid) (info : other.info = data.info) :
    blockedByBlocklist pd tuple other = blockedByBlocklist pd tuple data := by
  unfold blockedByBlocklist blocklistMatches
  rw [uid, info]

theorem blockedByWhitelistMode_congr (pd : Pcapdroid) (tuple : FiveTuple)
    (uid : other.uid = data.uid) :
    blockedByWhitelistMode pd tuple other = blockedByWhitelistMode pd tuple data := by
  unfold blockedByWhitelistMode
  rw [uid]

section Inspected

variable {pd : Pcapdroid} {flow : NdpiFlow} {before after : Conn} {tuple : FiveTuple}

variable (inspected : Inspected pd flow before after)
include inspected

theorem Inspected.flagged_of_flagged (flag : flagged before = true) : flagged after = true := by
  obtain ⟨internal, internalFlag, domainFlag, _⟩ := inspected.verdict
  unfold flagged at flag ⊢
  rw [internalFlag, domainFlag, inspected.ip_eq]
  grind

theorem Inspected.flagged_of_hostHit (found : inspectedHost flow before = some host)
    (hit : hostHit pd host before = true) : flagged after = true := by
  obtain ⟨_, _, domainFlag, _⟩ := inspected.verdict
  unfold flagged
  rw [domainFlag, found, Option.any_some, hit, inspectedHost_nonempty found]
  simp

/-- A blocked connection that keeps a reason is blocked by the policy. -/
theorem Inspected.policy_of_reason (blocked : policy pd tuple before = true)
    (kept : ∀ host, inspectedHost flow before = some host →
      flagged before = true ∨ hostHit pd host before = true ∨
        blockedByBlocklist pd tuple (inspectedConn host before) = true ∨
        blockedByWhitelistMode pd tuple before = true) : policy pd tuple after = true := by
  have mode := blockedByWhitelistMode_congr pd tuple inspected.uid_eq
  have info := inspected.info_eq
  unfold policy at blocked ⊢
  simp only [Bool.or_eq_true] at blocked ⊢
  cases found : inspectedHost flow before with
  | none =>
    rw [found] at info
    have blocklist := blockedByBlocklist_congr pd tuple inspected.uid_eq info
    rcases blocked with (flag | listed) | unlisted
    · exact .inl (.inl (inspected.flagged_of_flagged flag))
    · exact .inl (.inr (blocklist.trans listed))
    · exact .inr (mode.trans unlisted)
  | some host =>
    rw [found] at info
    have blocklist : blockedByBlocklist pd tuple after =
        blockedByBlocklist pd tuple (inspectedConn host before) :=
      blockedByBlocklist_congr pd tuple inspected.uid_eq info
    rcases kept host found with flag | hit | listed | unlisted
    · exact .inl (.inl (inspected.flagged_of_flagged flag))
    · exact .inl (.inl (inspected.flagged_of_hostHit found hit))
    · exact .inl (.inr (blocklist.trans listed))
    · exact .inr (mode.trans unlisted)

/-- A connection that was not blocked gets the verdict of the policy. -/
theorem Inspected.policy_of_unblocked (unblocked : before.toBlock = false)
    (settled : policy pd tuple before = false) : after.toBlock = policy pd tuple after := by
  obtain ⟨internal, internalFlag, domainFlag, toBlock⟩ := inspected.verdict
  have info := inspected.info_eq
  unfold policy at settled ⊢
  simp only [Bool.or_eq_false_iff] at settled
  obtain ⟨⟨flags, blocklist⟩, mode⟩ := settled
  rw [blockedByBlocklist_parts, Bool.or_eq_false_iff] at blocklist
  unfold flagged at flags
  simp only [Bool.or_eq_false_iff] at flags
  rw [blockedByBlocklist_parts, blockedByWhitelistMode_congr pd tuple inspected.uid_eq, mode,
    inspected.uid_eq, blocklist.2]
  unfold flagged
  rw [internalFlag, domainFlag, inspected.ip_eq, flags.1.1, flags.1.2, flags.2, toBlock, unblocked]
  cases found : inspectedHost flow before with
  | none =>
    rw [found] at info
    rw [domainBlocked_congr pd info, blocklist.1]
    simp
  | some host =>
    rw [found] at info
    have blocked : domainBlocked pd after = domainBlocked pd (inspectedConn host before) :=
      domainBlocked_congr pd info
    rw [blocked, domainBlocked_inspectedConn]
    grind

end Inspected

section Dpi

variable {history : History} {platform : Platform} {id : ConnId} {tuple : FiveTuple}
  {flow : NdpiFlow} {l7proto : L7Proto} {encrypted : Bool}

theorem applyDpi_identity (pd : Pcapdroid) (other : ConnId) :
    SameIdentity (pd.conn other)
      ((applyDpi pd id tuple flow l7proto encrypted).conn other) := by
  have inspected := processNdpiData_inspected pd tuple flow
    ((pd.conn id).setL7proto l7proto encrypted)
  exact Pcapdroid.setConn_cases ⟨inspected.uid_eq, inspected.status_eq⟩
    (fun other _ => .refl (pd.conn other)) other

theorem inspected_lawful (lawful : Lawful history)
    (rechecked : Rechecked history (.inspected id tuple flow l7proto encrypted)) :
    Lawful (firewallStep platform history (.inspected id tuple flow l7proto encrypted)) := by
  refine ⟨lawful.active.of_identity rfl rfl rfl rfl (applyDpi_identity history.pd), ?_⟩
  intro notPending slot watched
  obtain ⟨member, uidKept⟩ := watched
  have uidAt : (history.pd.conn slot.data).uid = history.uidAt slot.data :=
    (applyDpi_identity history.pd slot.data).uid_eq.symm.trans uidKept
  have settled := lawful.follows notPending slot ⟨member, uidAt⟩
  by_cases same : slot.data = id
  · obtain ⟨slotTuple, data⟩ := slot
    subst same
    have reason := Or.resolve_left rechecked notPending ⟨slotTuple, data⟩ ⟨member, uidAt⟩ rfl
    have inspected := processNdpiData_inspected history.pd tuple flow
      ((history.pd.conn data).setL7proto l7proto encrypted)
    have verdict : (processNdpiData history.pd tuple flow
        ((history.pd.conn data).setL7proto l7proto encrypted)).toBlock =
        policy history.pd slotTuple (processNdpiData history.pd tuple flow
          ((history.pd.conn data).setL7proto l7proto encrypted)) := by
      cases blocked : (history.pd.conn data).toBlock with
      | true =>
        rw [inspected.blocked blocked]
        refine (inspected.policy_of_reason (settled.symm.trans blocked) ?_).symm
        intro host found
        exact reason host found blocked
      | false => exact inspected.policy_of_unblocked blocked (settled.symm.trans blocked)
    unfold Settled
    simp only [firewallStep, applyDpi, Pcapdroid.setConn_conn_self]
    exact verdict
  · exact settled.of_touches (setConn_touches history.pd id _) (mt List.mem_singleton.mp same)

end Dpi

/-! ## Requests and controls -/

section Controls

variable {history : History} {platform : Platform}

variable (lawful : Lawful history)
include lawful

/-- A change of the firewall that keeps the policy or leaves a list waiting. -/
theorem Lawful.of_firewall {firewall : Firewall}
    (waiting : ¬ ListPending (history.pd.setFirewall firewall) →
      ¬ ListPending history.pd ∧ PolicyKept history (history.pd.setFirewall firewall)) :
    Lawful ⟨history.pd.setFirewall firewall, history.uidAt⟩ := by
  refine ⟨lawful.active.of_identity rfl rfl rfl rfl fun id => .refl (history.pd.conn id), ?_⟩
  intro notPending slot watched
  obtain ⟨notBefore, kept⟩ := waiting notPending
  exact (lawful.follows notBefore slot watched).trans (kept slot watched).symm

theorem reloadBlocklist_lawful (list : Blacklist) :
    Lawful (firewallStep platform history (.reloadBlocklist list)) := by
  simp only [firewallStep, reloadBlocklist]
  split
  · exact lawful
  · exact lawful.of_firewall fun notPending => absurd (.inl rfl) notPending

theorem requestFirewallWhitelist_lawful (list : Option Blacklist)
    (rechecked : Rechecked history (.requestFirewallWhitelist list)) :
    Lawful (firewallStep platform history (.requestFirewallWhitelist list)) := by
  cases list with
  | none =>
    simp only [Rechecked, requestFirewallWhitelist] at rechecked
    simp only [firewallStep, requestFirewallWhitelist]
    split
    next => exact lawful
    next taken =>
      rw [if_neg taken] at rechecked
      refine lawful.of_firewall fun notPending => ?_
      exact ⟨notPending, Or.resolve_left rechecked notPending⟩
  | some list =>
    simp only [firewallStep, requestFirewallWhitelist]
    split
    · exact lawful
    · exact lawful.of_firewall fun notPending => absurd (.inr rfl) notPending

/-- The mode is enabled while the list still waits, or it changes no verdict. -/
theorem enableWhitelistMode_lawful (rechecked : Rechecked history .enableWhitelistMode) :
    Lawful (firewallStep platform history .enableWhitelistMode) :=
  lawful.of_firewall fun notPending => ⟨notPending, Or.resolve_left rechecked notPending⟩

theorem setFirewallEnabled_lawful (enabled : Bool)
    (rechecked : Rechecked history (.setFirewallEnabled enabled)) :
    Lawful (firewallStep platform history (.setFirewallEnabled enabled)) :=
  lawful.of_firewall fun notPending => ⟨notPending, Or.resolve_left rechecked notPending⟩

end Controls

/-! ## Closed connections -/

theorem closed_lawful {platform : Platform} (lawful : Lawful history) (tuple : FiveTuple)
    (id : ConnId) (status : ConnStatus) :
    Lawful (firewallStep platform history (.closed tuple id status)) := by
  have step := connectionClosed_touches platform history.pd tuple id status
  have remaining {slot : ConnAndTuple} (member : slot ∈
      ((connectionClosed platform history.pd tuple id status).deactivate id).connections) :
      slot ∈ history.pd.connections ∧ slot.data ∉ [id] := by
    obtain ⟨before, other⟩ := List.mem_filter.mp member
    rw [step.connections] at before
    grind
  simp only [firewallStep]
  refine ⟨⟨?_, ?_, ?_, ?_, ?_⟩, ?_⟩
  · exact (congrArg MalwareDetection.newWl step.malwareDetection).trans
      lawful.active.noWhitelist
  · have fewer := (List.filter_sublist (p := fun slot : ConnAndTuple => slot.data != id)
      (l := history.pd.connections)).map (·.data)
    simp only [Pcapdroid.deactivate, step.connections]
    exact lawful.active.distinct.sublist fewer
  · intro slot member
    exact (lawful.active.known slot (remaining member).1).trans_eq step.newConnId.symm
  · intro slot member
    obtain ⟨before, untouched⟩ := remaining member
    exact (congrArg (·.status.isClosed) (step.frame slot.data untouched)).trans
      (lawful.active.isOpen slot before)
  · intro slot member netd
    obtain ⟨before, untouched⟩ := remaining member
    exact lawful.active.netd slot before
      ((congrArg (·.uid) (step.frame slot.data untouched)).symm.trans netd)
  · intro notPending slot watched
    obtain ⟨before, untouched⟩ := remaining watched.1
    have notBefore : ¬ ListPending history.pd := by
      intro pending
      refine notPending ?_
      simp only [Pcapdroid.deactivate, step.firewall]
      exact pending
    have uidAt : (history.pd.conn slot.data).uid = history.uidAt slot.data :=
      (congrArg (·.uid) (step.frame slot.data untouched)).symm.trans watched.2
    have settled : Settled (connectionClosed platform history.pd tuple id status) slot :=
      (lawful.follows notBefore slot ⟨before, uidAt⟩).of_touches step untouched
    exact settled

/-! ## Housekeeping -/

section Housekeeping

variable {history : History} {platform : Platform}

theorem periodicTask_lawful (lawful : Lawful history) (exported : Bool) :
    Lawful ⟨periodicTask exported history.pd, history.uidAt⟩ := by
  have step := periodicTask_periodicStep exported history.pd
  have same (id : ConnId) := Reported.sameVerdict (step.conns id)
  refine ⟨lawful.active.of_identity step.newWl step.connections step.newConnId rfl
    fun id => ⟨(same id).uid_eq, (same id).status_eq⟩, ?_⟩
  intro notPending slot watched
  obtain ⟨member, uidKept⟩ := watched
  have notBefore : ¬ ListPending history.pd := by
    intro pending
    refine notPending ?_
    unfold ListPending at pending ⊢
    rw [step.firewall]
    exact pending
  rw [step.connections] at member
  rw [(same slot.data).uid_eq] at uidKept
  exact (lawful.follows notBefore slot ⟨member, uidKept⟩).of_sameVerdict step.firewall
    (same slot.data)

/-- A re-check of all connections settles every verdict. -/
theorem recheckAll_lawful (active : Active history) :
    Lawful ⟨iterActiveConnections history.pd (checkBlockedConnCb platform), history.uidAt⟩ := by
  have step := iterActiveConnections_touches (checkBlockedConnCb_touches platform) history.pd
  refine ⟨active.of_identity (congrArg MalwareDetection.newWl step.malwareDetection)
    step.connections step.newConnId rfl (recheckAll_identity platform history.pd), ?_⟩
  intro _ slot watched
  have member := watched.1
  rw [step.connections] at member
  exact recheckAll_settled platform active.distinct member (active.isOpen slot member)

variable (lawful : Lawful history)
include lawful

theorem installFirewallLists_lawful :
    Lawful ⟨installFirewallLists platform history.pd, history.uidAt⟩ := by
  have installed (firewall : Firewall) :
      Active ⟨history.pd.setFirewall firewall, history.uidAt⟩ :=
    lawful.active.of_identity rfl rfl rfl rfl fun id => .refl (history.pd.conn id)
  unfold installFirewallLists
  cases newBl : history.pd.firewall.newBl with
  | some bl => exact recheckAll_lawful (installed _)
  | none =>
    cases newWl : history.pd.firewall.newWl with
    | some wl => exact recheckAll_lawful (installed _)
    | none => exact lawful

theorem installDecryptionList_lawful :
    Lawful ⟨installDecryptionList history.pd, history.uidAt⟩ := by
  unfold installDecryptionList
  split
  · exact lawful
  · exact ⟨lawful.active.of_identity rfl rfl rfl rfl fun id => .refl (history.pd.conn id),
      lawful.follows⟩

theorem housekeeping_lawful (exported : Bool) :
    Lawful (firewallStep platform history (.housekeeping exported)) := by
  have periodic := periodicTask_lawful lawful exported
  have noWhitelist : installMalwareWhitelist platform (periodicTask exported history.pd) =
      periodicTask exported history.pd := by
    unfold installMalwareWhitelist
    rw [periodic.active.noWhitelist]
  simp only [firewallStep, pdHousekeeping, noWhitelist]
  exact installDecryptionList_lawful (installFirewallLists_lawful periodic)

end Housekeeping

/-! ## Runs -/

theorem firewallStep_lawful (platform : Platform) (history : History) (event : FirewallEvent)
    (lawful : Lawful history) (rechecked : Rechecked history event) :
    Lawful (firewallStep platform history event) := by
  cases event with
  | newConnection tuple uid =>
    have created := pdNewConnection_created platform history.pd tuple uid
    exact ⟨created.active lawful.active, created.follows lawful⟩
  | inspected id tuple flow l7proto encrypted => exact inspected_lawful lawful rechecked
  | reloadBlocklist list => exact reloadBlocklist_lawful lawful list
  | requestFirewallWhitelist list => exact requestFirewallWhitelist_lawful lawful list rechecked
  | enableWhitelistMode => exact enableWhitelistMode_lawful lawful rechecked
  | setFirewallEnabled enabled => exact setFirewallEnabled_lawful lawful enabled rechecked
  | closed tuple id status => exact closed_lawful lawful tuple id status
  | housekeeping exported => exact housekeeping_lawful lawful exported

/-- A TCP connection of an app. -/
def appTuple : FiveTuple := ⟨0x0100000a, 0x08080808, 0x1234, 0xbb01, 4, ipprotoTcp⟩

/-- A capture whose blocklist holds the app with uid 10001. -/
def appBlocked : History where
  pd := { Pcapdroid.initial with
    firewall := ⟨true, some { Blacklist.empty with matchUid := (· == 10001) }, none, false, none,
      none⟩ }
  uidAt _ := 0

/-- A new blocklist and whitelist mode, each followed by the store that takes effect at once while
the list still waits. -/
def reloadedEvents : List FirewallEvent :=
  [.newConnection appTuple 10001, .reloadBlocklist .empty, .setFirewallEnabled false,
    .requestFirewallWhitelist (some .empty), .enableWhitelistMode]

end PcapdroidFormal.Firewall
