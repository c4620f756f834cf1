import PcapdroidFormal.Firewall.Recheck

/-!
# Whitelisting malware hits

A new malware whitelist clears the flags of the active connections it matches.
Whether such a connection is also unblocked is left to the firewall re-check,
which `check_blacklisted_conn_cb` only runs if there is a blocklist.
-/

namespace PcapdroidFormal.Firewall

open PcapdroidFormal.Core

/-- The flags of the malware detection or the verdict have changed. -/
def VerdictChanged (before after : Conn) : Prop :=
  after.blacklistedIp ≠ before.blacklistedIp ∨
    after.blacklistedDomain ≠ before.blacklistedDomain ∨ after.toBlock ≠ before.toBlock

/-- The connection is marked as changed and queued. -/
def Announced (pd : Pcapdroid) (id : ConnId) : Prop :=
  (pd.conn id).updateType.stats = true ∧ Queued pd id

/-- An open connection whose pending notification is in a queue. -/
structure Ready (pd : Pcapdroid) (id : ConnId) : Prop where
  isOpen : (pd.conn id).status.isClosed = false
  queued : PendingQueued pd id

/-- What holds of the active connections at every housekeeping. -/
structure Live (pd : Pcapdroid) : Prop where
  distinct : (pd.connections.map (·.data)).Nodup
  ready : ∀ slot ∈ pd.connections, Ready pd slot.data

structure Announces (before after : Pcapdroid) (id : ConnId) : Prop where
  changed : VerdictChanged (before.conn id) (after.conn id) → Announced after id
  kept : Announced before id → Announced after id
  ready : Ready before id → Ready after id

theorem Announces.trans {first second third : Pcapdroid} {id : ConnId}
    (earlier : Announces first second id) (later : Announces second third id) :
    Announces first third id := by
  refine ⟨?_, fun announced => later.kept (earlier.kept announced),
    fun ready => later.ready (earlier.ready ready)⟩
  intro changed
  by_cases early : VerdictChanged (first.conn id) (second.conn id)
  · exact later.kept (earlier.changed early)
  · refine later.changed ?_
    unfold VerdictChanged at early changed ⊢
    grind

variable {before after : Pcapdroid}

theorem Announces.of_touches {touched : List ConnId} {id : ConnId}
    (step : TouchesOnly touched before after) (untouched : id ∉ touched) :
    Announces before after id := by
  have same := step.frame id untouched
  refine ⟨?_, ?_, ?_⟩
  · intro changed
    unfold VerdictChanged at changed
    grind
  · rintro ⟨stats, queued⟩
    unfold Announced
    rw [same]
    exact ⟨stats, step.queued queued⟩
  · rintro ⟨isOpen, queued⟩
    refine ⟨by rw [same]; exact isOpen, ?_⟩
    unfold PendingQueued at queued ⊢
    rw [same]
    exact fun pending => step.queued (queued pending)

/-- A connection that is marked and notified is announced. -/
theorem notify_announced (platform : Platform) (pd : Pcapdroid) (tuple : FiveTuple)
    (id : ConnId) (data : Conn) (isOpen : data.status.isClosed = false)
    (queued : data.pendingNotification = true → Queued pd id) :
    let after := pdNotifyConnectionUpdate platform (pd.setConn id data.markStats) tuple id
    after.conn id = data.markStats.markPending ∧ Queued after id := by
  have own : (pd.setConn id data.markStats).conn id = data.markStats :=
    Pcapdroid.setConn_conn_self pd id data.markStats
  constructor
  · rw [pdNotifyConnectionUpdate_conn, own]
    exact notifiedConn_of_open platform _ tuple isOpen
  · refine pdNotifyConnectionUpdate_queued platform _ tuple id ?_ ?_
    · rw [own]
      exact isOpen
    · rw [own]
      exact fun pending => (setConn_touches pd id _).queued (queued pending)

/-! ## The firewall re-check -/

/-- What `check_blocked_conn_cb` makes of an open connection. -/
def recheckedConn (pd : Pcapdroid) (tuple : FiveTuple) (data : Conn) : Conn :=
  if data.toBlock = policy pd tuple data then data
  else (data.setToBlock (policy pd tuple data)).markStats.markPending

section Recheck

variable {pd : Pcapdroid} {id : ConnId} (platform : Platform) (tuple : FiveTuple)

theorem checkBlockedConnCb_conn (ready : Ready pd id) :
    (checkBlockedConnCb platform pd tuple id).conn id = recheckedConn pd tuple (pd.conn id) := by
  rw [checkBlockedConnCb_eq, recheckedConn]
  split
  · rfl
  · exact (notify_announced platform (noteRecheck pd tuple id) tuple id
      ((pd.conn id).setToBlock (policy pd tuple (pd.conn id))) ready.isOpen ready.queued).1

/-- A changed verdict leaves the connection marked and queued. -/
theorem Announces.of_notified {data : Conn} (conn : after.conn id = data.markStats.markPending)
    (queued : Queued after id) (isOpen : data.status.isClosed = false) :
    Announces before after id := by
  have announced : Announced after id := by
    refine ⟨?_, queued⟩
    rw [conn]
    rfl
  refine ⟨fun _ => announced, fun _ => announced, fun _ => ⟨?_, fun _ => queued⟩⟩
  rw [conn]
  exact isOpen

theorem checkBlockedConnCb_announces (ready : Ready pd id) :
    Announces pd (checkBlockedConnCb platform pd tuple id) id := by
  rw [checkBlockedConnCb_eq]
  split
  · exact .of_touches (noteRecheck_touches pd tuple id) List.not_mem_nil
  · obtain ⟨conn, queued⟩ := notify_announced platform (noteRecheck pd tuple id) tuple id
      ((pd.conn id).setToBlock (policy pd tuple (pd.conn id))) ready.isOpen ready.queued
    exact .of_notified conn queued ready.isOpen

end Recheck

/-! ## The new whitelist -/

/-- What `check_blacklisted_conn_cb` makes of an open connection. -/
def whitelistedConn (pd : Pcapdroid) (whitelist : Blacklist) (tuple : FiveTuple) (data : Conn) :
    Conn :=
  let cleared := whitelistConn whitelist tuple data
  if cleared.blacklistedIp != data.blacklistedIp ||
      cleared.blacklistedDomain != data.blacklistedDomain then
    (if pd.firewall.bl.isSome then cleared.setToBlock (policy pd tuple cleared)
      else cleared).markStats.markPending
  else cleared

theorem recheckedConn_notified (pd : Pcapdroid) (tuple : FiveTuple) (data : Conn) :
    (recheckedConn pd tuple data).markStats.markPending =
      (data.setToBlock (policy pd tuple data)).markStats.markPending := by
  unfold recheckedConn
  split
  next settled => rw [Conn.setToBlock_eq_self settled.symm]
  next => rfl

variable {whitelist : Blacklist} {pd : Pcapdroid} {slot : ConnAndTuple}

section Callback

variable {pd : Pcapdroid} {id : ConnId} (platform : Platform) (tuple : FiveTuple)

theorem whitelistConn_ready (whitelist : Blacklist) (ready : Ready pd id) :
    Ready (pd.setConn id (whitelistConn whitelist tuple (pd.conn id))) id := by
  have own := Pcapdroid.setConn_conn_self pd id (whitelistConn whitelist tuple (pd.conn id))
  refine ⟨?_, ?_⟩
  · rw [own]
    exact ready.isOpen
  · unfold PendingQueued
    rw [own]
    exact ready.queued

/-- The re-check that depends on there being a blocklist. -/
theorem recheck_if_blocklist (ready : Ready pd id) :
    let after := if pd.firewall.bl.isSome then checkBlockedConnCb platform pd tuple id else pd
    after.conn id = (if pd.firewall.bl.isSome then recheckedConn pd tuple (pd.conn id)
        else pd.conn id) ∧ Ready after id := by
  intro after
  by_cases present : pd.firewall.bl.isSome = true
  · have rechecked : after = checkBlockedConnCb platform pd tuple id := if_pos present
    rw [rechecked, if_pos present]
    exact ⟨checkBlockedConnCb_conn platform tuple ready,
      (checkBlockedConnCb_announces platform tuple ready).ready ready⟩
  · grind

/-- `check_blacklisted_conn_cb` on an open connection: the connection it leaves, and
that it announces the change. -/
theorem checkBlacklistedConnCb_spec (installed : pd.malwareDetection.whitelist = some whitelist)
    (ready : Ready pd id) : (checkBlacklistedConnCb platform pd tuple id).conn id =
        whitelistedConn pd whitelist tuple (pd.conn id) ∧
      Announces pd (checkBlacklistedConnCb platform pd tuple id) id := by
  have cleared := whitelistConn_ready tuple whitelist ready
  have own := Pcapdroid.setConn_conn_self pd id (whitelistConn whitelist tuple (pd.conn id))
  simp only [checkBlacklistedConnCb, installed, whitelistedConn]
  by_cases changed : ((whitelistConn whitelist tuple (pd.conn id)).blacklistedIp !=
      (pd.conn id).blacklistedIp || (whitelistConn whitelist tuple (pd.conn id)).blacklistedDomain !=
      (pd.conn id).blacklistedDomain) = true
  · rw [if_pos changed, if_pos changed]
    obtain ⟨conn, middle⟩ := recheck_if_blocklist platform tuple cleared
    rw [own] at conn
    generalize (if (pd.setConn id (whitelistConn whitelist tuple (pd.conn id))).firewall.bl.isSome
      then checkBlockedConnCb platform
        (pd.setConn id (whitelistConn whitelist tuple (pd.conn id))) tuple id
      else pd.setConn id (whitelistConn whitelist tuple (pd.conn id))) = rechecked at conn middle ⊢
    obtain ⟨notified, queued⟩ := notify_announced platform rechecked tuple id (rechecked.conn id)
      middle.isOpen middle.queued
    refine ⟨notified.trans ?_, .of_notified notified queued middle.isOpen⟩
    rw [conn, Pcapdroid.setConn_firewall]
    by_cases present : pd.firewall.bl.isSome = true
    · rw [if_pos present, if_pos present]
      exact recheckedConn_notified (pd.setConn id (whitelistConn whitelist tuple (pd.conn id)))
        tuple (whitelistConn whitelist tuple (pd.conn id))
    · grind
  · rw [if_neg changed, if_neg changed]
    simp only [Bool.or_eq_true, bne_iff_ne, not_or, not_not] at changed
    refine ⟨own, ?_, ?_, fun _ => cleared⟩
    · intro verdict
      unfold VerdictChanged at verdict
      rw [own, changed.1, changed.2] at verdict
      exact absurd verdict (by simp [whitelistConn])
    · rintro ⟨stats, queued⟩
      refine ⟨?_, queued⟩
      rw [own]
      exact stats

end Callback

/-! ## All connections -/

section Iteration

variable {pd : Pcapdroid} (platform : Platform)

theorem recheckAll_announces (live : Live pd) (id : ConnId) :
    Announces pd (iterActiveConnections pd (checkBlockedConnCb platform)) id := by
  by_cases active : id ∈ pd.connections.map (·.data)
  · obtain ⟨slot, member, rfl⟩ := List.mem_map.mp active
    obtain ⟨earlier, later, visited, before, notEarlier, after, notLater⟩ :=
      iterActiveConnections_visits (checkBlockedConnCb_touches platform) live.distinct member
    have reached := Announces.of_touches before notEarlier
    have rechecked := checkBlockedConnCb_announces platform slot.tuple
      (reached.ready (live.ready slot member))
    exact (reached.trans rechecked).trans (.of_touches after notLater)
  · exact .of_touches
      (iterActiveConnections_touches (checkBlockedConnCb_touches platform) pd) active

/-- Every active connection is looked up in the new whitelist. -/
theorem whitelistAll_visited (live : Live pd)
    (installed : pd.malwareDetection.whitelist = some whitelist) (member : slot ∈ pd.connections) :
    (iterActiveConnections pd (checkBlacklistedConnCb platform)).conn slot.data =
        whitelistedConn pd whitelist slot.tuple (pd.conn slot.data) ∧
      Announces pd (iterActiveConnections pd (checkBlacklistedConnCb platform)) slot.data := by
  obtain ⟨earlier, later, visited, before, notEarlier, after, notLater⟩ :=
    iterActiveConnections_visits (checkBlacklistedConnCb_touches platform) live.distinct member
  have reached := Announces.of_touches before notEarlier
  have spec := checkBlacklistedConnCb_spec platform slot.tuple
    ((congrArg MalwareDetection.whitelist before.malwareDetection).trans installed)
    (reached.ready (live.ready slot member))
  refine ⟨?_, (reached.trans spec.2).trans (.of_touches after notLater)⟩
  rw [after.frame slot.data notLater, spec.1, before.frame slot.data notEarlier]
  simp only [whitelistedConn, before.firewall, policy_congr before.firewall]

theorem whitelistAll_announces (live : Live pd)
    (installed : pd.malwareDetection.whitelist = some whitelist) (id : ConnId) :
    Announces pd (iterActiveConnections pd (checkBlacklistedConnCb platform)) id := by
  by_cases active : id ∈ pd.connections.map (·.data)
  · obtain ⟨slot, member, rfl⟩ := List.mem_map.mp active
    exact (whitelistAll_visited platform live installed member).2
  · exact .of_touches
      (iterActiveConnections_touches (checkBlacklistedConnCb_touches platform) pd) active

theorem Live.of_announces (live : Live before)
    (connections : after.connections = before.connections)
    (announces : ∀ id, Announces before after id) : Live after := by
  refine ⟨by rw [connections]; exact live.distinct, ?_⟩
  intro slot member
  rw [connections] at member
  exact (announces slot.data).ready (live.ready slot member)

end Iteration

/-! ## Housekeeping -/

def FlagCleared (before after : Conn) : Prop :=
  (before.blacklistedIp = true ∧ after.blacklistedIp = false) ∨
    (before.blacklistedDomain = true ∧ after.blacklistedDomain = false)

/-- What installing a malware whitelist is for. -/
structure WhitelistApplied (before after : Pcapdroid) : Prop where
  unblocked : ∀ slot ∈ before.connections,
    FlagCleared (before.conn slot.data) (after.conn slot.data) →
    flagged (after.conn slot.data) = false →
    blockedByBlocklist after slot.tuple (after.conn slot.data) = false →
    blockedByWhitelistMode after slot.tuple (after.conn slot.data) = false →
    (after.conn slot.data).toBlock = false
  announced : ∀ id, VerdictChanged (before.conn id) (after.conn id) → Announced after id

/-- A blocked connection whose only reason the new whitelist takes away. -/
structure Exonerated (pd : Pcapdroid) (whitelist : Blacklist) (slot : ConnAndTuple) : Prop where
  active : slot ∈ pd.connections
  blocked : (pd.conn slot.data).toBlock = true
  hit : (pd.conn slot.data).blacklistedIp = true ∨ (pd.conn slot.data).blacklistedDomain = true
  cleared : flagged (whitelistConn whitelist slot.tuple (pd.conn slot.data)) = false
  allowed : blockedByWhitelistMode pd slot.tuple (pd.conn slot.data) = false

theorem Announces.of_same {id : ConnId} (conn : after.conn id = before.conn id)
    (newConns : after.newConns = before.newConns)
    (connsUpdates : after.connsUpdates = before.connsUpdates) : Announces before after id := by
  have queued : Queued after id ↔ Queued before id := by
    unfold Queued
    rw [newConns, connsUpdates]
  refine ⟨?_, ?_, ?_⟩
  · intro changed
    unfold VerdictChanged at changed
    grind
  · rintro ⟨stats, before⟩
    exact ⟨by rw [conn]; exact stats, queued.mpr before⟩
  · rintro ⟨isOpen, pending⟩
    refine ⟨by rw [conn]; exact isOpen, ?_⟩
    unfold PendingQueued at pending ⊢
    grind

section Lists

variable {pd : Pcapdroid} (platform : Platform)

theorem Live.setFirewall (live : Live pd) (firewall : Firewall) : Live (pd.setFirewall firewall) :=
  live.of_announces rfl fun _ => .of_same rfl rfl rfl

theorem installFirewallLists_announces (live : Live pd) (id : ConnId) :
    Announces pd (installFirewallLists platform pd) id := by
  have installed (firewall : Firewall) : Announces pd
      (iterActiveConnections (pd.setFirewall firewall) (checkBlockedConnCb platform)) id := by
    have same : Announces pd (pd.setFirewall firewall) id := .of_same rfl rfl rfl
    exact same.trans (recheckAll_announces platform (live.setFirewall firewall) id)
  unfold installFirewallLists
  cases pd.firewall.newBl with
  | some bl => exact installed (pd.firewall.installBlocklist bl)
  | none =>
    cases pd.firewall.newWl with
    | some wl => exact installed (pd.firewall.installWhitelist wl)
    | none => exact .of_same rfl rfl rfl

/-- A waiting list settles every verdict. -/
theorem installFirewallLists_settled (live : Live pd) (member : slot ∈ pd.connections)
    (waiting : pd.firewall.newBl.isSome = true ∨ pd.firewall.newWl.isSome = true) :
    Settled (installFirewallLists platform pd) slot := by
  have installed (firewall : Firewall) : Settled
      (iterActiveConnections (pd.setFirewall firewall) (checkBlockedConnCb platform)) slot :=
    recheckAll_settled platform live.distinct member (live.ready slot member).isOpen
  unfold installFirewallLists
  cases newBl : pd.firewall.newBl with
  | some bl => exact installed (pd.firewall.installBlocklist bl)
  | none =>
    cases newWl : pd.firewall.newWl with
    | some wl => exact installed (pd.firewall.installWhitelist wl)
    | none =>
      grind

theorem installFirewallLists_idle (newBl : pd.firewall.newBl = none)
    (newWl : pd.firewall.newWl = none) : installFirewallLists platform pd = pd := by
  unfold installFirewallLists
  rw [newBl, newWl]

theorem installDecryptionList_same (pd : Pcapdroid) (id : ConnId) :
    (installDecryptionList pd).conn id = pd.conn id ∧
      (installDecryptionList pd).newConns = pd.newConns ∧
      (installDecryptionList pd).connsUpdates = pd.connsUpdates ∧
      (installDecryptionList pd).firewall = pd.firewall := by
  unfold installDecryptionList
  split <;> exact ⟨rfl, rfl, rfl, rfl⟩

theorem periodicTask_live (live : Live pd) (exported : Bool) :
    Live (periodicTask exported pd) := by
  have step := periodicTask_periodicStep exported pd
  refine ⟨by rw [step.connections]; exact live.distinct, ?_⟩
  intro slot member
  rw [step.connections] at member
  have ready := live.ready slot member
  refine ⟨?_, periodicTask_pendingQueued exported ready.queued⟩
  rw [(Reported.sameVerdict (step.conns slot.data)).status_eq]
  exact ready.isOpen

end Lists

/-- What the callback leaves of the flags and the identity of a connection. -/
theorem whitelistedConn_flags (pd : Pcapdroid) (whitelist : Blacklist) (tuple : FiveTuple)
    (data : Conn) :
    let cleared := whitelistConn whitelist tuple data
    let after := whitelistedConn pd whitelist tuple data
    after.blacklistedIp = cleared.blacklistedIp ∧
      after.blacklistedDomain = cleared.blacklistedDomain ∧ flagged after = flagged cleared ∧
      after.uid = data.uid := by
  have uid : (whitelistConn whitelist tuple data).uid = data.uid := rfl
  simp only [whitelistedConn]
  dsimp only [flagged, Conn.markPending, Conn.markStats, Conn.setToBlock]
  grind

/-- The verdict of a connection that lost a flag is re-checked if there is a blocklist. -/
theorem whitelistedConn_settled {tuple : FiveTuple} {data : Conn}
    (blocklist : pd.firewall.bl.isSome = true) (cleared : (data.blacklistedIp = true ∧
        (whitelistConn whitelist tuple data).blacklistedIp = false) ∨
      (data.blacklistedDomain = true ∧
        (whitelistConn whitelist tuple data).blacklistedDomain = false)) :
    (whitelistedConn pd whitelist tuple data).toBlock =
      policy pd tuple (whitelistedConn pd whitelist tuple data) := by
  have changed : ((whitelistConn whitelist tuple data).blacklistedIp != data.blacklistedIp ||
      (whitelistConn whitelist tuple data).blacklistedDomain != data.blacklistedDomain) = true := by
    grind
  simp only [whitelistedConn, if_pos changed, if_pos blocklist, policy_marked]
  rfl

/-- Without a blocklist the callback leaves the verdict alone. -/
theorem whitelistedConn_toBlock (whitelist : Blacklist) (tuple : FiveTuple) (data : Conn)
    (noBlocklist : pd.firewall.bl = none) :
    (whitelistedConn pd whitelist tuple data).toBlock = data.toBlock := by
  simp only [whitelistedConn, noBlocklist]
  split <;> rfl

theorem SameVerdict.whitelistConn_flags {before after : Conn} (same : SameVerdict before after)
    (whitelist : Blacklist) (tuple : FiveTuple) :
    flagged (whitelistConn whitelist tuple after) =
      flagged (whitelistConn whitelist tuple before) := by
  simp only [flagged, whitelistConn, same.uid_eq, same.internal_eq, same.ip_eq, same.domain_eq,
    same.info_eq]

/-- The states that `pd_housekeeping` goes through when it installs a malware whitelist. -/
structure Installation (platform : Platform) (whitelist : Blacklist)
    (before after : Pcapdroid) : Prop where
  firewall : after.firewall = installedFirewall before.firewall
  announces : ∀ id, VerdictChanged (before.conn id) (after.conn id) → Announced after id
  settled : before.firewall.newBl.isSome = true ∨ before.firewall.newWl.isSome = true →
    ∀ slot ∈ before.connections, Settled after slot
  conn : before.firewall.newBl = none → before.firewall.newWl = none →
    ∀ slot ∈ before.connections, ∃ data, SameVerdict (before.conn slot.data) data ∧
      after.conn slot.data = whitelistedConn before whitelist slot.tuple data

theorem pdHousekeeping_installation (platform : Platform) (live : Live pd)
    (requested : pd.malwareDetection.newWl = some whitelist) (exported : Bool) :
    Installation platform whitelist pd (pdHousekeeping platform exported pd) := by
  have periodic := periodicTask_periodicStep exported pd
  have same (id : ConnId) := Reported.sameVerdict (periodic.conns id)
  have reportedLive := periodicTask_live live exported
  have firewall := (pdHousekeeping_lists platform exported pd).firewall
  unfold pdHousekeeping at firewall ⊢
  generalize periodicTask exported pd = reported at *
  have waiting : reported.malwareDetection.newWl = some whitelist := periodic.newWl.trans requested
  have installing : installMalwareWhitelist platform reported =
      iterActiveConnections
        (reported.setMalwareDetection (reported.malwareDetection.installWhitelist whitelist))
        (checkBlacklistedConnCb platform) := by
    unfold installMalwareWhitelist
    rw [waiting]
  rw [installing] at firewall ⊢
  generalize begun : reported.setMalwareDetection
    (reported.malwareDetection.installWhitelist whitelist) = start at firewall ⊢
  have conns (id : ConnId) : start.conn id = reported.conn id := by rw [← begun]; rfl
  have startFirewall : start.firewall = pd.firewall := by rw [← begun]; exact periodic.firewall
  have startConnections : start.connections = pd.connections := by
    rw [← begun]
    exact periodic.connections
  have entered (id : ConnId) : Announces reported start id := by
    rw [← begun]
    exact .of_same rfl rfl rfl
  have started : Live start :=
    reportedLive.of_announces (startConnections.trans periodic.connections.symm) entered
  have installed : start.malwareDetection.whitelist = some whitelist := by rw [← begun]; rfl
  have step := iterActiveConnections_touches (checkBlacklistedConnCb_touches platform) start
  have announces (id : ConnId) := whitelistAll_announces platform started installed id
  have visited (slot : ConnAndTuple) (member : slot ∈ start.connections) :=
    (whitelistAll_visited platform started installed member).1
  generalize iterActiveConnections start (checkBlacklistedConnCb platform) = whitelisted at *
  have live := started.of_announces step.connections announces
  have waitingFirewall := step.firewall.trans startFirewall
  have decryption (id : ConnId) :=
    installDecryptionList_same (installFirewallLists platform whitelisted) id
  have finished (id : ConnId) : Announces reported
      (installDecryptionList (installFirewallLists platform whitelisted)) id := by
    have last : Announces (installFirewallLists platform whitelisted)
        (installDecryptionList (installFirewallLists platform whitelisted)) id :=
      .of_same (decryption id).1 (decryption id).2.1 (decryption id).2.2.1
    exact (((entered id).trans (announces id)).trans
      (installFirewallLists_announces platform live id)).trans last
  refine ⟨firewall, ?_, ?_, ?_⟩
  · intro id changed
    refine (finished id).changed ?_
    unfold VerdictChanged at changed ⊢
    rw [(same id).ip_eq, (same id).domain_eq, (same id).toBlock_eq]
    exact changed
  · intro pending slot member
    rw [← waitingFirewall] at pending
    rw [← startConnections, ← step.connections] at member
    have settled := installFirewallLists_settled platform live member pending
    unfold Settled
    rw [(decryption slot.data).1, policy_congr (decryption slot.data).2.2.2]
    exact settled
  · intro newBl newWl slot member
    rw [← startConnections] at member
    rw [← waitingFirewall] at newBl newWl
    refine ⟨reported.conn slot.data, same slot.data, ?_⟩
    rw [(decryption slot.data).1, installFirewallLists_idle platform newBl newWl,
      visited slot member, conns]
    simp only [whitelistedConn, startFirewall, policy_congr startFirewall]

theorem flagCleared_of_unflagged {before after : Conn}
    (hit : before.blacklistedIp = true ∨ before.blacklistedDomain = true)
    (unflagged : flagged after = false) : FlagCleared before after := by
  unfold flagged at unflagged
  simp only [Bool.or_eq_false_iff] at unflagged
  rcases hit with hit | hit
  · exact .inl ⟨hit, unflagged.1.2⟩
  · exact .inr ⟨hit, unflagged.2⟩

theorem Settled.unblocked (settled : Settled pd slot)
    (unflagged : flagged (pd.conn slot.data) = false)
    (blocklist : blockedByBlocklist pd slot.tuple (pd.conn slot.data) = false)
    (mode : blockedByWhitelistMode pd slot.tuple (pd.conn slot.data) = false) :
    (pd.conn slot.data).toBlock = false := by
  unfold Settled policy at settled
  grind

section Idle

variable {platform : Platform} {whitelist : Blacklist} {before after : Pcapdroid}
  {slot : ConnAndTuple}

variable (installation : Installation platform whitelist before after)
include installation

variable (newBl : before.firewall.newBl = none)
include newBl

variable (newWl : before.firewall.newWl = none)
include newWl

theorem Installation.firewall_idle : after.firewall = before.firewall := by
  rw [installation.firewall, installedFirewall, newBl, newWl]

/-- With no list of the firewall waiting, only the callback decides. -/
theorem Installation.conn_idle (member : slot ∈ before.connections) :
    flagged (after.conn slot.data) =
        flagged (whitelistConn whitelist slot.tuple (before.conn slot.data)) ∧
      (after.conn slot.data).uid = (before.conn slot.data).uid ∧
      (before.firewall.bl = none →
        (after.conn slot.data).toBlock = (before.conn slot.data).toBlock) ∧
      (before.firewall.bl.isSome = true →
        FlagCleared (before.conn slot.data) (after.conn slot.data) → Settled after slot) := by
  obtain ⟨data, same, conn⟩ := installation.conn newBl newWl slot member
  obtain ⟨ip, domain, flags, uid⟩ := whitelistedConn_flags before whitelist slot.tuple data
  refine ⟨?_, ?_, ?_, ?_⟩
  · rw [conn, flags, same.whitelistConn_flags]
  · rw [conn, uid, same.uid_eq]
  · intro noBlocklist
    rw [conn, whitelistedConn_toBlock whitelist slot.tuple data noBlocklist, same.toBlock_eq]
  · intro blocklist cleared
    unfold FlagCleared at cleared
    rw [conn, ip, domain, ← same.ip_eq, ← same.domain_eq] at cleared
    unfold Settled
    rw [conn, policy_congr (installation.firewall_idle newBl newWl)]
    exact whitelistedConn_settled blocklist cleared

end Idle

/-- Installing a malware whitelist unblocks the connections it exonerates, and announces
every change, exactly if the firewall has a blocklist, a list of the firewall is
waiting, or there is no such connection. -/
theorem whitelist_unblocks_iff (platform : Platform) (pd : Pcapdroid) (live : Live pd)
    (whitelist : Blacklist) (requested : pd.malwareDetection.newWl = some whitelist)
    (exported : Bool) :
    WhitelistApplied pd (pdHousekeeping platform exported pd) ↔
      pd.firewall.bl.isSome = true ∨ pd.firewall.newBl.isSome = true ∨
        pd.firewall.newWl.isSome = true ∨ ∀ slot, ¬ Exonerated pd whitelist slot := by
  have installation := pdHousekeeping_installation platform live requested exported
  generalize pdHousekeeping platform exported pd = after at installation ⊢
  by_cases waiting : pd.firewall.newBl.isSome = true ∨ pd.firewall.newWl.isSome = true
  · refine ⟨fun _ => .inr (waiting.imp_right .inl), fun _ => ⟨?_, installation.announces⟩⟩
    intro slot member _ unflagged blocklist mode
    exact (installation.settled waiting slot member).unblocked unflagged blocklist mode
  · obtain ⟨noBl, noWl⟩ := not_or.mp waiting
    have newBl := Option.not_isSome_iff_eq_none.mp noBl
    have newWl := Option.not_isSome_iff_eq_none.mp noWl
    have idle (slot : ConnAndTuple) (member : slot ∈ pd.connections) :=
      installation.conn_idle newBl newWl member
    have firewall := installation.firewall_idle newBl newWl
    have modes (slot : ConnAndTuple)
        (uid : (after.conn slot.data).uid = (pd.conn slot.data).uid) :
        blockedByWhitelistMode after slot.tuple (after.conn slot.data) =
          blockedByWhitelistMode pd slot.tuple (pd.conn slot.data) := by
      unfold blockedByWhitelistMode
      rw [firewall, uid]
    cases bl : pd.firewall.bl with
    | some list =>
      refine ⟨fun _ => .inl rfl, fun _ => ⟨?_, installation.announces⟩⟩
      intro slot member cleared unflagged blocklist mode
      have settled := (idle slot member).2.2.2 (by rw [bl]; rfl) cleared
      exact settled.unblocked unflagged blocklist mode
    | none =>
      constructor
      · intro applied
        refine .inr (.inr (.inr ?_))
        rintro slot ⟨active, blocked, hit, exonerated, allowed⟩
        obtain ⟨flags, uid, toBlock, _⟩ := idle slot active
        have unflagged := flags.trans exonerated
        have unblocked := applied.unblocked slot active (flagCleared_of_unflagged hit unflagged)
          unflagged ?_ ?_
        · rw [toBlock bl, blocked] at unblocked
          cases unblocked
        · unfold blockedByBlocklist
          rw [firewall, bl]
          exact Bool.and_false _
        · rw [modes slot uid, allowed]
      · intro condition
        refine ⟨?_, installation.announces⟩
        intro slot member cleared unflagged _ mode
        obtain ⟨flags, uid, toBlock, _⟩ := idle slot member
        rcases condition with present | waitsBl | waitsWl | noVictim
        · cases present
        · exact absurd waitsBl noBl
        · exact absurd waitsWl noWl
        · cases blocked : (pd.conn slot.data).toBlock with
          | false => rw [toBlock bl, blocked]
          | true =>
            refine absurd ⟨member, blocked, ?_, flags.symm.trans unflagged, ?_⟩ (noVictim slot)
            · exact cleared.imp And.left And.left
            · rw [← mode, modes slot uid]

/-- A capture with one blocked connection, flagged for its destination, and a waiting
malware whitelist that holds the app of the connection. -/
def flaggedCapture (firewall : Firewall) : Pcapdroid :=
  { Pcapdroid.initial with
    newConnId := 1
    connections := [⟨⟨0x0100000a, 0x08080808, 0x1234, 0xbb01, 4, ipprotoTcp⟩, 0⟩]
    heap := fun _ => { Conn.zeroed with uid := 10001, blacklistedIp := true, toBlock := true }
    malwareDetection := ⟨true, none, none, false, false, none,
      some { Blacklist.empty with matchUid := (· == 10001) }⟩
    firewall := firewall }

theorem flaggedCapture_live (firewall : Firewall) : Live (flaggedCapture firewall) := by
  refine ⟨List.nodup_singleton _, ?_⟩
  intro slot _
  exact ⟨rfl, fun pending => by cases pending⟩

theorem whitelist_unblocks_with_blocklist :
    WhitelistApplied (flaggedCapture ⟨true, some .empty, none, false, none, none⟩)
      (pdHousekeeping .inert false (flaggedCapture ⟨true, some .empty, none, false, none, none⟩)) :=
  (whitelist_unblocks_iff .inert _ (flaggedCapture_live _)
    { Blacklist.empty with matchUid := (· == 10001) } rfl false).mpr (.inl rfl)

/-- Without a blocklist, the whitelisted connection stays blocked. -/
theorem whitelisted_connection_stays_blocked :
    ¬ WhitelistApplied (flaggedCapture ⟨true, none, none, false, none, none⟩)
      (pdHousekeeping .inert false (flaggedCapture ⟨true, none, none, false, none, none⟩)) := by
  intro applied
  have unblocked := applied.unblocked _ (.head _) (.inl ⟨rfl, rfl⟩) rfl rfl rfl
  cases unblocked

end PcapdroidFormal.Firewall
