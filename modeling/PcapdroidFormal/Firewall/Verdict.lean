import PcapdroidFormal.Core.Connections

/-!
# The verdict of a connection

`pd_new_connection` and `check_blocked_conn_cb` decide independently whether a
connection is blocked.  Both are compared with the policy, which looks at the
flags, the blocklist and whitelist mode at once.
-/

namespace PcapdroidFormal.Firewall

open PcapdroidFormal.Core

variable {pd : Pcapdroid} {uid : Int} {data : Conn}

/-- The blocklist matches the uid, the destination or the host. -/
def blocklistMatches (bl : Blacklist) (tuple : FiveTuple) (data : Conn) : Bool :=
  bl.matchUid data.uid || bl.matchIp tuple.dstIp tuple.ipver ||
    data.info.any fun host => !host.isEmpty && bl.matchDomain host

/-- An enabled firewall blocks the connection by its blocklist. -/
def blockedByBlocklist (pd : Pcapdroid) (tuple : FiveTuple) (data : Conn) : Bool :=
  pd.firewall.enabled && pd.firewall.bl.any fun bl => blocklistMatches bl tuple data

/-- An enabled firewall blocks the connection by whitelist mode. -/
def blockedByWhitelistMode (pd : Pcapdroid) (tuple : FiveTuple) (data : Conn) : Bool :=
  pd.firewall.enabled && pd.firewall.wlEnabled && !exemptFromWhitelist tuple data.uid &&
    pd.firewall.wl.any fun wl => !wl.matchUid data.uid

/-- The connection is flagged by the malware detection or blocked internally. -/
def flagged (data : Conn) : Bool :=
  data.blacklistedInternal || data.blacklistedIp || data.blacklistedDomain

/-- The current policy. -/
def policy (pd : Pcapdroid) (tuple : FiveTuple) (data : Conn) : Bool :=
  flagged data || blockedByBlocklist pd tuple data || blockedByWhitelistMode pd tuple data

/-- The policy depends on the firewall only. -/
theorem policy_congr {other : Pcapdroid} (same : other.firewall = pd.firewall)
    (tuple : FiveTuple) (data : Conn) : policy other tuple data = policy pd tuple data := by
  unfold policy blockedByBlocklist blockedByWhitelistMode
  rw [same]

/-- The verdict and the marks of a connection are no part of the policy. -/
theorem policy_marked (pd : Pcapdroid) (tuple : FiveTuple) (data : Conn) (toBlock : Bool) :
    policy pd tuple (data.setToBlock toBlock).markStats.markPending = policy pd tuple data := by
  rfl

/-- The connection has the verdict of the policy. -/
def Settled (pd : Pcapdroid) (slot : ConnAndTuple) : Prop :=
  (pd.conn slot.data).toBlock = policy pd slot.tuple (pd.conn slot.data)

/-! ## The re-check -/

section

variable (platform : Platform) (pd : Pcapdroid) (tuple : FiveTuple) (data : Conn)

theorem checkWhitelistModeBlock_eq :
    checkWhitelistModeBlock pd tuple data =
      data.setToBlock (data.toBlock || blockedByWhitelistMode pd tuple data) := by
  unfold checkWhitelistModeBlock blockedByWhitelistMode
  cases pd.firewall.wl with
  | none => simp
  | some wl =>
    by_cases checked : (pd.firewall.enabled && pd.firewall.wlEnabled && !data.toBlock &&
        !exemptFromWhitelist tuple data.uid) = true
    · grind
    · simp only [if_neg checked]
      refine (Conn.setToBlock_eq_self ?_).symm
      cases blocked : data.toBlock with
      | true => rfl
      | false => simp_all

theorem recheckBlocklist_eq :
    recheckBlocklist pd tuple data =
      data.setToBlock (flagged data || blockedByBlocklist pd tuple data) := by
  unfold recheckBlocklist blockedByBlocklist flagged blocklistMatches
  cases pd.firewall.bl with
  | none => simp
  | some bl =>
    cases flags : data.blacklistedInternal || data.blacklistedIp || data.blacklistedDomain <;>
      cases pd.firewall.enabled <;> rfl

/-- The re-check computes the policy. -/
theorem recheck_eq :
    checkWhitelistModeBlock pd tuple (recheckBlocklist pd tuple data) =
      data.setToBlock (policy pd tuple data) := by
  rw [recheckBlocklist_eq, checkWhitelistModeBlock_eq]
  rfl

/-- The state in which `check_blocked_conn_cb` has decided. -/
def noteRecheck (pd : Pcapdroid) (tuple : FiveTuple) (id : ConnId) : Pcapdroid :=
  pd.emit (.recheck id (pd.conn id).toBlock (policy pd tuple (pd.conn id)))

/-- `check_blocked_conn_cb` gives the connection the verdict of the policy, and
queues it if that is a change. -/
theorem checkBlockedConnCb_eq (id : ConnId) :
    checkBlockedConnCb platform pd tuple id =
      if (pd.conn id).toBlock = policy pd tuple (pd.conn id) then noteRecheck pd tuple id
      else pdNotifyConnectionUpdate platform ((noteRecheck pd tuple id).setConn id
        ((pd.conn id).setToBlock (policy pd tuple (pd.conn id))).markStats) tuple id := by
  simp only [checkBlockedConnCb, recheck_eq, Conn.setToBlock_toBlock]
  by_cases settled : (pd.conn id).toBlock = policy pd tuple (pd.conn id)
  · have unchanged : ¬ ((pd.conn id).toBlock != policy pd tuple (pd.conn id)) = true :=
      fun changed => bne_iff_ne.mp changed settled
    rw [if_pos settled, if_neg unchanged, Conn.setToBlock_eq_self settled.symm]
    exact Pcapdroid.setConn_conn (noteRecheck pd tuple id) id
  · rw [if_neg settled, if_pos (bne_iff_ne.mpr settled)]
    rfl

/-! ## New connections -/

/-- The malware detection flags a host. -/
def hostHit (pd : Pcapdroid) (host : Host) (data : Conn) : Bool :=
  !data.blacklistedDomain && !data.whitelistedApp &&
    pd.malwareDetection.bl.any (·.matchDomain host) &&
      !pd.malwareDetection.whitelist.any (·.matchDomain host)

/-- The malware detection flags the host of the connection. -/
def domainHit (pd : Pcapdroid) (data : Conn) : Bool :=
  data.info.any fun host => !host.isEmpty && hostHit pd host data

/-- The malware detection flags the destination of the connection. -/
def ipHit (pd : Pcapdroid) (tuple : FiveTuple) (data : Conn) : Bool :=
  !data.whitelistedApp && pd.malwareDetection.bl.any (·.matchIp tuple.dstIp tuple.ipver) &&
    !pd.malwareDetection.whitelist.any (·.matchIp tuple.dstIp tuple.ipver)

/-- The firewall blocks the host of the connection. -/
def domainBlocked (pd : Pcapdroid) (data : Conn) : Bool :=
  pd.firewall.enabled && pd.firewall.bl.any fun bl =>
    data.info.any fun host => !host.isEmpty && bl.matchDomain host

def addressBlocked (pd : Pcapdroid) (tuple : FiveTuple) (uid : Int) : Bool :=
  pd.firewall.enabled && pd.firewall.bl.any fun bl =>
    bl.matchIp tuple.dstIp tuple.ipver || bl.matchUid uid

theorem blockedByBlocklist_parts :
    blockedByBlocklist pd tuple data =
      (domainBlocked pd data || addressBlocked pd tuple data.uid) := by
  unfold blockedByBlocklist domainBlocked addressBlocked blocklistMatches
  cases pd.firewall.bl with
  | none => simp
  | some bl => cases pd.firewall.enabled <;> simp [Bool.or_comm]

/-- Set both a domain flag and the verdict. -/
def flagDomain (data : Conn) (hit : Bool) : Conn :=
  { data with blacklistedDomain := data.blacklistedDomain || hit }.setToBlock (data.toBlock || hit)

/-- Set both an address flag and the verdict. -/
def flagIp (data : Conn) (hit : Bool) : Conn :=
  { data with blacklistedIp := data.blacklistedIp || hit }.setToBlock (data.toBlock || hit)

@[simp] theorem flagDomain_false (data : Conn) : flagDomain data false = data := by
  unfold flagDomain
  rw [Bool.or_false, Bool.or_false]
  rfl

@[simp] theorem flagIp_false (data : Conn) : flagIp data false = data := by
  unfold flagIp
  rw [Bool.or_false, Bool.or_false]
  rfl

theorem checkMalwareDomain_eq (host : Host) (data : Conn) :
    checkMalwareDomain pd host data = flagDomain data (hostHit pd host data) := by
  unfold checkMalwareDomain hostHit
  cases pd.malwareDetection.bl with
  | none => simp
  | some bl =>
    simp only [Option.any_some]
    split
    next hit =>
      rw [hit, flagDomain, Bool.or_true, Bool.or_true]
    next miss =>
      rw [Bool.eq_false_iff.mpr miss, flagDomain_false]

/-- A check that only looks at connections not yet blocked. -/
theorem setToBlock_unless_blocked (enabled blocks : Bool) :
    (if (enabled && !data.toBlock) = true then data.setToBlock blocks else data) =
      data.setToBlock (data.toBlock || (enabled && blocks)) := by
  cases blocked : data.toBlock with
  | true =>
    simp only [Bool.not_true, Bool.and_false, Bool.false_eq_true, if_false, Bool.true_or]
    exact (Conn.setToBlock_eq_self blocked.symm).symm
  | false =>
    cases enabled with
    | true => rfl
    | false => exact (Conn.setToBlock_eq_self blocked.symm).symm

theorem checkBlockedDomain_eq (host : Host) (data : Conn) :
    checkBlockedDomain pd host data =
      data.setToBlock (data.toBlock ||
        (pd.firewall.enabled && pd.firewall.bl.any (·.matchDomain host))) := by
  unfold checkBlockedDomain
  cases pd.firewall.bl with
  | none => simp
  | some bl => exact setToBlock_unless_blocked data pd.firewall.enabled (bl.matchDomain host)

theorem checkBlacklistedDomain_eq :
    checkBlacklistedDomain pd data = (flagDomain data (domainHit pd data)).setToBlock
        (data.toBlock || domainHit pd data || domainBlocked pd data) := by
  unfold checkBlacklistedDomain domainHit domainBlocked
  cases data.info with
  | none => simp
  | some host =>
    by_cases empty : host.isEmpty = true
    · simp [empty]
    · simp only [checkMalwareDomain_eq, checkBlockedDomain_eq, Option.any_some,
        Bool.eq_false_iff.mpr empty, Bool.not_false, Bool.true_and]
      rfl

theorem checkBlacklistedIp_eq :
    checkBlacklistedIp pd tuple data = flagIp data (ipHit pd tuple data) := by
  unfold checkBlacklistedIp ipHit
  cases pd.malwareDetection.bl with
  | none => simp
  | some bl =>
    simp only [Option.any_some]
    split
    next hit =>
      rw [hit, flagIp, Bool.or_true, Bool.or_true]
    next miss =>
      rw [Bool.eq_false_iff.mpr miss, flagIp_false]

theorem checkBlocklist_eq :
    checkBlocklist pd tuple data =
      data.setToBlock (data.toBlock || addressBlocked pd tuple data.uid) := by
  unfold checkBlocklist addressBlocked
  cases pd.firewall.bl with
  | none => simp
  | some bl =>
    exact setToBlock_unless_blocked data pd.firewall.enabled
      (bl.matchIp tuple.dstIp tuple.ipver || bl.matchUid data.uid)

end

/-! ## netd requests -/

/-- What the netd resolution may do to a connection: it gives the uid of the new
connection to one that had the uid of netd. -/
inductive NetdResolved (uid : Int) (before : Conn) : Conn → Prop
  | kept (missed : Bool) : NetdResolved uid before { before with netdBlockMissed := missed }
  | renamed (missed : Bool) (netd : before.uid = uidNetd) :
      NetdResolved uid before { before with uid := uid, netdBlockMissed := missed }

theorem NetdResolved.refl (uid : Int) (conn : Conn) : NetdResolved uid conn conn :=
  .kept conn.netdBlockMissed

theorem NetdResolved.trans {first second third : Conn}
    (earlier : NetdResolved uid first second) (later : NetdResolved uid second third) :
    NetdResolved uid first third := by
  cases earlier with
  | kept missed =>
    cases later with
    | kept again => exact .kept again
    | renamed again netd => exact .renamed again netd
  | renamed missed netd =>
    cases later with
    | kept again => exact .renamed again netd
    | renamed again _ => exact .renamed again netd

/-- The netd resolution changes nothing but connections and the dump delay. -/
structure NetdResolution (uid : Int) (before after : Pcapdroid) : Prop where
  rest : ∃ heap waiting next, after =
    { before with heap := heap, netdResolveWaiting := waiting, nextConnectionsDump := next }
  conns : ∀ id, NetdResolved uid (before.conn id) (after.conn id)

theorem NetdResolution.refl (uid : Int) (pd : Pcapdroid) : NetdResolution uid pd pd :=
  ⟨⟨pd.heap, pd.netdResolveWaiting, pd.nextConnectionsDump, rfl⟩, fun id => .refl uid (pd.conn id)⟩

theorem NetdResolution.trans {first second third : Pcapdroid}
    (earlier : NetdResolution uid first second) (later : NetdResolution uid second third) :
    NetdResolution uid first third := by
  obtain ⟨⟨_, _, _, rfl⟩, before⟩ := earlier
  obtain ⟨⟨heap, waiting, next, rfl⟩, after⟩ := later
  exact ⟨⟨heap, waiting, next, rfl⟩, fun id => (before id).trans (after id)⟩

section

variable (platform : Platform) (uid : Int) (info : Host) (pd : Pcapdroid)

theorem netdResolveDone_resolution :
    NetdResolution uid pd (netdResolveDone pd) := by
  unfold netdResolveDone
  split
  · exact .refl uid pd
  · split
    · exact ⟨⟨pd.heap, _, _, rfl⟩, fun id => .refl uid (pd.conn id)⟩
    · exact ⟨⟨pd.heap, _, _, rfl⟩, fun id => .refl uid (pd.conn id)⟩

/-- Giving one netd request its uid. -/
theorem rename_resolution (id : ConnId) (missed : Bool) (netd : (pd.conn id).uid = uidNetd) :
    NetdResolution uid pd
      (pd.setConn id { pd.conn id with uid := uid, netdBlockMissed := missed }) := by
  refine ⟨⟨_, pd.netdResolveWaiting, pd.nextConnectionsDump, rfl⟩, ?_⟩
  exact fun other => Pcapdroid.setConn_cases (.renamed missed netd)
    (fun other _ => .refl uid (pd.conn other)) other

theorem resolveNetdUid_resolution
    (slot : ConnAndTuple) : NetdResolution uid pd (resolveNetdUid uid info pd slot) := by
  simp only [resolveNetdUid]
  split
  next found =>
    exact (rename_resolution uid pd slot.data _ found.1).trans
      (netdResolveDone_resolution uid _)
  next => exact .refl uid pd

theorem resolveNetdUids_resolution (slots : List ConnAndTuple) :
    NetdResolution uid pd (slots.foldl (resolveNetdUid uid info) pd) := by
  induction slots generalizing pd with
  | nil => exact .refl uid pd
  | cons slot slots ih =>
    exact (resolveNetdUid_resolution uid info pd slot).trans
      (ih (resolveNetdUid uid info pd slot))

/-! ## Creation -/

/-- The connection that `pd_new_connection` starts from. -/
def freshConn (pd : Pcapdroid) (uid : Int) : Conn :=
  Conn.allocated.markPending.identify uid pd.newConnId
    (pd.malwareDetection.whitelist.any (·.matchUid uid))

theorem registerConnection_eq (tuple : FiveTuple) (uid : Int) :
    registerConnection platform pd tuple uid =
      (enqueue pd .newConns ⟨tuple, pd.newConnId⟩).takeConnId.setConn pd.newConnId
        (freshConn pd uid) := by
  have queued : notifConnection platform .newConns
      (pd.setConn pd.newConnId Conn.allocated) tuple pd.newConnId =
      (enqueue pd .newConns ⟨tuple, pd.newConnId⟩).setConn pd.newConnId
        Conn.allocated.markPending := by
    simp only [notifConnection, Pcapdroid.setConn_conn_self]
    exact Pcapdroid.setConn_setConn (enqueue pd .newConns ⟨tuple, pd.newConnId⟩) pd.newConnId
      Conn.allocated Conn.allocated.markPending
  simp only [registerConnection, queued, Pcapdroid.setConn_conn_self]
  exact Pcapdroid.setConn_setConn
    (enqueue pd .newConns ⟨tuple, pd.newConnId⟩).takeConnId pd.newConnId
    Conn.allocated.markPending (freshConn pd uid)

structure HostDecided (pd : Pcapdroid) (uid : Int) (data : Conn) : Prop where
  uid_eq : data.uid = uid
  status_eq : data.status = .new
  pending : data.pendingNotification = true
  not_internal : data.blacklistedInternal = false
  not_ip : data.blacklistedIp = false
  verdict : data.toBlock = (data.blacklistedDomain || domainBlocked pd data)

theorem freshConn_hostDecided (now : Pcapdroid) (uid : Int) :
    HostDecided now uid (freshConn pd uid) where
  uid_eq := rfl
  status_eq := rfl
  pending := rfl
  not_internal := rfl
  not_ip := rfl
  verdict := by simp [freshConn, domainBlocked, Conn.allocated, Conn.markPending, Conn.identify,
    Conn.zeroed]

end

/-- The host is decided on for a connection that nothing has decided on yet. -/
theorem checkBlacklistedDomain_hostDecided
    (uid_eq : data.uid = uid) (status_eq : data.status = .new)
    (pending : data.pendingNotification = true) (not_internal : data.blacklistedInternal = false)
    (not_ip : data.blacklistedIp = false) (not_domain : data.blacklistedDomain = false)
    (undecided : data.toBlock = false) :
    HostDecided pd uid (checkBlacklistedDomain pd data) := by
  rw [checkBlacklistedDomain_eq]
  refine ⟨uid_eq, status_eq, pending, not_internal, not_ip, ?_⟩
  have flag : ((flagDomain data (domainHit pd data)).setToBlock
      (data.toBlock || domainHit pd data || domainBlocked pd data)).blacklistedDomain =
      (data.blacklistedDomain || domainHit pd data) := rfl
  rw [flag, undecided, not_domain]
  rfl

/-- The rest of the state that the creation leaves alone. -/
structure SameLists (before after : Pcapdroid) : Prop where
  newConnId : after.newConnId = before.newConnId
  connections : after.connections = before.connections
  newConns : after.newConns = before.newConns
  connsUpdates : after.connsUpdates = before.connsUpdates
  vpnCapture : after.vpnCapture = before.vpnCapture
  malwareDetection : after.malwareDetection = before.malwareDetection
  firewall : after.firewall = before.firewall

theorem NetdResolution.sameLists {before after : Pcapdroid}
    (resolution : NetdResolution uid before after) : SameLists before after := by
  obtain ⟨⟨_, _, _, rfl⟩, _⟩ := resolution
  exact ⟨rfl, rfl, rfl, rfl, rfl, rfl, rfl⟩

/-- What the host part of `pd_new_connection` does to the other connections and to
the new one. -/
structure HostResolution (uid : Int) (id : ConnId) (before after : Pcapdroid) : Prop where
  sameLists : SameLists before after
  others : ∀ other, other ≠ id → NetdResolved uid (before.conn other) (after.conn other)
  decided : HostDecided after uid (after.conn id)

/-- The connection with a host from the LRU cache. -/
def cachedHost (host : Host) (data : Conn) : Conn :=
  { data with info := some host, infoFromLru := true }

section

variable (pd before : Pcapdroid) (tuple : FiveTuple)

theorem cachedHost_hostDecided {before : Pcapdroid} {host : Host}
    (resolved : NetdResolved uid (cachedHost host (freshConn before uid)) data) :
    HostDecided pd uid (checkBlacklistedDomain pd data) := by
  cases resolved with
  | kept missed => exact checkBlacklistedDomain_hostDecided rfl rfl rfl rfl rfl rfl rfl
  | renamed missed netd => exact checkBlacklistedDomain_hostDecided rfl rfl rfl rfl rfl rfl rfl

theorem resolveHost_found (uid : Int) (id : ConnId) {host : Host} {ipToHost : IpLru}
    (found : pd.ipToHost.findEntry tuple.dstIp = (some host, ipToHost)) :
    ∃ mid, NetdResolution uid
        (Pcapdroid.setConn { pd with ipToHost := ipToHost } id (cachedHost host (pd.conn id))) mid ∧
      resolveHost pd tuple uid id = mid.setConn id (checkBlacklistedDomain mid (mid.conn id)) := by
  simp only [resolveHost, found]
  by_cases unknown : uid = uidUnknown
  · refine ⟨_, NetdResolution.refl uid _, ?_⟩
    rw [if_pos unknown]
    rfl
  · refine ⟨_, resolveNetdUids_resolution uid host _ pd.newConns, ?_⟩
    rw [if_neg unknown]
    rfl

theorem resolveHost_resolution (uid : Int)
    (id : ConnId) (fresh : pd.conn id = freshConn before uid) :
    HostResolution uid id pd (resolveHost pd tuple uid id) := by
  rcases found : pd.ipToHost.findEntry tuple.dstIp with ⟨info, ipToHost⟩
  cases info with
  | none =>
    simp only [resolveHost, found]
    refine ⟨⟨rfl, rfl, rfl, rfl, rfl, rfl, rfl⟩, fun other _ => .refl uid (pd.conn other), ?_⟩
    have kept : Pcapdroid.conn { pd with ipToHost := ipToHost } id = freshConn before uid := fresh
    rw [kept]
    exact freshConn_hostDecided before _ uid
  | some host =>
    obtain ⟨mid, resolution, result⟩ := resolveHost_found pd tuple uid id found
    have same := resolution.sameLists
    have own := resolution.conns id
    rw [Pcapdroid.setConn_conn_self, fresh] at own
    rw [result]
    refine ⟨⟨same.newConnId, same.connections, same.newConns, same.connsUpdates,
      same.vpnCapture, same.malwareDetection, same.firewall⟩, ?_, ?_⟩
    · intro other different
      have kept := resolution.conns other
      rw [Pcapdroid.setConn_conn_other _ _ different] at kept ⊢
      exact kept
    · have decided := cachedHost_hostDecided mid own
      rw [Pcapdroid.setConn_conn_self]
      exact ⟨decided.uid_eq, decided.status_eq, decided.pending, decided.not_internal,
        decided.not_ip, decided.verdict⟩

/-- The verdict of the end of `pd_new_connection`. -/
def decidedConn (pd : Pcapdroid) (tuple : FiveTuple) (data : Conn) : Conn :=
  checkWhitelistModeBlock pd tuple (checkBlocklist pd tuple (checkBlacklistedIp pd tuple data))

theorem decidedConn_eq (data : Conn) :
    decidedConn pd tuple data = (flagIp data (ipHit pd tuple data)).setToBlock
        (data.toBlock || ipHit pd tuple data || addressBlocked pd tuple data.uid ||
          blockedByWhitelistMode pd tuple data) := by
  unfold decidedConn
  rw [checkBlacklistedIp_eq, checkBlocklist_eq, checkWhitelistModeBlock_eq]
  rfl

end

/-- The address, the uid and whitelist mode complete the policy. -/
theorem decidedConn_verdict (tuple : FiveTuple) (decided : HostDecided pd uid data) :
    (decidedConn pd tuple data).toBlock = policy pd tuple (decidedConn pd tuple data) := by
  have flags : flagged (decidedConn pd tuple data) =
      (ipHit pd tuple data || data.blacklistedDomain) := by
    rw [decidedConn_eq]
    change (data.blacklistedInternal || (data.blacklistedIp || ipHit pd tuple data) ||
      data.blacklistedDomain) = _
    rw [decided.not_internal, decided.not_ip, Bool.false_or, Bool.false_or]
  have blocklist : blockedByBlocklist pd tuple (decidedConn pd tuple data) =
      blockedByBlocklist pd tuple data := by
    rw [decidedConn_eq]
    rfl
  have mode : blockedByWhitelistMode pd tuple (decidedConn pd tuple data) =
      blockedByWhitelistMode pd tuple data := by
    rw [decidedConn_eq]
    rfl
  rw [policy, flags, blocklist, mode, blockedByBlocklist_parts]
  rw [decidedConn_eq, Conn.setToBlock_toBlock, decided.verdict]
  ac_rfl

/-- What `pd_new_connection` does: the new connection is queued and blocked as the
policy says, and other connections may only be given the uid of a netd request. -/
structure Created (pd : Pcapdroid) (tuple : FiveTuple) (uid : Int) (after : Pcapdroid) :
    Prop where
  sameLists : SameLists (enqueue pd .newConns ⟨tuple, pd.newConnId⟩).takeConnId after
  others : ∀ other, other ≠ pd.newConnId → NetdResolved uid (pd.conn other) (after.conn other)
  uid_eq : (after.conn pd.newConnId).uid = uid
  status_eq : (after.conn pd.newConnId).status = .new
  pending : (after.conn pd.newConnId).pendingNotification = true
  verdict : (after.conn pd.newConnId).toBlock = policy after tuple (after.conn pd.newConnId)

theorem decideConnection_eq (pd : Pcapdroid) (tuple : FiveTuple) (id : ConnId) :
    decideConnection pd tuple id =
      (countChecks pd (checkBlacklistedIp pd tuple (pd.conn id)).toBlock).setConn id
        (decidedConn pd tuple (pd.conn id)) := rfl

theorem pdNewConnection_created (platform : Platform) (pd : Pcapdroid) (tuple : FiveTuple)
    (uid : Int) : Created pd tuple uid (pdNewConnection platform pd tuple uid).1 := by
  simp only [pdNewConnection, registerConnection_eq, decideConnection_eq]
  generalize registered :
    (enqueue pd .newConns ⟨tuple, pd.newConnId⟩).takeConnId.setConn pd.newConnId
      (freshConn pd uid) = start
  have fresh : start.conn pd.newConnId = freshConn pd uid := by
    rw [← registered, Pcapdroid.setConn_conn_self]
  have resolution := resolveHost_resolution start pd tuple uid pd.newConnId fresh
  have same := resolution.sameLists
  have decided := resolution.decided
  subst registered
  refine ⟨⟨same.newConnId, same.connections, same.newConns, same.connsUpdates, same.vpnCapture,
    same.malwareDetection, same.firewall⟩, ?_, ?_, ?_, ?_, ?_⟩
  · intro other different
    have kept := resolution.others other different
    rw [Pcapdroid.setConn_conn_other _ _ different] at kept ⊢
    exact kept
  · rw [Pcapdroid.setConn_conn_self, decidedConn_eq]
    exact decided.uid_eq
  · rw [Pcapdroid.setConn_conn_self, decidedConn_eq]
    exact decided.status_eq
  · rw [Pcapdroid.setConn_conn_self, decidedConn_eq]
    exact decided.pending
  · rw [Pcapdroid.setConn_conn_self]
    exact decidedConn_verdict tuple decided

/-- Running the re-check right after the creation changes neither the verdict nor the
update type of the new connection and queues nothing. -/
theorem recheck_keeps_creation_verdict (platform : Platform) (pd : Pcapdroid) (tuple : FiveTuple)
    (uid : Int) :
    let created := (pdNewConnection platform pd tuple uid).1
    let id := (pdNewConnection platform pd tuple uid).2
    let rechecked := checkBlockedConnCb platform created tuple id
    (rechecked.conn id).toBlock = (created.conn id).toBlock ∧
      (rechecked.conn id).updateType = (created.conn id).updateType ∧
      rechecked.newConns = created.newConns ∧ rechecked.connsUpdates = created.connsUpdates := by
  intro created id rechecked
  have verdict : (created.conn id).toBlock = policy created tuple (created.conn id) :=
    (pdNewConnection_created platform pd tuple uid).verdict
  have settled : rechecked = noteRecheck created tuple id :=
    (checkBlockedConnCb_eq platform created tuple id).trans (if_pos verdict)
  rw [settled]
  exact ⟨rfl, rfl, rfl, rfl⟩

end PcapdroidFormal.Firewall
