import PcapdroidFormal.Core.Frames
import PcapdroidFormal.Firewall.Inspection

/-!
# Re-checking the active connections

Installing a list of the firewall runs `check_blocked_conn_cb` on the active
connections, which then all have the verdict of the policy.
-/

namespace PcapdroidFormal.Firewall

open PcapdroidFormal.Core

/-- The connection keeps its uid and its status. -/
structure SameIdentity (before after : Conn) : Prop where
  uid_eq : after.uid = before.uid
  status_eq : after.status = before.status

section

variable (platform : Platform) (pd : Pcapdroid) (tuple : FiveTuple) (data : Conn) (id : ConnId)

theorem SameIdentity.refl : SameIdentity data data := ⟨rfl, rfl⟩

theorem SameIdentity.trans {first second third : Conn} (earlier : SameIdentity first second)
    (later : SameIdentity second third) : SameIdentity first third :=
  ⟨later.uid_eq.trans earlier.uid_eq, later.status_eq.trans earlier.status_eq⟩

theorem guessProtocol_identity (flow : NdpiFlow) (data : Conn) :
    SameIdentity data (guessProtocol platform flow data).2 := by
  unfold guessProtocol
  split
  · exact ⟨rfl, rfl⟩
  · exact .refl data

theorem pdGiveupDpi_identity : SameIdentity data (pdGiveupDpi platform pd tuple data) := by
  unfold pdGiveupDpi
  cases data.ndpiFlow with
  | none => exact .refl data
  | some flow =>
    have guessed := guessProtocol_identity platform flow data
    have inspected := processNdpiData_inspected pd tuple (guessProtocol platform flow data).1
      (guessProtocol platform flow data).2
    exact guessed.trans ⟨inspected.uid_eq, inspected.status_eq⟩

theorem notifiedConn_identity : SameIdentity data (notifiedConn platform pd tuple data) := by
  unfold notifiedConn
  split
  · exact (pdGiveupDpi_identity platform pd tuple data).trans ⟨rfl, rfl⟩
  · exact ⟨rfl, rfl⟩

/-! ## One connection -/

theorem noteRecheck_touches :
    TouchesOnly [] pd (noteRecheck pd tuple id) :=
  emit_touches pd (.recheck id (pd.conn id).toBlock (policy pd tuple (pd.conn id)))

theorem checkBlockedConnCb_touches :
    TouchesOnly [id] pd (checkBlockedConnCb platform pd tuple id) := by
  rw [checkBlockedConnCb_eq]
  split
  · exact (noteRecheck_touches pd tuple id).mono (List.nil_subset [id])
  · have changed := (noteRecheck_touches pd tuple id).trans (setConn_touches _ id
      ((pd.conn id).setToBlock (policy pd tuple (pd.conn id))).markStats)
    exact changed.again (pdNotifyConnectionUpdate_touches platform _ tuple id)

theorem checkBlockedConnCb_identity :
    SameIdentity (pd.conn id) ((checkBlockedConnCb platform pd tuple id).conn id) := by
  rw [checkBlockedConnCb_eq]
  split
  · exact .refl (pd.conn id)
  · rw [pdNotifyConnectionUpdate_conn, Pcapdroid.setConn_conn_self]
    have notified := notifiedConn_identity platform
      ((noteRecheck pd tuple id).setConn id
        ((pd.conn id).setToBlock (policy pd tuple (pd.conn id))).markStats) tuple
      ((pd.conn id).setToBlock (policy pd tuple (pd.conn id))).markStats
    exact ⟨notified.uid_eq, notified.status_eq⟩

end

section

variable (platform : Platform) (pd : Pcapdroid) {slot : ConnAndTuple} {before after : Pcapdroid}

theorem checkBlockedConnCb_settled (slot : ConnAndTuple)
    (active : (pd.conn slot.data).status.isClosed = false) :
    Settled (checkBlockedConnCb platform pd slot.tuple slot.data) slot := by
  unfold Settled
  rw [policy_congr (checkBlockedConnCb_touches platform pd slot.tuple slot.data).firewall]
  rw [checkBlockedConnCb_eq]
  split
  next settled => exact settled
  next =>
    rw [pdNotifyConnectionUpdate_conn, Pcapdroid.setConn_conn_self, notifiedConn_of_open,
      policy_marked]
    · rfl
    · exact active

/-! ## All connections -/

theorem Settled.of_sameVerdict
    (settled : Settled before slot) (firewall : after.firewall = before.firewall)
    (same : SameVerdict (before.conn slot.data) (after.conn slot.data)) : Settled after slot := by
  unfold Settled
  rw [same.toBlock_eq, policy_congr firewall, same.policy_eq]
  exact settled

theorem Reported.sameVerdict {before after : Conn} (reported : Reported before after) :
    SameVerdict before after := by
  rcases reported with rfl | rfl
  · exact .refl _
  · exact ⟨rfl, rfl, rfl, rfl, rfl, rfl, rfl, rfl, rfl, rfl⟩

theorem Settled.of_touches {touched : List ConnId} (settled : Settled before slot)
    (step : TouchesOnly touched before after) (untouched : slot.data ∉ touched) :
    Settled after slot := by
  unfold Settled
  rw [step.frame slot.data untouched, policy_congr step.firewall]
  exact settled

theorem recheckAll_settled {pd : Pcapdroid}
    (distinct : (pd.connections.map (·.data)).Nodup) (member : slot ∈ pd.connections)
    (active : (pd.conn slot.data).status.isClosed = false) :
    Settled (iterActiveConnections pd (checkBlockedConnCb platform)) slot := by
  obtain ⟨earlier, later, visited, before, notEarlier, after, notLater⟩ :=
    iterActiveConnections_visits (checkBlockedConnCb_touches platform) distinct member
  refine Settled.of_touches ?_ after notLater
  refine checkBlockedConnCb_settled platform visited slot ?_
  rw [before.frame slot.data notEarlier]
  exact active

theorem recheckAll_identity (id : ConnId) :
    SameIdentity (pd.conn id) ((iterActiveConnections pd (checkBlockedConnCb platform)).conn id) :=
  foldl_conns (checkBlockedConnCb_touches platform) SameIdentity.refl
    (fun _ _ _ earlier later => earlier.trans later) (checkBlockedConnCb_identity platform) pd
    pd.connections id

/-! ## Whitelisted connections -/

/-- An invariant that holds without the flags of the connection, and that a recheck and an
announcement keep. -/
theorem checkBlacklistedConnCb_invariant {platform : Platform} {Inv : Pcapdroid → Prop}
    {pd : Pcapdroid} {tuple : FiveTuple} {id : ConnId} (inv : Inv pd)
    (cleared : ∀ whitelist, Inv (pd.setConn id (whitelistConn whitelist tuple (pd.conn id))))
    (rechecked : ∀ {pd : Pcapdroid}, Inv pd → Inv (checkBlockedConnCb platform pd tuple id))
    (announced : ∀ {pd : Pcapdroid}, Inv pd → Inv (pdNotifyConnectionUpdate platform
      (pd.setConn id (pd.conn id).markStats) tuple id)) :
    Inv (checkBlacklistedConnCb platform pd tuple id) := by
  unfold checkBlacklistedConnCb
  cases pd.malwareDetection.whitelist with
  | none => exact inv
  | some whitelist =>
    have kept := cleared whitelist
    dsimp only
    split
    next =>
      grind
    next => exact kept

theorem checkBlacklistedConnCb_touches (tuple : FiveTuple)
    (id : ConnId) : TouchesOnly [id] pd (checkBlacklistedConnCb platform pd tuple id) := by
  apply checkBlacklistedConnCb_invariant
  · exact (TouchesOnly.refl pd).mono (List.nil_subset [id])
  · intro whitelist
    exact setConn_touches pd id _
  · intro after touched
    exact touched.again (checkBlockedConnCb_touches platform after tuple id)
  · intro after touched
    exact touched.again ((setConn_touches after id _).again
      (pdNotifyConnectionUpdate_touches platform _ tuple id))

end

/-! ## Invariants of the housekeeping -/

/-- The parts of `pd_housekeeping` that install new lists keep an invariant of the capture. -/
structure KeptByInstalls (platform : Platform) (Inv : Pcapdroid → Prop) : Prop where
  setMalwareDetection : ∀ {pd : Pcapdroid} (detection : MalwareDetection), Inv pd →
    Inv (pd.setMalwareDetection detection)
  setFirewall : ∀ {pd : Pcapdroid} (firewall : Core.Firewall), Inv pd →
    Inv (pd.setFirewall firewall)
  setTlsDecryption : ∀ {pd : Pcapdroid} (decryption : TlsDecryption), Inv pd →
    Inv (pd.setTlsDecryption decryption)
  checkBlacklistedConnCb : ∀ {pd : Pcapdroid} {slot : ConnAndTuple}, slot ∈ pd.connections →
    Inv pd → Inv (checkBlacklistedConnCb platform pd slot.tuple slot.data)
  checkBlockedConnCb : ∀ {pd : Pcapdroid} {slot : ConnAndTuple}, slot ∈ pd.connections →
    Inv pd → Inv (checkBlockedConnCb platform pd slot.tuple slot.data)

/-- The parts of `pd_housekeeping` keep an invariant of the capture. -/
structure KeptByHousekeeping (platform : Platform) (Inv : Pcapdroid → Prop) : Prop
    extends KeptByInstalls platform Inv where
  periodicTask : ∀ {pd : Pcapdroid} (exported : Bool), Inv pd → Inv (periodicTask exported pd)

variable {platform : Platform} {Inv : Pcapdroid → Prop} {pd : Pcapdroid}

namespace KeptByInstalls

variable (kept : KeptByInstalls platform Inv)
include kept

theorem installMalwareWhitelist (inv : Inv pd) : Inv (installMalwareWhitelist platform pd) := by
  unfold Core.installMalwareWhitelist
  split
  next => exact inv
  next =>
    exact iterActiveConnections_invariant (checkBlacklistedConnCb_touches platform)
      kept.checkBlacklistedConnCb (kept.setMalwareDetection _ inv)

theorem installFirewallLists (inv : Inv pd) : Inv (installFirewallLists platform pd) := by
  have rechecked (firewall : Core.Firewall) : Inv (iterActiveConnections
      (pd.setFirewall firewall) (Core.checkBlockedConnCb platform)) :=
    iterActiveConnections_invariant (checkBlockedConnCb_touches platform)
      kept.checkBlockedConnCb (kept.setFirewall firewall inv)
  unfold Core.installFirewallLists
  grind

theorem installDecryptionList (inv : Inv pd) : Inv (installDecryptionList pd) := by
  unfold Core.installDecryptionList
  split
  next => exact inv
  next => exact kept.setTlsDecryption _ inv

theorem pdHousekeeping {exported : Bool} (reported : Inv (periodicTask exported pd)) :
    Inv (pdHousekeeping platform exported pd) :=
  kept.installDecryptionList (kept.installFirewallLists (kept.installMalwareWhitelist reported))

end KeptByInstalls

theorem KeptByHousekeeping.pdHousekeeping (kept : KeptByHousekeeping platform Inv)
    (exported : Bool) (inv : Inv pd) : Inv (pdHousekeeping platform exported pd) :=
  kept.toKeptByInstalls.pdHousekeeping (kept.periodicTask exported inv)

/-! ## Lists after housekeeping -/

/-- The firewall after `pd_housekeeping`: a blocklist goes before a whitelist. -/
def installedFirewall (firewall : Firewall) : Firewall :=
  match firewall.newBl with
  | some bl => firewall.installBlocklist bl
  | none =>
    match firewall.newWl with
    | some wl => firewall.installWhitelist wl
    | none => firewall

structure ListsInstalled (before after : Pcapdroid) : Prop where
  vpnCapture : after.vpnCapture = before.vpnCapture
  firewall : after.firewall = installedFirewall before.firewall
  malwareEnabled : after.malwareDetection.enabled = before.malwareDetection.enabled
  whitelist : after.malwareDetection.whitelist =
    before.malwareDetection.newWl.or before.malwareDetection.whitelist
  newWl : after.malwareDetection.newWl = none
  tlsEnabled : after.tlsDecryption.enabled = before.tlsDecryption.enabled
  list : after.tlsDecryption.list = before.tlsDecryption.newList.or before.tlsDecryption.list
  newList : after.tlsDecryption.newList = none

variable (platform : Platform) (exported : Bool) (pd : Pcapdroid)

theorem installMalwareWhitelist_lists :
    (installMalwareWhitelist platform pd).vpnCapture = pd.vpnCapture ∧
    (installMalwareWhitelist platform pd).firewall = pd.firewall ∧
    (installMalwareWhitelist platform pd).tlsDecryption = pd.tlsDecryption ∧
    (installMalwareWhitelist platform pd).malwareDetection = { pd.malwareDetection with
        whitelist := pd.malwareDetection.newWl.or pd.malwareDetection.whitelist
        newWl := none } := by
  unfold installMalwareWhitelist
  cases newWl : pd.malwareDetection.newWl with
  | none =>
    refine ⟨rfl, rfl, rfl, ?_⟩
    dsimp only
    rw [Option.none_or, ← newWl]
  | some wl =>
    have step := iterActiveConnections_touches (checkBlacklistedConnCb_touches platform)
      (pd.setMalwareDetection (pd.malwareDetection.installWhitelist wl))
    exact ⟨step.vpnCapture, step.firewall, step.tlsDecryption, step.malwareDetection⟩

theorem installFirewallLists_lists :
    (installFirewallLists platform pd).vpnCapture = pd.vpnCapture ∧
    (installFirewallLists platform pd).firewall = installedFirewall pd.firewall ∧
    (installFirewallLists platform pd).tlsDecryption = pd.tlsDecryption ∧
    (installFirewallLists platform pd).malwareDetection = pd.malwareDetection := by
  unfold installFirewallLists installedFirewall
  cases newBl : pd.firewall.newBl with
  | some bl =>
    have step := iterActiveConnections_touches (checkBlockedConnCb_touches platform)
      (pd.setFirewall (pd.firewall.installBlocklist bl))
    exact ⟨step.vpnCapture, step.firewall, step.tlsDecryption, step.malwareDetection⟩
  | none =>
    cases newWl : pd.firewall.newWl with
    | some wl =>
      have step := iterActiveConnections_touches (checkBlockedConnCb_touches platform)
        (pd.setFirewall (pd.firewall.installWhitelist wl))
      exact ⟨step.vpnCapture, step.firewall, step.tlsDecryption, step.malwareDetection⟩
    | none => exact ⟨rfl, rfl, rfl, rfl⟩

theorem installDecryptionList_lists :
    (installDecryptionList pd).vpnCapture = pd.vpnCapture ∧
    (installDecryptionList pd).firewall = pd.firewall ∧
    (installDecryptionList pd).malwareDetection = pd.malwareDetection ∧
    (installDecryptionList pd).tlsDecryption = { pd.tlsDecryption with
        list := pd.tlsDecryption.newList.or pd.tlsDecryption.list
        newList := none } := by
  unfold installDecryptionList
  cases newList : pd.tlsDecryption.newList with
  | none =>
    refine ⟨rfl, rfl, rfl, ?_⟩
    dsimp only
    rw [Option.none_or, ← newList]
  | some list => exact ⟨rfl, rfl, rfl, rfl⟩

theorem pdHousekeeping_lists :
    ListsInstalled pd (pdHousekeeping platform exported pd) := by
  have periodic := periodicTask_periodicStep exported pd
  unfold pdHousekeeping
  generalize periodicTask exported pd = reported at periodic ⊢
  obtain ⟨vpn, firewall, tls, detection⟩ := installMalwareWhitelist_lists platform reported
  generalize installMalwareWhitelist platform reported = whitelisted at vpn firewall tls detection ⊢
  obtain ⟨vpn', firewall', tls', detection'⟩ := installFirewallLists_lists platform whitelisted
  generalize installFirewallLists platform whitelisted = rechecked at vpn' firewall' tls' detection' ⊢
  obtain ⟨vpn'', firewall'', detection'', tls''⟩ := installDecryptionList_lists rechecked
  rw [tls', tls, periodic.tlsDecryption] at tls''
  rw [detection', detection, periodic.newWl, periodic.whitelist] at detection''
  rw [firewall', firewall, periodic.firewall] at firewall''
  refine ⟨vpn''.trans (vpn'.trans (vpn.trans periodic.vpnCapture)), firewall'', ?_, ?_, ?_, ?_, ?_,
    ?_⟩
  · rw [detection'']
    exact periodic.malwareEnabled
  · rw [detection'']
  · rw [detection'']
  · rw [tls'']
  · rw [tls'']
  · rw [tls'']

end PcapdroidFormal.Firewall
