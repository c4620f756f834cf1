import PcapdroidFormal.Firewall.Verdict

/-!
# What deep packet inspection does to a verdict

`process_ndpi_data` may replace the host of a connection and flag or block it.
It never unblocks it.
-/

namespace PcapdroidFormal.Firewall

open PcapdroidFormal.Core

variable {pd : Pcapdroid} {flow : NdpiFlow} {before after : Conn}

/-- The two connections agree on everything a verdict depends on. -/
structure SameVerdict (before after : Conn) : Prop where
  uid_eq : after.uid = before.uid
  status_eq : after.status = before.status
  l7proto_eq : after.l7proto = before.l7proto
  info_eq : after.info = before.info
  lru_eq : after.infoFromLru = before.infoFromLru
  whitelisted_eq : after.whitelistedApp = before.whitelistedApp
  internal_eq : after.blacklistedInternal = before.blacklistedInternal
  ip_eq : after.blacklistedIp = before.blacklistedIp
  domain_eq : after.blacklistedDomain = before.blacklistedDomain
  toBlock_eq : after.toBlock = before.toBlock

namespace SameVerdict

variable {before after : Conn}

theorem refl (data : Conn) : SameVerdict data data :=
  ⟨rfl, rfl, rfl, rfl, rfl, rfl, rfl, rfl, rfl, rfl⟩

theorem policy_eq (same : SameVerdict before after) (pd : Pcapdroid) (tuple : FiveTuple) :
    policy pd tuple after = policy pd tuple before := by
  unfold policy flagged blockedByBlocklist blocklistMatches blockedByWhitelistMode
  rw [same.uid_eq, same.info_eq, same.internal_eq, same.ip_eq, same.domain_eq]

theorem hostHit_eq (same : SameVerdict before after) (pd : Pcapdroid) (host : Host) :
    hostHit pd host after = hostHit pd host before := by
  unfold hostHit
  rw [same.domain_eq, same.whitelisted_eq]

end SameVerdict

section

variable (pd : Pcapdroid) (tuple : FiveTuple) (flow : NdpiFlow) (data : Conn)

theorem processAlpn_sameVerdict :
    SameVerdict data (processAlpn flow data) := by
  unfold processAlpn
  cases flow.alpn with
  | none => exact .refl data
  | some alpn =>
    dsimp only
    split
    · exact .refl data
    · split
      · exact ⟨rfl, rfl, rfl, rfl, rfl, rfl, rfl, rfl, rfl, rfl⟩
      · split
        · exact ⟨rfl, rfl, rfl, rfl, rfl, rfl, rfl, rfl, rfl, rfl⟩
        · split
          · exact ⟨rfl, rfl, rfl, rfl, rfl, rfl, rfl, rfl, rfl, rfl⟩
          · exact ⟨rfl, rfl, rfl, rfl, rfl, rfl, rfl, rfl, rfl, rfl⟩

theorem processUrl_sameVerdict :
    SameVerdict data (processUrl flow data) := by
  unfold processUrl
  split
  · exact ⟨rfl, rfl, rfl, rfl, rfl, rfl, rfl, rfl, rfl, rfl⟩
  · exact .refl data

theorem processProtocol_sameVerdict :
    SameVerdict data (processProtocol flow data) := by
  unfold processProtocol
  split
  · exact processAlpn_sameVerdict flow data
  · exact processUrl_sameVerdict flow data
  · exact .refl data

/-- The host that replaces the one of the connection. -/
def inspectedHost (flow : NdpiFlow) (data : Conn) : Option Host :=
  if data.info.isNone || data.infoFromLru then (foundInfo data.l7proto flow).map (·.take 256)
  else none

/-- The connection with a host found by nDPI. -/
def inspectedConn (host : Host) (data : Conn) : Conn :=
  { data with info := some host, infoFromLru := false }

theorem updateInfo_eq :
    updateInfo pd (foundInfo data.l7proto flow) data =
      match inspectedHost flow data with
      | none => data
      | some host => (checkBlacklistedDomain pd (inspectedConn host data)).markInfo := by
  unfold updateInfo inspectedHost
  cases foundInfo data.l7proto flow with
  | none => simp
  | some host =>
    dsimp only
    split <;> rfl

/-- The connection is blocked internally because of its protocol. -/
def blockedInternally (pd : Pcapdroid) (tuple : FiveTuple) (data : Conn) : Bool :=
  (data.l7proto == .quic && (pd.vpn.blockQuicMode == .always ||
    (pd.vpn.blockQuicMode == .toDecrypt && matchesDecryptionWhitelist pd tuple data))) ||
  (pd.blockPrivateDns && !data.toBlock && data.l7proto == .tls &&
    data.info.any pd.vpn.knownDnsServers.matchDomain)

/-- Set both the internal flag and the verdict. -/
def flagInternal (data : Conn) (hit : Bool) : Conn :=
  { data with blacklistedInternal := data.blacklistedInternal || hit }.setToBlock
    (data.toBlock || hit)

@[simp] theorem flagInternal_false (data : Conn) : flagInternal data false = data := by
  unfold flagInternal
  rw [Bool.or_false, Bool.or_false]
  rfl

theorem flagInternal_true :
    flagInternal data true = { data with blacklistedInternal := true }.setToBlock true := by
  unfold flagInternal
  grind

theorem vpnProcessNdpi_eq :
    vpnProcessNdpi pd tuple data = flagInternal data (blockedInternally pd tuple data) := by
  simp only [vpnProcessNdpi, blockedInternally]
  by_cases quic : (data.l7proto == .quic && (pd.vpn.blockQuicMode == .always ||
      (pd.vpn.blockQuicMode == .toDecrypt && matchesDecryptionWhitelist pd tuple data))) = true
  · rw [if_pos quic, quic, Bool.true_or, flagInternal_true, Conn.setToBlock_toBlock, Bool.not_true,
      Bool.and_false, Bool.false_and, Bool.false_and, if_neg Bool.false_ne_true]
  · rw [if_neg quic, Bool.eq_false_iff.mpr quic, Bool.false_or]
    split
    next tls => rw [tls, flagInternal_true]
    next other => rw [Bool.eq_false_iff.mpr other, flagInternal_false]

/-- What the inspection made of a connection. -/
structure Inspected (pd : Pcapdroid) (flow : NdpiFlow) (before after : Conn) : Prop where
  uid_eq : after.uid = before.uid
  status_eq : after.status = before.status
  info_eq : after.info = (inspectedHost flow before).or before.info
  ip_eq : after.blacklistedIp = before.blacklistedIp
  verdict : ∃ internal : Bool,
    after.blacklistedInternal = (before.blacklistedInternal || internal) ∧
    after.blacklistedDomain = (before.blacklistedDomain || (inspectedHost flow before).any
      fun host => !host.isEmpty && hostHit pd host before) ∧
    after.toBlock = (before.toBlock || ((inspectedHost flow before).any fun host =>
      !host.isEmpty && (hostHit pd host before ||
        (pd.firewall.enabled && pd.firewall.bl.any (·.matchDomain host)))) || internal)

theorem SameVerdict.inspectedHost_eq (same : SameVerdict before after) (flow : NdpiFlow) :
    inspectedHost flow after = inspectedHost flow before := by
  unfold inspectedHost
  rw [same.info_eq, same.lru_eq, same.l7proto_eq]

theorem domainBlocked_inspectedConn (host : Host) (data : Conn) :
    domainBlocked pd (inspectedConn host data) =
      (!host.isEmpty && (pd.firewall.enabled && pd.firewall.bl.any (·.matchDomain host))) := by
  unfold domainBlocked
  cases pd.firewall.bl with
  | none => simp
  | some bl => exact Bool.and_left_comm pd.firewall.enabled (!host.isEmpty) (bl.matchDomain host)

theorem updateInfo_inspected :
    Inspected pd flow data (updateInfo pd (foundInfo data.l7proto flow) data) := by
  rw [updateInfo_eq]
  cases found : inspectedHost flow data with
  | none =>
    refine ⟨rfl, rfl, ?_, rfl, false, ?_, ?_, ?_⟩
    · rw [found]
      rfl
    · exact (Bool.or_false _).symm
    · grind
    · grind
  | some host =>
    have hit : domainHit pd (inspectedConn host data) = (!host.isEmpty && hostHit pd host data) :=
      rfl
    have blocked := domainBlocked_inspectedConn pd host data
    dsimp only
    rw [checkBlacklistedDomain_eq]
    generalize domainHit pd (inspectedConn host data) = flagged at hit ⊢
    generalize domainBlocked pd (inspectedConn host data) = refused at blocked ⊢
    dsimp only [flagDomain, inspectedConn, Conn.setToBlock, Conn.markInfo]
    refine ⟨rfl, rfl, ?_, rfl, false, ?_, ?_, ?_⟩
    · rw [found]
      rfl
    · exact (Bool.or_false _).symm
    · grind
    · grind

end

theorem Inspected.of_sameVerdict {before middle after : Conn}
    (same : SameVerdict before middle) (inspected : Inspected pd flow middle after) :
    Inspected pd flow before after := by
  obtain ⟨uid, status, info, ip, internal, flag, domain, toBlock⟩ := inspected
  simp only [same.inspectedHost_eq, same.hostHit_eq] at info domain toBlock
  refine ⟨uid.trans same.uid_eq, status.trans same.status_eq, ?_,
    ip.trans same.ip_eq, internal, ?_, ?_, ?_⟩
  · rw [info, same.info_eq]
  · rw [flag, same.internal_eq]
  · rw [domain, same.domain_eq]
  · rw [toBlock, same.toBlock_eq]

theorem Inspected.flagInternal (inspected : Inspected pd flow before after) (hit : Bool) :
    Inspected pd flow before (flagInternal after hit) := by
  obtain ⟨uid, status, info, ip, internal, flag, domain, toBlock⟩ := inspected
  refine ⟨uid, status, info, ip, internal || hit, ?_, domain, ?_⟩
  · rw [← Bool.or_assoc, ← flag]
    rfl
  · rw [← Bool.or_assoc, ← toBlock]
    rfl

/-- `process_ndpi_data` may replace the host, and flags and blocks accordingly. -/
theorem processNdpiData_inspected (pd : Pcapdroid) (tuple : FiveTuple) (flow : NdpiFlow)
    (data : Conn) : Inspected pd flow data (processNdpiData pd tuple flow data) := by
  have inspected := Inspected.of_sameVerdict (processProtocol_sameVerdict flow data)
    (updateInfo_inspected pd flow (processProtocol flow data))
  simp only [processNdpiData]
  split
  · rw [vpnProcessNdpi_eq]
    exact inspected.flagInternal _
  · exact inspected

/-- The inspection never unblocks a connection. -/
theorem Inspected.blocked (inspected : Inspected pd flow before after)
    (blocked : before.toBlock = true) : after.toBlock = true := by
  obtain ⟨_, _, _, toBlock⟩ := inspected.verdict
  grind

end PcapdroidFormal.Firewall
