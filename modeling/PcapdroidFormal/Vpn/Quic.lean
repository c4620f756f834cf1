import PcapdroidFormal.Firewall.Inspection
import PcapdroidFormal.Core.Packets
import PcapdroidFormal.Pcap.PacketLoop

/-!
# QUIC connections that are to be decrypted

QUIC is blocked if the decryption list has the server, the app or the host of the connection,
so that the client falls back to TLS.  `perform_dpi` hands the tuple of the packet to this
check: it starts with the client for the packets that are sent, and with the server for those
that zdtun has built as a reply.
-/

namespace PcapdroidFormal.Vpn

open PcapdroidFormal.Core Firewall
open Pcap (tupleSwapPeers)

variable {pd : Pcapdroid}

/-! ## What nDPI finds -/

theorem processProtocol_l7proto (flow : NdpiFlow) (data : Conn) :
    (processProtocol flow data).l7proto = data.l7proto :=
  (processProtocol_sameVerdict flow data).l7proto_eq

theorem processNdpiData_l7proto (pd : Pcapdroid) (tuple : FiveTuple) (flow : NdpiFlow)
    (data : Conn) : (processNdpiData pd tuple flow data).l7proto = data.l7proto := by
  have updated (data : Conn) :
      (updateInfo pd (foundInfo data.l7proto flow) data).l7proto = data.l7proto := by
    rw [updateInfo_eq]
    split
    · rfl
    · rw [checkBlacklistedDomain_eq]
      rfl
  simp only [processNdpiData]
  split
  · rw [vpnProcessNdpi_eq]
    exact (updated _).trans (processProtocol_l7proto flow data)
  · exact (updated _).trans (processProtocol_l7proto flow data)

/-- nDPI finds no host in QUIC, so that only the decryption list decides. -/
theorem processNdpiData_quic (tuple : FiveTuple) (flow : NdpiFlow)
    {data : Conn} (vpn : pd.vpnCapture = true) (mode : pd.vpn.blockQuicMode = .toDecrypt)
    (quic : data.l7proto = .quic) :
    processNdpiData pd tuple flow data =
      flagInternal data (matchesDecryptionWhitelist pd tuple data) := by
  have protocol : processProtocol flow data = data := by rw [processProtocol, quic]
  have info : updateInfo pd (foundInfo data.l7proto flow) data = data := by
    rw [quic]
    rfl
  have blocked : blockedInternally pd tuple data = matchesDecryptionWhitelist pd tuple data := by
    have notAlways : (BlockQuicMode.toDecrypt == .always) = false := rfl
    have notTls : (L7Proto.quic == .tls) = false := rfl
    simp [blockedInternally, quic, mode, notAlways, notTls]
  simp only [processNdpiData, protocol, info, vpn, if_true, vpnProcessNdpi_eq, blocked]

section Packets

variable (platform : Platform) {pctx : PktContext} {flow : NdpiFlow}

/-- The connections agree on what the decryption list and its verdict are about. -/
structure SameTarget (before after : Conn) : Prop where
  uid : after.uid = before.uid
  info : after.info = before.info
  internal : after.blacklistedInternal = before.blacklistedInternal
  toBlock : after.toBlock = before.toBlock

theorem detectProtocol_sameTarget (detected : NdpiFlow × L7Proto) (data : Conn) :
    SameTarget data (detectProtocol platform detected data) := by
  unfold detectProtocol
  split
  · exact ⟨rfl, rfl, rfl, rfl⟩
  · exact ⟨rfl, rfl, rfl, rfl⟩

theorem detectProtocol_ndpiFlow (detected : NdpiFlow × L7Proto) (data : Conn) :
    (detectProtocol platform detected data).ndpiFlow = some detected.1 := by
  unfold detectProtocol
  split <;> rfl

theorem guessProtocol_sameTarget (flow : NdpiFlow) (data : Conn) :
    SameTarget data (guessProtocol platform flow data).2 := by
  unfold guessProtocol
  split
  · exact ⟨rfl, rfl, rfl, rfl⟩
  · exact ⟨rfl, rfl, rfl, rfl⟩

/-- The connection that `perform_dpi` writes back: the data of nDPI are processed with the tuple
of the packet. -/
def inspectedData (pd : Pcapdroid) (pctx : PktContext) (flow : NdpiFlow) : Conn :=
  let detected := platform.processPacket flow pctx.pkt
  let data := detectProtocol platform detected (pd.conn pctx.data)
  let pd :=
    if !pctx.isTx && data.l7proto == .dns then
      processDnsReply platform pd detected.1.hostServerName pctx.pkt
    else pd
  if detectionComplete platform detected.1 data then
    pdGiveupDpi platform pd pctx.pkt.tuple data
  else processNdpiData pd pctx.pkt.tuple detected.1 data

theorem completeDetection_l7proto (pd : Pcapdroid) (tuple : FiveTuple) (id : ConnId) :
    ((completeDetection platform pd tuple id).conn id).l7proto = (pd.conn id).l7proto := by
  simp only [completeDetection]
  split
  next assumed =>
    have noFlow : (pd.conn id).ndpiFlow = none := by
      simp only [Bool.and_eq_true] at assumed
      exact Option.isNone_iff_eq_none.mp assumed.1.1.1
    -- without a flow there is nothing to give up
    have given (data : Conn) (none : data.ndpiFlow = none) (pd : Pcapdroid) :
        pdGiveupDpi platform pd tuple data = data := by
      rw [pdGiveupDpi, none]
    rw [pdNotifyConnectionUpdate_conn, Pcapdroid.setConn_conn_self, notifiedConn]
    split
    · rw [given _ (by exact noFlow)]
      rfl
    · rfl
  next => rfl

/-- The connection after `perform_dpi`, if its protocol is QUIC. -/
theorem performDpi_conn
    (quic : ((performDpi platform pd pctx flow).conn pctx.data).l7proto = .quic) :
    (performDpi platform pd pctx flow).conn pctx.data = inspectedData platform pd pctx flow ∧
      (inspectedData platform pd pctx flow).l7proto = .quic := by
  have delayed (pd : Pcapdroid) (data : Conn) :
      (delayNetdDump (pd.setConn pctx.data data) data).conn pctx.data = data := by
    unfold delayNetdDump
    split
    · exact Pcapdroid.setConn_conn_self pd pctx.data data
    · exact Pcapdroid.setConn_conn_self pd pctx.data data
  have written : ∃ before, before.conn pctx.data = inspectedData platform pd pctx flow ∧
      performDpi platform pd pctx flow =
        completeDetection platform before pctx.tuple pctx.data := by
    refine ⟨_, ?_, rfl⟩
    exact delayed _ _
  obtain ⟨before, same, result⟩ := written
  have proto : (inspectedData platform pd pctx flow).l7proto = .quic := by
    rw [result, completeDetection_l7proto, same] at quic
    exact quic
  refine ⟨?_, proto⟩
  rw [result, completeDetection, same, proto]
  simp [same]

/-- What the inspection makes of a QUIC connection. -/
theorem inspectedData_quic (vpn : pd.vpnCapture = true) (mode : pd.vpn.blockQuicMode = .toDecrypt)
    (quic : (inspectedData platform pd pctx flow).l7proto = .quic) :
    (inspectedData platform pd pctx flow).blacklistedInternal =
        ((pd.conn pctx.data).blacklistedInternal ||
          matchesDecryptionWhitelist pd pctx.pkt.tuple (pd.conn pctx.data)) ∧
      (inspectedData platform pd pctx flow).toBlock = ((pd.conn pctx.data).toBlock ||
          matchesDecryptionWhitelist pd pctx.pkt.tuple (pd.conn pctx.data)) := by
  -- the lists do not change with the host cache
  have flagged {after : Pcapdroid} {data : Conn} (flow : NdpiFlow)
      (sameVpn : after.vpnCapture = pd.vpnCapture) (sameMode : after.vpn = pd.vpn)
      (sameList : after.tlsDecryption = pd.tlsDecryption)
      (target : SameTarget (pd.conn pctx.data) data)
      (proto : (processNdpiData after pctx.pkt.tuple flow data).l7proto = .quic) :
      (processNdpiData after pctx.pkt.tuple flow data).blacklistedInternal =
          ((pd.conn pctx.data).blacklistedInternal ||
            matchesDecryptionWhitelist pd pctx.pkt.tuple (pd.conn pctx.data)) ∧
        (processNdpiData after pctx.pkt.tuple flow data).toBlock =
          ((pd.conn pctx.data).toBlock ||
            matchesDecryptionWhitelist pd pctx.pkt.tuple (pd.conn pctx.data)) := by
    have decided : matchesDecryptionWhitelist after pctx.pkt.tuple data =
        matchesDecryptionWhitelist pd pctx.pkt.tuple (pd.conn pctx.data) := by
      unfold matchesDecryptionWhitelist
      rw [sameList, target.uid, target.info]
    rw [processNdpiData_l7proto] at proto
    rw [processNdpiData_quic pctx.pkt.tuple flow (sameVpn.trans vpn) (by rw [sameMode, mode]) proto,
      decided, flagInternal, ← target.internal, ← target.toBlock]
    exact ⟨rfl, rfl⟩
  simp only [inspectedData] at quic ⊢
  generalize platform.processPacket flow pctx.pkt = detected at quic ⊢
  have target := detectProtocol_sameTarget platform detected (pd.conn pctx.data)
  have kept := detectProtocol_ndpiFlow platform detected (pd.conn pctx.data)
  generalize detectProtocol platform detected (pd.conn pctx.data) = data at target kept quic ⊢
  have learned (after : Pcapdroid) (same : after = if (!pctx.isTx && data.l7proto == .dns) = true
      then processDnsReply platform pd detected.1.hostServerName pctx.pkt else pd) :
      after.vpnCapture = pd.vpnCapture ∧ after.vpn = pd.vpn ∧
        after.tlsDecryption = pd.tlsDecryption := by
    rw [same]
    unfold processDnsReply
    split_ifs <;> exact ⟨rfl, rfl, rfl⟩
  generalize answered : (if (!pctx.isTx && data.l7proto == .dns) = true then
    processDnsReply platform pd detected.1.hostServerName pctx.pkt else pd) = after at quic ⊢
  obtain ⟨sameVpn, sameMode, sameList⟩ := learned after answered.symm
  split at quic
  next complete =>
    rw [if_pos complete]
    have guessed := guessProtocol_sameTarget platform detected.1 data
    have result : pdGiveupDpi platform after pctx.pkt.tuple data =
        (processNdpiData after pctx.pkt.tuple (guessProtocol platform detected.1 data).1
          (guessProtocol platform detected.1 data).2).freeFlow := by
      rw [pdGiveupDpi, kept]
    rw [result] at quic ⊢
    exact flagged _ sameVpn sameMode sameList ⟨guessed.uid.trans target.uid,
      guessed.info.trans target.info, guessed.internal.trans target.internal,
      guessed.toBlock.trans target.toBlock⟩ quic
  next incomplete =>
    rw [if_neg incomplete]
    exact flagged _ sameVpn sameMode sameList target quic

/-- A list that decides alike for both peers, or by the app or the host. -/
def DecidesAlike (list : Blacklist) (tuple : FiveTuple) (data : Conn) : Prop :=
  list.matchIp tuple.srcIp tuple.ipver = list.matchIp tuple.dstIp tuple.ipver ∨
    list.matchUid data.uid = true ∨ data.info.any list.matchDomain = true

/-- The tuple of a packet is the one of its connection, or the one of a reply. -/
def Oriented (pctx : PktContext) : Prop :=
  pctx.pkt.tuple = if pctx.isTx then pctx.tuple else tupleSwapPeers pctx.tuple

theorem matchesDecryptionWhitelist_swap_iff (pd : Pcapdroid) (tuple : FiveTuple) (data : Conn) :
    matchesDecryptionWhitelist pd (tupleSwapPeers tuple) data =
        matchesDecryptionWhitelist pd tuple data ↔
      ∀ list, pd.tlsDecryption.list = some list → DecidesAlike list tuple data := by
  unfold matchesDecryptionWhitelist DecidesAlike
  cases pd.tlsDecryption.list with
  | none => exact iff_of_true rfl fun list absurd => nomatch absurd
  | some list =>
    simp only [Option.some.injEq, forall_eq', tupleSwapPeers]
    cases list.matchIp tuple.srcIp tuple.ipver <;> cases list.matchIp tuple.dstIp tuple.ipver <;>
      cases list.matchUid data.uid <;> cases data.info.any list.matchDomain <;> decide

/-- QUIC is blocked by the address of the server, the app and the host, as the connection has
them, just if the packet is sent, the connection is blocked already, or the decryption list
does not tell the peers apart. -/
theorem quic_is_blocked_by_server {pd : Pcapdroid} {pctx : PktContext} {flow : NdpiFlow}
    (vpn : pd.vpnCapture = true) (mode : pd.vpn.blockQuicMode = .toDecrypt)
    (oriented : Oriented pctx)
    (quic : ((performDpi platform pd pctx flow).conn pctx.data).l7proto = .quic) :
    ((((performDpi platform pd pctx flow).conn pctx.data).blacklistedInternal = true ↔
          (pd.conn pctx.data).blacklistedInternal = true ∨
            matchesDecryptionWhitelist pd pctx.tuple (pd.conn pctx.data) = true) ∧
        (((performDpi platform pd pctx flow).conn pctx.data).toBlock = true ↔
          (pd.conn pctx.data).toBlock = true ∨
            matchesDecryptionWhitelist pd pctx.tuple (pd.conn pctx.data) = true)) ↔
      pctx.isTx = true ∨
        ((pd.conn pctx.data).blacklistedInternal = true ∧ (pd.conn pctx.data).toBlock = true) ∨
        ∀ list, pd.tlsDecryption.list = some list →
          DecidesAlike list pctx.tuple (pd.conn pctx.data) := by
  obtain ⟨result, proto⟩ := performDpi_conn platform quic
  obtain ⟨internal, toBlock⟩ := inspectedData_quic platform vpn mode proto
  rw [result, internal, toBlock, ← matchesDecryptionWhitelist_swap_iff, oriented]
  cases pctx.isTx with
  | true => simp
  | false =>
    simp only [Bool.false_eq_true, if_false, false_or]
    cases (pd.conn pctx.data).blacklistedInternal <;> cases (pd.conn pctx.data).toBlock <;>
      cases matchesDecryptionWhitelist pd (tupleSwapPeers pctx.tuple) (pd.conn pctx.data) <;>
      cases matchesDecryptionWhitelist pd pctx.tuple (pd.conn pctx.data) <;> decide

end Packets

/-- A capture that decrypts the connections to one server. -/
def decryptingPd : Pcapdroid :=
  { Pcapdroid.initial with
    vpn := ⟨.toDecrypt, .empty, true, 0, 0, true, 0⟩
    tlsDecryption := ⟨true, some ⟨fun ip _ => ip == 0x08080808, fun _ => false, fun _ => false⟩,
      none⟩ }

/-- nDPI finds QUIC. -/
def quicPlatform : Platform := { Platform.inert with processPacket := fun flow _ => (flow, .quic) }

/-- A packet between a client and this server. -/
def quicContext (isTx : Bool) : PktContext :=
  let tuple : FiveTuple := ⟨0x0200000a, 0x08080808, 0x3930, ntohs 443, 4, ipprotoUdp⟩
  ⟨0, ⟨if isTx then tuple else tupleSwapPeers tuple, false, false, false, false, [], []⟩, 0, isTx,
    tuple, 0⟩

/-- The first packet of the client is enough to block the connection. -/
theorem quic_request_is_blocked :
    ((performDpi quicPlatform decryptingPd (quicContext true) .zeroed).conn 0).toBlock = true := by
  have decided := (@quic_is_blocked_by_server quicPlatform decryptingPd (quicContext true) .zeroed
    rfl rfl rfl (by decide +kernel)).mpr (.inl rfl)
  exact decided.2.mpr (.inr (by decide +kernel))

/-- A packet of the server is not, although the list has the server. -/
theorem quic_reply_is_not_blocked :
    Oriented (quicContext false) ∧
      ((performDpi quicPlatform decryptingPd (quicContext false) .zeroed).conn 0).l7proto = .quic ∧
      matchesDecryptionWhitelist decryptingPd (quicContext false).tuple (decryptingPd.conn 0) =
        true ∧
      ((performDpi quicPlatform decryptingPd (quicContext false) .zeroed).conn 0).toBlock =
        false := by
  refine ⟨rfl, ?_⟩
  decide +kernel

end PcapdroidFormal.Vpn
