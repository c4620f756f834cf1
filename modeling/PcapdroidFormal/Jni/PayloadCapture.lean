import PcapdroidFormal.Jni.ConnectionsDump

/-!
# Captured payload

`process_payload` hands the payload of a packet to `dump_payload_chunk`: all of it, or in
the minimal mode the start of one payload for each direction.  What is not handed over,
or not taken, makes the payload of the connection truncated.
-/

namespace PcapdroidFormal.Jni

open PcapdroidFormal.Core Firewall Foundation

/-! ## What process_payload reads and writes -/

/-- The payload of a connection as the capture knows it. -/
structure PayloadState where
  proxied : Bool
  truncated : Bool
  hasRx : Bool
  hasTx : Bool
  due : Bool
  deriving DecidableEq

def payloadState (data : Conn) : PayloadState where
  proxied := data.proxied
  truncated := data.payloadTruncated
  hasRx := data.hasPayloadRx
  hasTx := data.hasPayloadTx
  due := data.updateType.payload

/-! ## Inspection leaves it alone -/

section

variable (pd : Pcapdroid) (found : Option Host) (tuple : FiveTuple) (flow : NdpiFlow) (data : Conn)

theorem checkBlacklistedDomain_payload :
    payloadState (checkBlacklistedDomain pd data) = payloadState data := by
  rw [checkBlacklistedDomain_eq]
  rfl

theorem processProtocol_payload :
    payloadState (processProtocol flow data) = payloadState data := by
  unfold processProtocol processAlpn processUrl
  split
  · split
    · rfl
    · split_ifs <;> rfl
  · split <;> rfl
  · rfl

theorem updateInfo_payload :
    payloadState (updateInfo pd found data) = payloadState data := by
  unfold updateInfo
  split
  · rfl
  · split
    · exact checkBlacklistedDomain_payload pd _
    · rfl

theorem processNdpiData_payload :
    payloadState (processNdpiData pd tuple flow data) = payloadState data := by
  have inspected := (updateInfo_payload pd (foundInfo (processProtocol flow data).l7proto flow)
    (processProtocol flow data)).trans (processProtocol_payload flow data)
  simp only [processNdpiData]
  split
  · rw [vpnProcessNdpi_eq]
    exact inspected
  · exact inspected

end

section Callbacks

variable (platform : Platform)

theorem pdGiveupDpi_payload (pd : Pcapdroid) (tuple : FiveTuple) (data : Conn) :
    payloadState (pdGiveupDpi platform pd tuple data) = payloadState data := by
  have guessed (flow : NdpiFlow) :
      payloadState (guessProtocol platform flow data).2 = payloadState data := by
    unfold guessProtocol
    split <;> rfl
  unfold pdGiveupDpi
  split
  · rfl
  · exact (processNdpiData_payload pd tuple _ _).trans (guessed _)

theorem detectProtocol_payload (detected : NdpiFlow × L7Proto) (data : Conn) :
    payloadState (detectProtocol platform detected data) = payloadState data := by
  unfold detectProtocol
  split <;> rfl

/-! ## The capture -/

/-- The payload of a connection, and how it is captured, are the same. -/
structure SamePayload (id : ConnId) (before after : Pcapdroid) : Prop where
  mode : after.payloadMode = before.payloadMode
  tls : after.tlsDecryption.enabled = before.tlsDecryption.enabled
  conn : payloadState (after.conn id) = payloadState (before.conn id)

namespace SamePayload

variable {id : ConnId} {first second third : Pcapdroid}

theorem refl (id : ConnId) (pd : Pcapdroid) : SamePayload id pd pd := ⟨rfl, rfl, rfl⟩

theorem trans (earlier : SamePayload id first second) (later : SamePayload id second third) :
    SamePayload id first third :=
  ⟨later.mode.trans earlier.mode, later.tls.trans earlier.tls, later.conn.trans earlier.conn⟩

theorem setConn {pd : Pcapdroid} {data : Conn}
    (same : payloadState data = payloadState (pd.conn id)) :
    SamePayload id pd (pd.setConn id data) := by
  refine ⟨rfl, rfl, ?_⟩
  rw [Pcapdroid.setConn_conn_self]
  exact same

end SamePayload

section

variable (pd : Pcapdroid) (tuple : FiveTuple) (id : ConnId) (pctx : PktContext)

/-- A request for a notification is pending after it was made, and it is in the queue unless
one was pending before. -/
theorem pdNotifyConnectionUpdate_pending :
    SamePayload id pd (pdNotifyConnectionUpdate platform pd tuple id) ∧
      ((pdNotifyConnectionUpdate platform pd tuple id).conn id).pendingNotification = true ∧
      ((pd.conn id).pendingNotification = true ∨
        ⟨tuple, id⟩ ∈ (pdNotifyConnectionUpdate platform pd tuple id).connsUpdates) := by
  have same : SamePayload id pd (pd.setConn id
      (if (pd.conn id).status.isClosed then pdGiveupDpi platform pd tuple (pd.conn id)
        else pd.conn id)) := by
    apply SamePayload.setConn
    split
    · exact pdGiveupDpi_payload platform pd tuple _
    · rfl
  have pending : (if (pd.conn id).status.isClosed then pdGiveupDpi platform pd tuple (pd.conn id)
        else pd.conn id).pendingNotification = (pd.conn id).pendingNotification := by
    split
    · exact (pdGiveupDpi_examined platform pd tuple _).pending
    · rfl
  simp only [pdNotifyConnectionUpdate, notifConnection]
  generalize (if (pd.conn id).status.isClosed then pdGiveupDpi platform pd tuple (pd.conn id)
    else pd.conn id) = data at same pending ⊢
  split
  next already =>
    rw [Pcapdroid.setConn_conn_self]
    grind
  next =>
    rw [Pcapdroid.setConn_conn_self]
    refine ⟨⟨rfl, rfl, ?_⟩, rfl, .inr ?_⟩
    · have state := same.conn
      rw [Pcapdroid.setConn_conn_self] at state ⊢
      exact state
    · exact List.mem_append_right _ (List.mem_singleton_self _)

theorem completeDetection_samePayload :
    SamePayload id pd (completeDetection platform pd tuple id) := by
  simp only [completeDetection]
  split
  · refine SamePayload.trans ?_ (pdNotifyConnectionUpdate_pending platform _ tuple id).1
    exact .setConn rfl
  · exact .refl id pd

theorem performDpi_samePayload (flow : NdpiFlow) :
    SamePayload pctx.data pd (performDpi platform pd pctx flow) := by
  simp only [performDpi]
  have replied : SamePayload pctx.data pd
      (if !pctx.isTx && (detectProtocol platform (platform.processPacket flow pctx.pkt)
          (pd.conn pctx.data)).l7proto == .dns then
        processDnsReply platform pd (platform.processPacket flow pctx.pkt).1.hostServerName pctx.pkt
      else pd) := by
    unfold processDnsReply
    split_ifs <;> exact ⟨rfl, rfl, rfl⟩
  refine SamePayload.trans (replied.trans ?_) (completeDetection_samePayload platform _ _ _)
  have delayed (pd : Pcapdroid) (data : Conn) : SamePayload pctx.data pd (delayNetdDump pd data) := by
    unfold delayNetdDump
    split <;> exact ⟨rfl, rfl, rfl⟩
  refine SamePayload.trans (.setConn ?_) (delayed _ _)
  have detected := detectProtocol_payload platform (platform.processPacket flow pctx.pkt)
    (pd.conn pctx.data)
  rw [replied.conn]
  split
  · exact (pdGiveupDpi_payload platform _ _ _).trans detected
  · exact (processNdpiData_payload _ _ _ _).trans detected

/-- The payload is looked at after the inspection, which does not change it. -/
theorem inspectPacket_samePayload :
    SamePayload pctx.data pd (inspectPacket platform pd pctx) := by
  unfold inspectPacket
  split
  · exact .refl _ pd
  · split
    · exact performDpi_samePayload platform pd pctx _
    · exact .refl _ pd

/-! ## One packet -/

/-- The packet delivers what `dump_payload_chunk` takes. -/
theorem processPayload_chunk :
    (processPayload platform pd pctx).2 =
      if payloadSkipped pd pctx.pkt (pd.conn pctx.data) then none
      else (dumpPayload platform pd pctx (pd.conn pctx.data)).2.1 := by
  simp only [processPayload]
  split
  · rfl
  · split <;> rfl

/-- Some of the payload is not delivered. -/
def lost (payload : Bytes) (chunk : Option Bytes) : Bool := chunk.getD [] != payload

/-- The payload is captured, and not by the `MitmReceiver`. -/
structure Capturing (id : ConnId) (pd : Pcapdroid) : Prop where
  mode : pd.payloadMode ≠ .none
  direct : (pd.tlsDecryption.enabled && (pd.conn id).proxied) = false

def reports (truncated : Bool) (payload : Bytes) (chunk : Option Bytes) : Bool :=
  chunk.isSome || (lost payload chunk && !truncated)

def PayloadState.afterPacket (state : PayloadState) (isTx : Bool) (payload : Bytes)
    (chunk : Option Bytes) : PayloadState where
  proxied := state.proxied
  truncated := state.truncated || lost payload chunk
  hasRx := state.hasRx || (chunk.isSome && !isTx)
  hasTx := state.hasTx || (chunk.isSome && isTx)
  due := state.due || reports state.truncated payload chunk

theorem payloadSkipped_eq {pd : Pcapdroid} {pctx : PktContext}
    (capturing : Capturing pctx.data pd) :
    payloadSkipped pd pctx.pkt (pd.conn pctx.data) = pctx.pkt.l7.isEmpty := by
  rw [payloadSkipped, capturing.direct, Bool.or_false, beq_eq_false_iff_ne.mpr capturing.mode,
    Bool.false_or]

/-- What `dump_payload_chunk` is given is all of the payload, or it is longer than the limit of
the minimal mode. -/
theorem lost_toDump (pkt : ZdtunPkt) :
    lost pkt.l7 (some (pkt.l7.take (payloadToDump pd pkt).1)) = (payloadToDump pd pkt).2 := by
  unfold payloadToDump lost
  grind

end

theorem dumpPayloadChunk_taken {pctx : PktContext} {size : Nat} {chunk : Bytes}
    (taken : dumpPayloadChunk platform pctx size = some chunk) : chunk = pctx.pkt.l7.take size := by
  unfold dumpPayloadChunk at taken
  split at taken
  · exact (Option.some.inj taken).symm
  · cases taken

/-- The connection and the loss follow from the chunk that was taken. -/
theorem dumpPayload_eq {pd : Pcapdroid} {pctx : PktContext} (data : Conn)
    (nonempty : pctx.pkt.l7 ≠ []) {chunk : Option Bytes}
    (taken : (dumpPayload platform pd pctx data).2.1 = chunk) :
    dumpPayload platform pd pctx data =
      (if chunk.isSome then data.keepPayload pctx.isTx else data, chunk,
        data.payloadTruncated || lost pctx.pkt.l7 chunk) := by
  have nothing : lost pctx.pkt.l7 none = true := bne_iff_ne.mpr (Ne.symm nonempty)
  subst taken
  unfold dumpPayload
  split
  · cases taken : dumpPayloadChunk platform pctx (payloadToDump pd pctx.pkt).1 with
    | some chunk =>
      obtain rfl := dumpPayloadChunk_taken platform taken
      simp only [taken, lost_toDump, Option.isSome_some, if_true]
    | none => simp [taken, nothing]
  · simp [nothing]

/-- One packet of a connection whose payload is captured. -/
structure PacketDone (pd next : Pcapdroid) (pctx : PktContext) (chunk : Option Bytes) : Prop where
  mode : next.payloadMode = pd.payloadMode
  tls : next.tlsDecryption.enabled = pd.tlsDecryption.enabled
  conn : payloadState (next.conn pctx.data) =
    (payloadState (pd.conn pctx.data)).afterPacket pctx.isTx pctx.pkt.l7 chunk
  notified : reports (pd.conn pctx.data).payloadTruncated pctx.pkt.l7 chunk = true →
    (next.conn pctx.data).pendingNotification = true ∧
      ((pd.conn pctx.data).pendingNotification = true ∨ ⟨pctx.tuple, pctx.data⟩ ∈ next.connsUpdates)

/-- `process_payload` reports the packets that it should. -/
theorem reports_eq (data : Conn) (isTx : Bool) (payload : Bytes) (chunk : Option Bytes) :
    ((chunk.isSome && (if chunk.isSome then data.keepPayload isTx else data).payloadChunks) ||
      (data.payloadTruncated || lost payload chunk) != data.payloadTruncated) =
        reports data.payloadTruncated payload chunk := by
  unfold reports
  cases chunk with
  | some chunk => rfl
  | none => cases data.payloadTruncated <;> cases lost payload none <;> rfl

/-- What is written to a connection that is reported. -/
theorem markPayload_state (data : Conn) (isTx : Bool) {payload : Bytes} {chunk : Option Bytes}
    (reported : reports data.payloadTruncated payload chunk = true) :
    payloadState ((if chunk.isSome then data.keepPayload isTx else data).markPayload
      (data.payloadTruncated || lost payload chunk)) =
        (payloadState data).afterPacket isTx payload chunk := by
  have due : ((payloadState data).afterPacket isTx payload chunk).due = true := by
    rw [PayloadState.afterPacket]
    exact (congrArg _ reported).trans (Bool.or_true _)
  have truncated : (data.payloadTruncated || (data.payloadTruncated || lost payload chunk)) =
      (data.payloadTruncated || lost payload chunk) := by
    grind
  rw [PayloadState.afterPacket] at due ⊢
  cases chunk with
  | some chunk =>
    rw [payloadState, PayloadState.mk.injEq]
    exact ⟨rfl, truncated, rfl, rfl, due.symm⟩
  | none =>
    rw [payloadState, PayloadState.mk.injEq]
    exact ⟨rfl, truncated, (Bool.or_false _).symm, (Bool.or_false _).symm, due.symm⟩

theorem afterPacket_unreported {state : PayloadState} {isTx : Bool} {payload : Bytes}
    {chunk : Option Bytes} (unreported : reports state.truncated payload chunk = false) :
    chunk = none ∧ state.afterPacket isTx payload chunk = state := by
  cases chunk with
  | some chunk => cases unreported
  | none =>
    have truncated : (state.truncated || lost payload none) = state.truncated := by
      rw [reports, Option.isSome_none, Bool.false_or] at unreported
      cases known : state.truncated with
      | true => rfl
      | false =>
        grind
    refine ⟨rfl, ?_⟩
    rw [PayloadState.afterPacket, truncated, unreported]
    simp

theorem processPayload_done {pd : Pcapdroid} {pctx : PktContext}
    (capturing : Capturing pctx.data pd) :
    PacketDone pd (processPayload platform pd pctx).1 pctx
      (processPayload platform pd pctx).2 := by
  have skipped := payloadSkipped_eq capturing
  by_cases empty : pctx.pkt.l7 = []
  · have unreported : reports (pd.conn pctx.data).payloadTruncated pctx.pkt.l7 none = false := by
      rw [empty]
      rfl
    rw [empty, List.isEmpty_nil] at skipped
    rw [processPayload, if_pos skipped]
    refine ⟨rfl, rfl, (afterPacket_unreported unreported).2.symm, fun reported => ?_⟩
    grind
  · have offered : payloadSkipped pd pctx.pkt (pd.conn pctx.data) = false := by
      grind
    simp only [processPayload, offered, Bool.false_eq_true, if_false]
    generalize taken : (dumpPayload platform pd pctx (pd.conn pctx.data)).2.1 = chunk
    rw [dumpPayload_eq platform _ empty taken]
    simp only [reports_eq]
    split
    next reported =>
      have state := markPayload_state (pd.conn pctx.data) pctx.isTx reported
      have pending : ((if chunk.isSome = true then (pd.conn pctx.data).keepPayload pctx.isTx
          else pd.conn pctx.data).markPayload ((pd.conn pctx.data).payloadTruncated ||
            lost pctx.pkt.l7 chunk)).pendingNotification =
              (pd.conn pctx.data).pendingNotification := by
        cases chunk <;> rfl
      generalize ((if chunk.isSome = true then (pd.conn pctx.data).keepPayload pctx.isTx
        else pd.conn pctx.data).markPayload _) = data at state pending ⊢
      obtain ⟨same, isPending, queued⟩ := pdNotifyConnectionUpdate_pending platform
        (pd.setConn pctx.data data) pctx.tuple pctx.data
      have stateAfter := same.conn
      rw [Pcapdroid.setConn_conn_self] at stateAfter queued
      rw [pending] at queued
      exact ⟨same.mode, same.tls, stateAfter.trans state, fun _ => ⟨isPending, queued⟩⟩
    next unreported =>
      rw [Bool.not_eq_true] at unreported
      obtain ⟨rfl, same⟩ := @afterPacket_unreported (payloadState (pd.conn pctx.data)) pctx.isTx
        pctx.pkt.l7 chunk unreported
      refine ⟨rfl, rfl, ?_, fun reported => ?_⟩
      · rw [same, Pcapdroid.setConn_conn_self]
        rfl
      · grind

/-! ## What is delivered -/

variable {platform}

theorem processPayload_full {pd : Pcapdroid} {pctx : PktContext}
    (capturing : Capturing pctx.data pd) (full : pd.payloadMode = .full) :
    (processPayload platform pd pctx).2 =
      if !pctx.pkt.l7.isEmpty && platform.dumpPayloadChunk pctx pctx.pkt.l7.length
        then some pctx.pkt.l7 else none := by
  have skipped := payloadSkipped_eq capturing
  have whole : payloadToDump pd pctx.pkt = (pctx.pkt.l7.length, false) := by
    rw [payloadToDump, full]
    rfl
  have wanted : (pd.payloadMode != .minimal || !(pd.conn pctx.data).hasPayload pctx.isTx) = true := by
    rw [full]
    rfl
  rw [processPayload_chunk, skipped]
  simp only [dumpPayload, whole, wanted, if_true, dumpPayloadChunk, List.take_length]
  cases pctx.pkt.l7.isEmpty with
  | true => rfl
  | false => cases platform.dumpPayloadChunk pctx pctx.pkt.l7.length <;> rfl

theorem processPayload_minimal {pd : Pcapdroid} {pctx : PktContext}
    (minimal : pd.payloadMode = .minimal) {chunk : Bytes}
    (delivered : (processPayload platform pd pctx).2 = some chunk) :
    (pd.conn pctx.data).hasPayload pctx.isTx = false ∧ chunk <+: pctx.pkt.l7 ∧
      chunk.length ≤ minimalPayloadMaxDirectionSize := by
  rw [processPayload_chunk] at delivered
  split at delivered
  next => cases delivered
  next =>
    simp only [dumpPayload] at delivered
    split at delivered
    next wanted =>
      rw [minimal] at wanted
      have first : (pd.conn pctx.data).hasPayload pctx.isTx = false := by simpa using wanted
      split at delivered
      next taken =>
        obtain rfl := Option.some.inj delivered
        obtain rfl := dumpPayloadChunk_taken platform taken
        refine ⟨first, List.take_prefix _ _, ?_⟩
        rw [payloadToDump, minimal, List.length_take]
        grind
      next => cases delivered
    next => cases delivered

end Callbacks

/-! ## Runs -/

/-- A packet of a connection: its payload, whether `dump_payload_chunk` takes it, and the chunk
that is delivered. -/
structure PayloadPacket where
  isTx : Bool
  payload : Bytes
  accepted : Bool
  chunk : Option Bytes

namespace PayloadPacket

/-- The packet delivers a chunk of the direction. -/
def delivers (packet : PayloadPacket) (isTx : Bool) : Bool :=
  packet.isTx == isTx && packet.chunk.isSome

/-- Some byte of the payload is not delivered. -/
def incomplete (packet : PayloadPacket) : Bool := lost packet.payload packet.chunk

end PayloadPacket

/-- The callbacks, with the result of `dump_payload_chunk` for a packet. -/
def answering (platform : Platform) (accepted : Bool) : Platform :=
  { platform with dumpPayloadChunk := fun _ _ => accepted }

/-- What may happen between the packets of a connection: `payload_chunks` and `update_type` are
left open, for they are reset by the notifications. -/
structure Between (id : ConnId) (before after : Pcapdroid) : Prop where
  mode : after.payloadMode = before.payloadMode
  direct : (after.tlsDecryption.enabled && (after.conn id).proxied) = false
  truncated : (after.conn id).payloadTruncated = (before.conn id).payloadTruncated
  hasPayload : ∀ isTx, (after.conn id).hasPayload isTx = (before.conn id).hasPayload isTx

/-- The packets of a connection in a capture, and the state after them. -/
inductive PayloadRun (platform : Platform) (id : ConnId) (first : Pcapdroid) :
    List PayloadPacket → Pcapdroid → Prop where
  | start : PayloadRun platform id first [] first
  | packet {log : List PayloadPacket} {pd : Pcapdroid} (run : PayloadRun platform id first log pd)
      (pctx : PktContext) (accepted : Bool) (own : pctx.data = id) :
      PayloadRun platform id first
        (log ++ [⟨pctx.isTx, pctx.pkt.l7, accepted,
          (processPayload (answering platform accepted) pd pctx).2⟩])
        (processPayload (answering platform accepted) pd pctx).1
  | between {log : List PayloadPacket} {pd after : Pcapdroid}
      (run : PayloadRun platform id first log pd) (between : Between id pd after) :
      PayloadRun platform id first log after

variable {id : ConnId}

theorem SamePayload.between {before after : Pcapdroid} (same : SamePayload id before after)
    (capturing : Capturing id before) : Between id before after where
  mode := same.mode
  direct := by
    have proxied : (after.conn id).proxied = (before.conn id).proxied :=
      congrArg PayloadState.proxied same.conn
    rw [same.tls, proxied]
    exact capturing.direct
  truncated := congrArg PayloadState.truncated same.conn
  hasPayload isTx := by
    cases isTx with
    | true => exact congrArg PayloadState.hasTx same.conn
    | false => exact congrArg PayloadState.hasRx same.conn

/-- `pd_process_packet` adds its packet to the run. -/
theorem PayloadRun.pdProcessPacket {platform : Platform} {first pd : Pcapdroid}
    {log : List PayloadPacket} (run : PayloadRun platform id first log pd)
    (capturing : Capturing id pd) (pkt : ZdtunPkt) (isTx : Bool) (tuple : FiveTuple) (ms : Nat)
    (accepted : Bool) :
    ∃ chunk, PayloadRun platform id first (log ++ [⟨isTx, pkt.l7, accepted, chunk⟩])
      (Core.pdProcessPacket (answering platform accepted) pd pkt isTx tuple id ms).1 := by
  have seen : SamePayload id pd (pd.takeContext.setConn id ((pd.conn id).seen ms)) := by
    refine ⟨rfl, rfl, ?_⟩
    rw [Pcapdroid.setConn_conn_self]
    rfl
  have inspected := seen.trans (inspectPacket_samePayload (answering platform accepted) _
    ⟨pd.contexts, pkt, ms, isTx, tuple, id⟩)
  have ready := run.between (inspected.between capturing)
  exact ⟨_, ready.packet ⟨pd.contexts, pkt, ms, isTx, tuple, id⟩ accepted rfl⟩

/-! ## Notifications -/

/-- What the notifications leave of the payload. -/
structure KeepsPayload (before after : Conn) : Prop where
  proxied : after.proxied = before.proxied
  truncated : after.payloadTruncated = before.payloadTruncated
  hasPayload : ∀ isTx, after.hasPayload isTx = before.hasPayload isTx

theorem KeepsPayload.refl (data : Conn) : KeepsPayload data data := ⟨rfl, rfl, fun _ => rfl⟩

theorem getConnUpdate_keeps (calls : UpdateCalls) (data : Conn) :
    KeepsPayload data (getConnUpdate calls data).1 := by
  unfold getConnUpdate
  split
  · exact ⟨rfl, rfl, fun _ => rfl⟩
  · exact .refl data

theorem dumpNewConnection_keeps (calls : DescriptorCalls) (data : Conn) :
    KeepsPayload data (dumpNewConnection calls data).1 := by
  have kept := getConnUpdate_keeps calls.update
    { data with updateType := { data.updateType with stats := true, info := true } }
  unfold dumpNewConnection
  split
  · exact .refl data
  · split
    · exact .refl data
    · exact ⟨kept.proxied, kept.truncated, kept.hasPayload⟩

/-- A dump of connections leaves the payload of a connection. -/
structure DumpKeeps (id : ConnId) (before after : Pcapdroid) : Prop where
  mode : after.payloadMode = before.payloadMode
  tls : after.tlsDecryption = before.tlsDecryption
  conn : KeepsPayload (before.conn id) (after.conn id)

theorem DumpKeeps.refl (id : ConnId) (pd : Pcapdroid) : DumpKeeps id pd pd := ⟨rfl, rfl, .refl _⟩

theorem DumpKeeps.trans {first second third : Pcapdroid} (earlier : DumpKeeps id first second)
    (later : DumpKeeps id second third) : DumpKeeps id first third where
  mode := later.mode.trans earlier.mode
  tls := later.tls.trans earlier.tls
  conn := ⟨later.conn.proxied.trans earlier.conn.proxied,
    later.conn.truncated.trans earlier.conn.truncated,
    fun isTx => (later.conn.hasPayload isTx).trans (earlier.conn.hasPayload isTx)⟩

theorem dumpConns_keeps {Calls : Type} {dump : Calls → Conn → Conn × Bool}
    (keeps : ∀ calls data, KeepsPayload data (dump calls data).1) (calls : Nat → Calls) (index : Nat)
    (pd : Pcapdroid) (slots : List ConnAndTuple) (id : ConnId) :
    DumpKeeps id pd (dumpConns dump calls index pd slots).1 := by
  induction slots generalizing index pd with
  | nil => exact .refl id pd
  | cons slot slots ih =>
    have kept := keeps (calls index) { pd.conn slot.data with pendingNotification := false }
    have written : DumpKeeps id pd (pd.setConn slot.data
        (dump (calls index) { pd.conn slot.data with pendingNotification := false }).1) := by
      refine ⟨rfl, rfl, ?_⟩
      exact Pcapdroid.setConn_cases ⟨kept.proxied, kept.truncated, kept.hasPayload⟩
        (fun _ _ => .refl _) id
    simp only [dumpConns]
    split
    · exact written.trans (ih (index + 1) _)
    · exact written

/-- A dump of the connections, which may fail at any of them, comes between their packets. -/
theorem sendConnectionsDump_between {pd : Pcapdroid} (capturing : Capturing id pd)
    (calls : DumpCalls) : Between id pd (sendConnectionsDump calls pd) := by
  have kept : DumpKeeps id pd (sendConnectionsDump calls pd) := by
    have new := dumpConns_keeps dumpNewConnection_keeps calls.newConn 0 pd pd.newConns id
    simp only [sendConnectionsDump]
    generalize dumpConns dumpNewConnection calls.newConn 0 pd pd.newConns = dumped at new ⊢
    split
    · split
      · exact new.trans (dumpConns_keeps getConnUpdate_keeps calls.update 0 dumped.1 _ id)
      · exact new
    · exact .refl id pd
  refine ⟨kept.mode, ?_, kept.conn.truncated, kept.conn.hasPayload⟩
  rw [kept.tls, kept.conn.proxied]
  exact capturing.direct

/-! ## Packets and chunks -/

/-- A connection that has had no payload yet. -/
structure NoPayload (id : ConnId) (pd : Pcapdroid) : Prop where
  capturing : Capturing id pd
  truncated : (pd.conn id).payloadTruncated = false
  hasPayload : ∀ isTx, (pd.conn id).hasPayload isTx = false

def FullCapture (log : List PayloadPacket) : Prop :=
  log.filterMap PayloadPacket.chunk =
    (log.filter fun packet => !packet.payload.isEmpty && packet.accepted).map PayloadPacket.payload

structure MinimalCapture (log : List PayloadPacket) : Prop where
  single : ∀ isTx, log.countP (·.delivers isTx) ≤ 1
  short : ∀ packet ∈ log, ∀ chunk ∈ packet.chunk,
    chunk <+: packet.payload ∧ chunk.length ≤ minimalPayloadMaxDirectionSize

/-- The flags of the connection are those of the packets. -/
structure Tracked (id : ConnId) (mode : PayloadMode) (log : List PayloadPacket) (pd : Pcapdroid) :
    Prop where
  capturing : Capturing id pd
  inMode : pd.payloadMode = mode
  truncated : (pd.conn id).payloadTruncated = log.any (·.incomplete)
  hasPayload : ∀ isTx, (pd.conn id).hasPayload isTx = log.any (·.delivers isTx)
  full : mode = .full → FullCapture log
  minimal : mode = .minimal → MinimalCapture log

theorem hasPayload_afterPacket {before after : Conn} {packet : PayloadPacket}
    (state : payloadState after =
      (payloadState before).afterPacket packet.isTx packet.payload packet.chunk) (isTx : Bool) :
    after.hasPayload isTx = (before.hasPayload isTx || packet.delivers isTx) := by
  have rx := congrArg PayloadState.hasRx state
  have tx := congrArg PayloadState.hasTx state
  unfold PayloadPacket.delivers
  cases isTx with
  | true =>
    refine Eq.trans tx ?_
    cases packet.isTx <;> simp [PayloadState.afterPacket, payloadState, Conn.hasPayload]
  | false =>
    refine Eq.trans rx ?_
    cases packet.isTx <;> simp [PayloadState.afterPacket, payloadState, Conn.hasPayload]

namespace Tracked

variable {platform : Platform} {id : ConnId} {mode : PayloadMode} {log : List PayloadPacket}
  {pd : Pcapdroid}

theorem start (fresh : NoPayload id pd) : Tracked id pd.payloadMode [] pd where
  capturing := fresh.capturing
  inMode := rfl
  truncated := fresh.truncated
  hasPayload := fresh.hasPayload
  full _ := rfl
  minimal _ := ⟨fun _ => Nat.zero_le _, fun _ member => absurd member List.not_mem_nil⟩

theorem between (tracked : Tracked id mode log pd) {after : Pcapdroid}
    (between : Between id pd after) : Tracked id mode log after where
  capturing := ⟨between.mode ▸ tracked.capturing.mode, between.direct⟩
  inMode := between.mode.trans tracked.inMode
  truncated := between.truncated.trans tracked.truncated
  hasPayload isTx := (between.hasPayload isTx).trans (tracked.hasPayload isTx)
  full := tracked.full
  minimal := tracked.minimal

/-- One packet. -/
theorem packet (tracked : Tracked id mode log pd) {pctx : PktContext} (accepted : Bool)
    (own : pctx.data = id) :
    Tracked id mode
      (log ++ [⟨pctx.isTx, pctx.pkt.l7, accepted,
        (processPayload (answering platform accepted) pd pctx).2⟩])
      (processPayload (answering platform accepted) pd pctx).1 := by
  subst own
  have done := processPayload_done (answering platform accepted) tracked.capturing
  have capturing : Capturing pctx.data (processPayload (answering platform accepted) pd pctx).1 := by
    refine ⟨done.mode ▸ tracked.capturing.mode, ?_⟩
    have proxied := congrArg PayloadState.proxied done.conn
    have direct := tracked.capturing.direct
    rw [← done.tls] at direct
    rw [show ((processPayload (answering platform accepted) pd pctx).1.conn pctx.data).proxied =
      (pd.conn pctx.data).proxied from proxied]
    exact direct
  constructor
  · exact capturing
  · exact done.mode.trans tracked.inMode
  · refine (congrArg PayloadState.truncated done.conn).trans ?_
    rw [List.any_append, ← tracked.truncated, List.any_cons, List.any_nil, Bool.or_false]
    rfl
  · intro isTx
    rw [List.any_append, ← tracked.hasPayload isTx, List.any_cons, List.any_nil, Bool.or_false]
    exact hasPayload_afterPacket done.conn isTx
  · intro full
    have chunk := @processPayload_full (answering platform accepted) pd pctx tracked.capturing
      (tracked.inMode.trans full)
    have before := tracked.full full
    unfold FullCapture at before ⊢
    rw [List.filterMap_append, List.filter_append, List.map_append, before, chunk]
    congr 1
    cases taken : !pctx.pkt.l7.isEmpty && accepted with
    | true =>
      have isTaken : (!pctx.pkt.l7.isEmpty &&
        (answering platform accepted).dumpPayloadChunk pctx pctx.pkt.l7.length) = true := taken
      simp [isTaken, taken]
    | false =>
      have notTaken : (!pctx.pkt.l7.isEmpty &&
        (answering platform accepted).dumpPayloadChunk pctx pctx.pkt.l7.length) = false := taken
      simp [notTaken, taken]
  · intro minimal
    obtain ⟨single, short⟩ := tracked.minimal minimal
    have delivered {chunk : Bytes} := @processPayload_minimal (answering platform accepted) pd pctx
      (tracked.inMode.trans minimal) chunk
    generalize (processPayload (answering platform accepted) pd pctx).2 = chunk at delivered ⊢
    constructor
    · intro isTx
      rw [List.countP_append, List.countP_singleton]
      split
      next delivers =>
        -- no packet before this one has delivered a chunk of its direction
        rw [PayloadPacket.delivers, Bool.and_eq_true] at delivers
        obtain ⟨chunk, rfl⟩ := Option.isSome_iff_exists.mp delivers.2
        obtain rfl : isTx = pctx.isTx := (eq_of_beq delivers.1).symm
        have first := (delivered rfl).1
        rw [tracked.hasPayload, List.any_eq_false] at first
        rw [List.countP_eq_zero.mpr first]
      next => exact single isTx
    · intro packet member
      rcases List.mem_append.mp member with old | new
      · exact short packet old
      · rw [List.mem_singleton.mp new]
        exact fun found isFound => (delivered isFound).2

/-- All packets. -/
theorem run {first : Pcapdroid} (fresh : NoPayload id first)
    (packets : PayloadRun platform id first log pd) : Tracked id first.payloadMode log pd := by
  induction packets with
  | start => exact start fresh
  | packet _ pctx accepted own ih => exact ih.packet accepted own
  | between _ between ih => exact ih.between between

end Tracked

/-! ## Complete or truncated -/

/-- The chunks of a connection are its payload, or the payload is marked as truncated, and every
chunk and the mark are reported. -/
theorem payload_is_complete_or_truncated (platform : Platform) (id : ConnId) {first pd : Pcapdroid}
    (fresh : NoPayload id first) {log : List PayloadPacket}
    (run : PayloadRun platform id first log pd) :
    (first.payloadMode = .full → FullCapture log) ∧
      (first.payloadMode = .minimal → MinimalCapture log) ∧
      ((pd.conn id).payloadTruncated = true ↔ ∃ packet ∈ log, packet.incomplete = true) ∧
      ∀ pctx accepted, pctx.data = id →
        let chunk := (processPayload (answering platform accepted) pd pctx).2
        let next := (processPayload (answering platform accepted) pd pctx).1
        ((pd.conn id).payloadTruncated = true → (next.conn id).payloadTruncated = true) ∧
          (chunk.isSome = true ∨
              (pd.conn id).payloadTruncated = false ∧ (next.conn id).payloadTruncated = true →
            (next.conn id).updateType.payload = true ∧ (next.conn id).pendingNotification = true ∧
              ((pd.conn id).pendingNotification = true ∨ ⟨pctx.tuple, id⟩ ∈ next.connsUpdates)) := by
  have tracked := Tracked.run fresh run
  refine ⟨tracked.full, tracked.minimal, ?_, ?_⟩
  · rw [tracked.truncated, List.any_eq_true]
  · rintro pctx accepted rfl
    have done := processPayload_done (answering platform accepted) tracked.capturing
    have truncated := congrArg PayloadState.truncated done.conn
    have due := congrArg PayloadState.due done.conn
    change Conn.payloadTruncated _ = ((pd.conn pctx.data).payloadTruncated || _) at truncated
    change UpdateType.payload _ = ((pd.conn pctx.data).updateType.payload || _) at due
    refine ⟨fun before => ?_, fun reported => ?_⟩
    · rw [truncated, before, Bool.true_or]
    · have reports : reports (pd.conn pctx.data).payloadTruncated pctx.pkt.l7
          (processPayload (answering platform accepted) pd pctx).2 = true := by
        rw [Jni.reports, Bool.or_eq_true]
        refine reported.imp id fun ⟨before, after⟩ => ?_
        rw [truncated, before, Bool.false_or] at after
        rw [before, after]
        rfl
      refine ⟨?_, done.notified reports⟩
      rw [due]
      exact (congrArg _ reports).trans (Bool.or_true _)

def minimalCapture : Pcapdroid := { Pcapdroid.initial with payloadMode := .minimal }

/-- A packet that is sent by a connection. -/
def requestContext (l7 : Bytes) : PktContext :=
  ⟨0, ⟨⟨1, 2, 3, 4, 4, 6⟩, false, false, false, true, l7, l7⟩, 0, true, ⟨1, 2, 3, 4, 4, 6⟩, 0⟩

/-- The first request is kept and reported, and the second one is lost. -/
theorem second_request_is_truncated :
    ∃ log pd, PayloadRun .inert 0 minimalCapture log pd ∧
      log.map PayloadPacket.chunk = [some [1, 2], none] ∧ (pd.conn 0).payloadTruncated = true ∧
        log.countP (·.delivers true) ≤ 1 := by
  have fresh : NoPayload 0 minimalCapture := ⟨⟨by decide, by decide⟩, by decide, by decide⟩
  have opened : PayloadRun .inert 0 minimalCapture [] minimalCapture := .start
  have first := opened.packet (requestContext [1, 2]) true rfl
  have capturing := (Tracked.run fresh first).capturing
  have reported := first.between (sendConnectionsDump_between capturing
    ⟨true, fun _ => ⟨true, true, ⟨true, true⟩, true⟩, fun _ => ⟨true, true⟩⟩)
  have second := reported.packet (requestContext [3]) true rfl
  obtain ⟨_, minimal, truncated, _⟩ := payload_is_complete_or_truncated .inert 0 fresh second
  refine ⟨_, _, second, ?_, truncated.mpr ⟨_, List.mem_append_right _ (List.mem_singleton_self _), ?_⟩,
    (minimal rfl).single true⟩
  · decide +kernel
  · decide +kernel

end PcapdroidFormal.Jni
