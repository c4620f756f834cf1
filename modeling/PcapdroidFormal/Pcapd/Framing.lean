import PcapdroidFormal.Pcapd.Stream
import PcapdroidFormal.Pcapd.UidFilter

/-!
# Packets from pcapd

`read_pkt` exports a packet that libpcap returns: it looks for the UID of the packet, applies
the UID filter, and writes a header and the captured bytes to the socket.
-/

namespace PcapdroidFormal.Pcapd

open Foundation

/-! ## `read_pkt` -/

/-- The link types that pcapd opens, with the offset of the IP header. -/
def dltOffset (dlink : Nat) : Option Nat :=
  if dlink = 12 then some 0
  else if dlink = 1 then some 14
  else if dlink = 113 then some 16
  else if dlink = 276 then some 20
  else none

/-- An open interface or capture file. -/
structure PcapdIface where
  dlink : Nat
  ipoffset : Nat
  ifid : UInt8
  supported : dltOffset dlink = some ipoffset

/-- A packet of libpcap, with the UID and the direction that pcapd finds for it.  The last
fields of the header are the number of dropped packets and padding that is not initialised. -/
structure CapturedPkt (sizeofTimeval : Nat) where
  ts : Fin sizeofTimeval → UInt8
  data : Bytes
  uid : Int32
  isTx : Bool
  pktDrops : UInt32
  pad : UInt8 × UInt8

structure PcapdConf where
  uidFilter : Option (List Int)
  dumpDatalink : Bool

/-- The loop of `matches_uid_filter`, for a number of iterations.  It does not advance `filter`. -/
def matchesLoop (uid : Int) : Nat → List Int → Option Bool
  | 0, _ => none
  | _ + 1, [] => some false
  | fuel + 1, first :: rest =>
    if first = uid then some true else matchesLoop uid fuel (first :: rest)

/-- The loop never ends at a UID other than the first one. -/
theorem matchesLoop_diverges {first uid : Int} (other : first ≠ uid) (rest : List Int)
    (fuel : Nat) : matchesLoop uid fuel (first :: rest) = none := by
  induction fuel with
  | zero => rfl
  | succ fuel ih => rw [matchesLoop, if_neg other, ih]

/-- `matches_uid_filter`, unless it never returns; the first iteration is like every other. -/
def matchesUidFilter (filter : Option (List Int)) (uid : Int) : Option Bool :=
  match filter with
  | none | some [] => some true
  | some filter => matchesLoop uid 1 filter

inductive ReadPkt (sizeofTimeval : Nat) where
  | skips
  | hangs
  | sends (frame : Frame sizeofTimeval)

section Packets

variable {sizeofTimeval : Nat} (conf : PcapdConf) (iface : PcapdIface)

/-- `read_pkt`.  The length in the header has 16 bits, and `xwrite` gets this length. -/
def readPkt (pkt : CapturedPkt sizeofTimeval) : ReadPkt sizeofTimeval :=
  if iface.ipoffset ≤ pkt.data.length then
    match matchesUidFilter conf.uidFilter pkt.uid.toInt with
    | none => .hangs
    | some false => .skips
    | some true =>
      let data := if conf.dumpDatalink then pkt.data else pkt.data.drop iface.ipoffset
      let phdr : WireHdr sizeofTimeval :=
        { ts := pkt.ts
          pktDrops := pkt.pktDrops
          uid := pkt.uid.toUInt32
          len := UInt16.ofNat data.length
          linktype := UInt16.ofNat (if conf.dumpDatalink then iface.dlink else 12)
          flags := if pkt.isTx then 1 else 0
          ifid := iface.ifid
          pad := pkt.pad }
      .sends (phdr, data.take phdr.len.toNat)
  else .skips

/-- The frames that pcapd sends for a sequence of packets, and whether it hangs after them. -/
def sentFrames : List (CapturedPkt sizeofTimeval) → List (Frame sizeofTimeval) × Bool
  | [] => ([], false)
  | pkt :: pkts =>
    match readPkt conf iface pkt with
    | .skips => sentFrames pkts
    | .hangs => ([], true)
    | .sends frame => (frame :: (sentFrames pkts).1, (sentFrames pkts).2)

/-- pcapd and `run_libpcap` at the start of a capture. -/
def startLink (pkts : List (CapturedPkt sizeofTimeval)) : Link sizeofTimeval :=
  .start (Link.frameCalls (sentFrames conf iface pkts).1) (sentFrames conf iface pkts).2

/-! ## What arrives -/

/-- The parts of a packet that the capture depends on. -/
structure SeenPkt (sizeofTimeval : Nat) where
  ts : Fin sizeofTimeval → UInt8
  uid : Int32
  linktype : Nat
  isTx : Bool
  data : Bytes

/-- The packet that `run_libpcap` gets. -/
def Frame.seen (frame : Frame sizeofTimeval) : SeenPkt sizeofTimeval where
  ts := frame.1.ts
  uid := frame.1.uid.toInt32
  linktype := frame.1.linktype.toNat
  isTx := frame.1.flags &&& 1 != 0
  data := frame.2

/-- The packet that libpcap returns, with its link-layer header. -/
def CapturedPkt.seen (pkt : CapturedPkt sizeofTimeval) : SeenPkt sizeofTimeval where
  ts := pkt.ts
  uid := pkt.uid
  linktype := iface.dlink
  isTx := pkt.isTx
  data := pkt.data

/-- The UID filter lets the packet through. -/
def Passes (filter : Option (List Int)) (uid : Int32) : Prop :=
  filter = none ∨ filter = some [] ∨ ∃ uids, filter = some uids ∧ uid.toInt ∈ uids

/-- The packets arrive unchanged and in order; `run_libpcap` stops only at the end or at a
packet that its buffer cannot hold, and no packet is missing once nothing is on its way. -/
structure Lossless (pkts : List (SeenPkt sizeofTimeval)) (link : Link sizeofTimeval) : Prop where
  inOrder : link.delivered.map Frame.seen <+: pkts
  stopped : ∀ reason, link.loop = .stopped reason →
    reason = .closed ∧ link.delivered.map Frame.seen = pkts ∨
      ∃ pkt rest, reason = .tooBig ∧ pkts = link.delivered.map Frame.seen ++ pkt :: rest ∧
        pcapdSnaplen < pkt.data.length
  arrived : link.Idle → link.delivered.map Frame.seen = pkts
  moving : (∀ reason, link.loop ≠ .stopped reason) → ¬ link.Idle →
    ∃ count, (link.step (.write (.moved count))).isSome = true ∨
      (link.step (.read (.moved count))).isSome = true

/-- The packet is sent whole: its length has 16 bits, and no filter is set or the UID is the
first one of the filter. -/
def Exported (pkt : CapturedPkt sizeofTimeval) : Prop :=
  pkt.data.length ≤ pcapdSnaplen ∧
    (conf.uidFilter = none ∨ conf.uidFilter = some [] ∨
      ∃ rest, conf.uidFilter = some (pkt.uid.toInt :: rest))

variable {conf iface} {pkt : CapturedPkt sizeofTimeval}

/-- Each header that is sent tells the length of the bytes behind it. -/
theorem sentFrames_measured (pkts : List (CapturedPkt sizeofTimeval)) :
    Link.Measured (sentFrames conf iface pkts).1 := by
  induction pkts with
  | nil => exact List.forall_mem_nil _
  | cons pkt pkts ih =>
    rw [sentFrames]
    cases read : readPkt conf iface pkt with
    | skips => exact ih
    | hangs => exact List.forall_mem_nil _
    | sends frame =>
      refine List.forall_mem_cons.mpr ⟨?_, ih⟩
      unfold readPkt at read
      split at read
      · split at read
        · cases read
        · cases read
        · cases read
          rw [List.length_take, UInt16.toNat_ofNat']
          grind
      · cases read

/-- The link types have 16 bits. -/
theorem dlink_mod (iface : PcapdIface) : iface.dlink % 2 ^ 16 = iface.dlink := by
  have supported := iface.supported
  refine Nat.mod_eq_of_lt ?_
  unfold dltOffset at supported
  grind

/-- A packet whose UID is the first one of the filter is sent, cut to the length that the header
can tell. -/
theorem readPkt_sends (datalink : conf.dumpDatalink = true)
    (long : iface.ipoffset ≤ pkt.data.length)
    (first : conf.uidFilter = none ∨ conf.uidFilter = some [] ∨
      ∃ rest, conf.uidFilter = some (pkt.uid.toInt :: rest)) :
    ∃ frame, readPkt conf iface pkt = .sends frame ∧
      frame.seen = { pkt.seen iface with data := pkt.data.take (pkt.data.length % 2 ^ 16) } := by
  have matched : matchesUidFilter conf.uidFilter pkt.uid.toInt = some true := by
    rcases first with none | empty | ⟨rest, filter⟩
    · rw [none, matchesUidFilter]
    · rw [empty, matchesUidFilter]
    · rw [filter]
      exact if_pos rfl
  simp only [readPkt, if_pos long, matched, datalink, if_true]
  refine ⟨_, rfl, ?_⟩
  have flag : ((if pkt.isTx = true then (1 : UInt8) else 0) &&& 1 != 0) = pkt.isTx := by
    cases pkt.isTx <;> rfl
  simp only [Frame.seen, CapturedPkt.seen, flag, Int32.toInt32_toUInt32, UInt16.toNat_ofNat',
    dlink_mod]

/-- At any other UID of the filter pcapd hangs. -/
theorem readPkt_hangs (long : iface.ipoffset ≤ pkt.data.length)
    (passes : Passes conf.uidFilter pkt.uid)
    (later : ¬ (conf.uidFilter = none ∨ conf.uidFilter = some [] ∨
      ∃ rest, conf.uidFilter = some (pkt.uid.toInt :: rest))) :
    readPkt conf iface pkt = .hangs := by
  rw [not_or, not_or] at later
  obtain ⟨notNone, notEmpty, notFirst⟩ := later
  rcases passes with none | empty | ⟨uids, filter, member⟩
  · exact absurd none notNone
  · exact absurd empty notEmpty
  · cases uids with
    | nil => cases member
    | cons first rest =>
      have other : first ≠ pkt.uid.toInt := fun same => notFirst ⟨rest, same ▸ filter⟩
      have stuck : matchesUidFilter conf.uidFilter pkt.uid.toInt = none := by
        rw [filter]
        exact matchesLoop_diverges other rest 1
      simp only [readPkt, if_pos long, stuck]

theorem take_mod_eq_iff (data : Bytes) :
    data.take (data.length % 2 ^ 16) = data ↔ data.length ≤ pcapdSnaplen := by
  unfold pcapdSnaplen
  constructor
  · grind
  · intro small
    rw [Nat.mod_eq_of_lt (by omega), List.take_length]

/-- The frames that are sent are the packets just if every packet is sent whole. -/
theorem sentFrames_seen_iff (datalink : conf.dumpDatalink = true)
    {pkts : List (CapturedPkt sizeofTimeval)}
    (passing : ∀ pkt ∈ pkts, iface.ipoffset ≤ pkt.data.length ∧ Passes conf.uidFilter pkt.uid) :
    (sentFrames conf iface pkts).1.map Frame.seen = pkts.map (·.seen iface) ↔
      ∀ pkt ∈ pkts, Exported conf pkt := by
  induction pkts with
  | nil => exact iff_of_true rfl (List.forall_mem_nil _)
  | cons pkt pkts ih =>
    rw [List.forall_mem_cons] at passing
    obtain ⟨⟨long, passes⟩, others⟩ := passing
    rw [List.forall_mem_cons, ← ih others, sentFrames]
    by_cases first : conf.uidFilter = none ∨ conf.uidFilter = some [] ∨
        ∃ rest, conf.uidFilter = some (pkt.uid.toInt :: rest)
    · obtain ⟨frame, read, seen⟩ := readPkt_sends datalink long first
      have same : frame.seen = pkt.seen iface ↔ Exported conf pkt := by
        rw [seen, Exported, and_iff_left first, ← take_mod_eq_iff]
        exact ⟨congrArg SeenPkt.data, fun whole => by rw [whole]; rfl⟩
      grind
    · have unsent : ¬ Exported conf pkt := fun exported => first exported.2
      rw [readPkt_hangs long passes first]
      exact iff_of_false (fun same => by cases same) (fun both => unsent both.1)

/-- Packets that pass the UID filter arrive without loss just if every one of them has at most
65535 bytes and no UID is compared with more than the first one of the filter. -/
theorem packets_arrive_unchanged (datalink : conf.dumpDatalink = true)
    {pkts : List (CapturedPkt sizeofTimeval)}
    (passing : ∀ pkt ∈ pkts, iface.ipoffset ≤ pkt.data.length ∧ Passes conf.uidFilter pkt.uid) :
    (∀ events link, Path Link.step (fun _ _ => True) (startLink conf iface pkts) events link →
        Lossless (pkts.map (·.seen iface)) link) ↔
      ∀ pkt ∈ pkts, Exported conf pkt := by
  have measured : Link.Measured (sentFrames conf iface pkts).1 := sentFrames_measured pkts
  rw [← sentFrames_seen_iff datalink passing]
  constructor
  · intro lossless
    obtain ⟨events, path⟩ := Link.exists_delivery measured (sentFrames conf iface pkts).2 []
    exact (lossless events _ path).arrived ⟨rfl, rfl, rfl⟩
  · intro same events link path
    have carries : Link.Carries (sentFrames conf iface pkts).1 link :=
      path.invariant (fun carried _ taken => Link.step_carries measured carried taken)
        (Link.start_carries _ _)
    rw [← same]
    refine ⟨?_, ?_, ?_, ?_⟩
    · obtain ⟨rest, split, _⟩ := carries.rest
      rw [split, List.map_append]
      exact List.prefix_append _ _
    · intro reason stopped
      obtain ⟨closed, all⟩ := carries.delivered_of_stopped stopped
      exact .inl ⟨closed, by rw [all]⟩
    · intro idle
      rw [carries.delivered_of_idle idle]
    · intro running busy
      exact carries.exists_step measured running busy

end Packets

/-! ### Lost packets -/

/-- A capture file of raw IP packets. -/
def rawFile : PcapdIface where
  dlink := 12
  ipoffset := 0
  ifid := 0
  supported := rfl

/-- A packet of some length. -/
def zeroPkt (length : Nat) (uid : Int32) : CapturedPkt 16 where
  ts _ := 0
  data := List.replicate length 0
  uid := uid
  isTx := false
  pktDrops := 0
  pad := (0, 0)

theorem small_packets_arrive :
    (∀ pkt ∈ [zeroPkt 40 (-1), zeroPkt 60 (-1)],
        rawFile.ipoffset ≤ pkt.data.length ∧ Passes none pkt.uid) ∧
      ∀ events link, Path Link.step (fun _ _ => True)
          (startLink ⟨none, true⟩ rawFile [zeroPkt 40 (-1), zeroPkt 60 (-1)]) events link →
        Lossless ([zeroPkt 40 (-1), zeroPkt 60 (-1)].map (·.seen rawFile)) link := by
  have passing : ∀ pkt ∈ [zeroPkt 40 (-1), zeroPkt 60 (-1)],
      rawFile.ipoffset ≤ pkt.data.length ∧ Passes none pkt.uid :=
    fun _ _ => ⟨Nat.zero_le _, .inl rfl⟩
  refine ⟨passing, (packets_arrive_unchanged rfl passing).mpr ?_⟩
  refine List.forall_mem_cons.mpr ⟨⟨by decide, .inl rfl⟩, ?_⟩
  exact List.forall_mem_singleton.mpr ⟨by decide, .inl rfl⟩

/-- A packet of 65536 bytes arrives without any of them. -/
theorem long_packet_is_lost {pkt : CapturedPkt 16} (length : pkt.data.length = 65536) :
    ∃ events link, Path Link.step (fun _ _ => True)
        (startLink ⟨none, true⟩ rawFile [pkt]) events link ∧
      link.delivered.map (·.2) = [[]] ∧ ¬ Lossless ([pkt].map (·.seen rawFile)) link := by
  obtain ⟨frame, read, seen⟩ := @readPkt_sends _ ⟨none, true⟩ rawFile pkt rfl (Nat.zero_le _)
    (.inl rfl)
  have frames : (sentFrames ⟨none, true⟩ rawFile [pkt]).1 = [frame] := by
    simp only [sentFrames, read]
  have empty : frame.2 = [] := by
    have data : frame.2 = pkt.data.take _ := congrArg SeenPkt.data seen
    rw [data, length]
    rfl
  have measured : Link.Measured (sentFrames ⟨none, true⟩ rawFile [pkt]).1 :=
    sentFrames_measured [pkt]
  obtain ⟨events, path⟩ :=
    Link.exists_delivery measured (sentFrames ⟨none, true⟩ rawFile [pkt]).2 []
  have delivered : [] ++ (sentFrames ⟨none, true⟩ rawFile [pkt]).1 = [frame] := by
    rw [frames, List.nil_append]
  rw [delivered] at path
  refine ⟨events, _, path, ?_, fun lossless => ?_⟩
  · show [frame.2] = [[]]
    rw [empty]
  · have arrived := lossless.arrived ⟨rfl, rfl, rfl⟩
    have data : frame.2 = pkt.data := congrArg SeenPkt.data (List.cons.inj arrived).1
    grind

/-- A packet that is too long loses its bytes, and a packet of the second UID of the filter
never arrives. -/
theorem packets_are_lost :
    (∃ events link, Path Link.step (fun _ _ => True)
        (startLink ⟨none, true⟩ rawFile [zeroPkt 65536 (-1)]) events link ∧
      link.delivered.map (·.2) = [[]] ∧
      ¬ Lossless ([zeroPkt 65536 (-1)].map (·.seen rawFile)) link) ∧
    ¬ Lossless ([zeroPkt 40 2].map (·.seen rawFile))
      (startLink ⟨some [1, 2], true⟩ rawFile [zeroPkt 40 2]) := by
  refine ⟨long_packet_is_lost List.length_replicate, fun lossless => ?_⟩
  have arrived := lossless.arrived ⟨rfl, rfl, rfl⟩
  cases arrived

end PcapdroidFormal.Pcapd
