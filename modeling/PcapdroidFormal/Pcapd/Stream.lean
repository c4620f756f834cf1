import PcapdroidFormal.Foundation.ByteMemory
import PcapdroidFormal.Foundation.Runs

/-!
# The stream of packets from pcapd

pcapd sends each packet behind a header over a stream socket, and `run_libpcap` reads them
back in another process.  `xwrite` and `xread` repeat `write` and `read` until all the bytes
are moved; the kernel may move fewer bytes than asked for, or interrupt a call.
-/

namespace PcapdroidFormal.Pcapd

open Foundation

variable {result : IoResult}

/-- `PCAPD_SNAPLEN`, the size of the buffer of `run_libpcap`. -/
def pcapdSnaplen : Nat := 65535

/-! ## The header -/

/-- `pcapd_hdr_t`; the timestamp is a `struct timeval`, which is copied as it is. -/
structure WireHdr (sizeofTimeval : Nat) where
  ts : Fin sizeofTimeval → UInt8
  pktDrops : UInt32
  uid : UInt32
  len : UInt16
  linktype : UInt16
  flags : UInt8
  ifid : UInt8
  pad : UInt8 × UInt8

namespace WireHdr

variable {sizeofTimeval : Nat}

/-- `sizeof(pcapd_hdr_t)`. -/
def size (sizeofTimeval : Nat) : Nat := sizeofTimeval + 16

/-- The bytes of a header in memory. -/
def encode (hdr : WireHdr sizeofTimeval) : Bytes :=
  List.ofFn hdr.ts ++ (Bytes.littleEndian 4 hdr.pktDrops.toNat ++
    (Bytes.littleEndian 4 hdr.uid.toNat ++ (Bytes.littleEndian 2 hdr.len.toNat ++
      (Bytes.littleEndian 2 hdr.linktype.toNat ++ [hdr.flags, hdr.ifid, hdr.pad.1, hdr.pad.2]))))

/-- The header that these bytes of memory make. -/
def decode (bytes : Bytes) : WireHdr sizeofTimeval :=
  let (ts, bytes) := bytes.splitAt sizeofTimeval
  let (pktDrops, bytes) := bytes.splitAt 4
  let (uid, bytes) := bytes.splitAt 4
  let (len, bytes) := bytes.splitAt 2
  let (linktype, bytes) := bytes.splitAt 2
  { ts := fun index => ts.getD index 0
    pktDrops := UInt32.ofNat (Bytes.ofLittleEndian pktDrops)
    uid := UInt32.ofNat (Bytes.ofLittleEndian uid)
    len := UInt16.ofNat (Bytes.ofLittleEndian len)
    linktype := UInt16.ofNat (Bytes.ofLittleEndian linktype)
    flags := bytes.getD 0 0
    ifid := bytes.getD 1 0
    pad := (bytes.getD 2 0, bytes.getD 3 0) }

theorem encode_length (hdr : WireHdr sizeofTimeval) : hdr.encode.length = size sizeofTimeval := by
  simp [encode, size]

theorem splitAt_append {front : Bytes} (rest : Bytes) {width : Nat}
    (length : front.length = width) : (front ++ rest).splitAt width = (front, rest) := by
  grind

/-- The header is copied from one process to the other without loss. -/
theorem decode_encode (hdr : WireHdr sizeofTimeval) : decode hdr.encode = hdr := by
  obtain ⟨ts, pktDrops, uid, len, linktype, flags, ifid, pad⟩ := hdr
  have word (value : UInt32) :
      UInt32.ofNat (Bytes.ofLittleEndian (Bytes.littleEndian 4 value.toNat)) = value := by
    rw [Bytes.ofLittleEndian_of_lt value.toNat_lt, UInt32.ofNat_toNat]
  have short (value : UInt16) :
      UInt16.ofNat (Bytes.ofLittleEndian (Bytes.littleEndian 2 value.toNat)) = value := by
    rw [Bytes.ofLittleEndian_of_lt value.toNat_lt, UInt16.ofNat_toNat]
  have time : (fun index : Fin sizeofTimeval => (List.ofFn ts).getD index 0) = ts := by
    funext index
    simp
  simp only [decode, encode, splitAt_append _ List.length_ofFn,
    splitAt_append _ (Bytes.littleEndian_length _ _), word, short, time]
  rfl

end WireHdr

/-! ## `xwrite` and `xread` -/

/-- The result of `write` or `read`: an error, an interrupted call, or the number of bytes that
were moved. -/
inductive IoResult where
  | error
  | eintr
  | moved (count : Nat)
  deriving DecidableEq, Repr

/-- The number of bytes that were moved. -/
def IoResult.count : IoResult → Nat
  | moved count => count
  | _ => 0

/-- How the loops go on after a call: again, or the function returns. -/
inductive LoopNext where
  | again
  | finished
  | closed
  | failed
  deriving DecidableEq, Repr

/-- The loop of `xwrite` after a call of `write`, with `sofar` from before the call. -/
def xwriteNext (count sofar : Nat) : IoResult → LoopNext
  | .error => .failed
  | .eintr => if sofar ≠ count then .again else .finished
  | .moved ret =>
    if sofar + ret ≠ count ∧ ret ≠ 0 then .again
    else if sofar + ret ≠ count then .failed
    else .finished

/-- The loop of `xread` after a call of `read`; `closed` stands for the result 0. -/
def xreadNext (count sofar : Nat) : IoResult → LoopNext
  | .error => .failed
  | .eintr => if sofar ≠ count then .again else .finished
  | .moved rv =>
    if sofar + rv ≠ count ∧ rv ≠ 0 then .again
    else if sofar + rv ≠ count then (if rv = 0 then .closed else .failed)
    else .finished

/-! ## The two processes -/

/-- Why `run_libpcap` stops. -/
inductive StopReason where
  | tooBig
  | readFailed
  | closed
  deriving DecidableEq, Repr

/-- What `run_libpcap` reads next. -/
inductive LoopState (sizeofTimeval : Nat) where
  | header
  | packet (hdr : WireHdr sizeofTimeval)
  | stopped (reason : StopReason)

/-- The `count` of the current `xread`. -/
def LoopState.request {sizeofTimeval : Nat} : LoopState sizeofTimeval → Option Nat
  | header => some (WireHdr.size sizeofTimeval)
  | packet hdr => some hdr.len.toNat
  | stopped _ => none

/-- A packet with its header. -/
abbrev Frame (sizeofTimeval : Nat) := WireHdr sizeofTimeval × Bytes

/-- The two processes and the socket between them.  `calls` are the buffers that pcapd has still
to write, the first one from `sofar` on, and `input` is what the current `xread` has got.
`hangs` tells that pcapd neither writes nor exits after these calls. -/
structure Link (sizeofTimeval : Nat) where
  calls : List Bytes
  sofar : Nat
  hangs : Bool
  pipe : Bytes
  loop : LoopState sizeofTimeval
  input : Bytes
  delivered : List (Frame sizeofTimeval)

inductive LinkEvent where
  | write (result : IoResult)
  | read (result : IoResult)
  deriving DecidableEq, Repr

namespace Link

variable {sizeofTimeval : Nat} (link : Link sizeofTimeval) {after : Link sizeofTimeval}
  {rest : List (Frame sizeofTimeval)} {count : Nat} {input : Bytes}

/-- The kernel moves at least one of the offered bytes, unless the call is interrupted. -/
def writeAllowed (left : Nat) : IoResult → Bool
  | .error => false
  | .eintr => true
  | .moved count => decide (count ≤ left) && (count != 0 || left == 0)

/-- The kernel moves at least one byte, unless the call is interrupted, none is asked for or the
other side is closed. -/
def readAllowed (left : Nat) : IoResult → Bool
  | .error => false
  | .eintr => true
  | .moved count =>
    decide (count ≤ left) && decide (count ≤ link.pipe.length) &&
      (count != 0 || left == 0 || (link.pipe.isEmpty && link.calls.isEmpty && !link.hangs))

/-- A call of `write` by pcapd, which stops if `xwrite` fails. -/
def write (result : IoResult) : Option (Link sizeofTimeval) :=
  match link.calls with
  | [] => none
  | buf :: rest =>
    if writeAllowed (buf.length - link.sofar) result then
      let pipe := link.pipe ++ (buf.drop link.sofar).take result.count
      match xwriteNext buf.length link.sofar result with
      | .again => some { link with pipe := pipe, sofar := link.sofar + result.count }
      | .finished => some { link with pipe := pipe, calls := rest, sofar := 0 }
      | .closed | .failed => some { link with pipe := pipe, calls := [], sofar := 0 }
    else none

/-- `run_libpcap` has read a whole header or packet. -/
def receive (input : Bytes) : Link sizeofTimeval :=
  match link.loop with
  | .header =>
    let hdr := WireHdr.decode input
    if pcapdSnaplen < hdr.len.toNat then { link with loop := .stopped .tooBig, input := [] }
    else { link with loop := .packet hdr, input := [] }
  | .packet hdr =>
    { link with loop := .header, input := [], delivered := link.delivered ++ [(hdr, input)] }
  | .stopped _ => link

/-- `xread` has failed; the end of the stream before a header is no error. -/
def stop (next : LoopNext) : Link sizeofTimeval :=
  match link.loop, next with
  | .header, .closed => { link with loop := .stopped .closed }
  | _, _ => { link with loop := .stopped .readFailed }

/-- A call of `read` by `run_libpcap`. -/
def read (result : IoResult) : Option (Link sizeofTimeval) :=
  match link.loop.request with
  | none => none
  | some count =>
    if link.readAllowed (count - link.input.length) result then
      let input := link.input ++ link.pipe.take result.count
      let link' := { link with pipe := link.pipe.drop result.count }
      match xreadNext count link.input.length result with
      | .again => some { link' with input := input }
      | .finished => some (link'.receive input)
      | .closed => some (link'.stop .closed)
      | .failed => some (link'.stop .failed)
    else none

def step (event : LinkEvent) : Option (Link sizeofTimeval) :=
  match event with
  | .write result => link.write result
  | .read result => link.read result

/-- The start of the capture: pcapd is connected and makes these calls of `xwrite`. -/
def start (calls : List Bytes) (hangs : Bool) : Link sizeofTimeval where
  calls := calls
  sofar := 0
  hangs := hangs
  pipe := []
  loop := .header
  input := []
  delivered := []

/-- The bytes that pcapd has still to write. -/
def unwritten : Bytes := link.calls.flatten.drop link.sofar

/-- The bytes that `run_libpcap` has not used yet. -/
def remaining : Bytes := link.input ++ (link.pipe ++ link.unwritten)

/-! ## What the link carries -/

/-- The bytes of packets and their headers. -/
def encodeFrames (frames : List (Frame sizeofTimeval)) : Bytes :=
  frames.flatMap fun frame => frame.1.encode ++ frame.2

/-- The frames that `run_libpcap` waits for are those of the bytes to come. -/
def Awaits (frames : List (Frame sizeofTimeval)) (bytes : Bytes) :
    LoopState sizeofTimeval → Prop
  | .header => bytes = encodeFrames frames
  | .packet hdr => ∃ data more, frames = (hdr, data) :: more ∧ bytes = data ++ encodeFrames more
  | .stopped .closed => frames = []
  | .stopped _ => False

/-- The frames that are not delivered yet are on their way. -/
structure Carries (frames : List (Frame sizeofTimeval)) (link : Link sizeofTimeval) : Prop where
  begun : link.sofar ≤ (link.calls.headD []).length
  unfinished : ∀ count, link.loop.request = some count → link.input = [] ∨ link.input.length < count
  rest : ∃ rest, frames = link.delivered ++ rest ∧ Awaits rest link.remaining link.loop

/-- The header of each frame tells the length of its packet. -/
def Measured (frames : List (Frame sizeofTimeval)) : Prop :=
  ∀ frame ∈ frames, frame.1.len.toNat = frame.2.length

variable {link} {frames : List (Frame sizeofTimeval)}

def frameCalls (frames : List (Frame sizeofTimeval)) : List Bytes :=
  frames.flatMap fun frame => [frame.1.encode, frame.2]

theorem flatten_frameCalls (frames : List (Frame sizeofTimeval)) :
    (frameCalls frames).flatten = encodeFrames frames := by
  induction frames with
  | nil => rfl
  | cons frame frames ih =>
    rw [frameCalls, encodeFrames] at ih
    simp [frameCalls, encodeFrames, ih]

theorem start_carries (frames : List (Frame sizeofTimeval)) (hangs : Bool) :
    Carries frames (start (frameCalls frames) hangs) := by
  refine ⟨Nat.zero_le _, fun _ _ => .inl rfl, frames, rfl, ?_⟩
  exact flatten_frameCalls frames

/-- `xwrite` goes on or succeeds as long as the kernel accepts bytes. -/
theorem xwriteNext_allowed {sofar : Nat} (begun : sofar ≤ count)
    (allowed : writeAllowed (count - sofar) result = true) :
    sofar + result.count ≤ count ∧ (xwriteNext count sofar result = .again ∨
        xwriteNext count sofar result = .finished ∧ sofar + result.count = count) := by
  cases result with
  | error => cases allowed
  | eintr =>
    refine ⟨begun, ?_⟩
    simp only [xwriteNext, IoResult.count, Nat.add_zero]
    grind
  | moved ret =>
    simp only [writeAllowed, Bool.and_eq_true, decide_eq_true_eq, Bool.or_eq_true, bne_iff_ne,
      beq_iff_eq] at allowed
    refine ⟨by simp only [IoResult.count]; omega, ?_⟩
    simp only [xwriteNext, IoResult.count]
    grind

/-- A call of `write` moves bytes into the socket and nothing else. -/
theorem write_moves (begun : link.sofar ≤ (link.calls.headD []).length)
    (written : link.write result = some after) :
    after.loop = link.loop ∧ after.input = link.input ∧ after.delivered = link.delivered ∧
      after.remaining = link.remaining ∧ after.sofar ≤ (after.calls.headD []).length := by
  obtain ⟨calls, sofar, hangs, pipe, loop, input, delivered⟩ := link
  cases calls with
  | nil => cases written
  | cons buf rest =>
    simp only [write] at written
    split at written
    next allowed =>
      have inside : sofar ≤ buf.length := begun
      obtain ⟨bound, next⟩ := xwriteNext_allowed inside allowed
      have moved : (buf.drop sofar).take result.count ++
          (buf ++ rest.flatten).drop (sofar + result.count) =
            (buf ++ rest.flatten).drop sofar := by
        rw [List.drop_append_of_le_length bound, List.drop_append_of_le_length inside,
          ← List.append_assoc, ← List.drop_drop, List.take_append_drop]
      rcases next with again | ⟨finished, whole⟩
      · simp only [again] at written
        cases written
        refine ⟨rfl, rfl, rfl, ?_, bound⟩
        simp only [remaining, unwritten, List.flatten_cons, List.append_assoc, moved]
      · simp only [finished] at written
        cases written
        refine ⟨rfl, rfl, rfl, ?_, Nat.zero_le _⟩
        rw [whole, List.drop_left] at moved
        simp only [remaining, unwritten, List.flatten_cons, List.append_assoc, List.drop_zero,
          moved]
    next => cases written

theorem write_carries (carries : Carries frames link) (written : link.write result = some after) :
    Carries frames after := by
  obtain ⟨loop, input, delivered, remaining, begun⟩ := write_moves carries.begun written
  refine ⟨begun, ?_, ?_⟩
  · rw [loop, input]
    exact carries.unfinished
  · rw [loop, remaining, delivered]
    exact carries.rest

/-- `xread` goes on until it has all its bytes, or until the other side is closed. -/
theorem xreadNext_allowed (unfinished : link.input.length ≤ count)
    (allowed : link.readAllowed (count - link.input.length) result = true) :
    result.count ≤ link.pipe.length ∧ (xreadNext count link.input.length result = .again ∧
          link.input.length + result.count < count ∨
        xreadNext count link.input.length result = .finished ∧
          link.input.length + result.count = count ∨
        xreadNext count link.input.length result = .closed ∧
          link.input.length < count ∧ result.count = 0 ∧ link.pipe = [] ∧ link.calls = []) := by
  cases result with
  | error => cases allowed
  | eintr =>
    refine ⟨Nat.zero_le _, ?_⟩
    simp only [xreadNext, IoResult.count, Nat.add_zero]
    grind
  | moved rv =>
    simp only [readAllowed, Bool.and_eq_true, decide_eq_true_eq, Bool.or_eq_true, bne_iff_ne,
      beq_iff_eq, List.isEmpty_iff] at allowed
    obtain ⟨⟨bound, inside⟩, moving⟩ := allowed
    refine ⟨inside, ?_⟩
    simp only [xreadNext, IoResult.count]
    split
    next => exact .inl ⟨rfl, by omega⟩
    next => grind

theorem encodeFrames_cons (frame : Frame sizeofTimeval) (frames : List (Frame sizeofTimeval)) :
    encodeFrames (frame :: frames) = frame.1.encode ++ (frame.2 ++ encodeFrames frames) := by
  simp [encodeFrames]

/-- The next frame of a stream that begins with the bytes of a whole header. -/
theorem encodeFrames_header {more : Bytes} (length : input.length = WireHdr.size sizeofTimeval)
    (stream : input ++ more = encodeFrames frames) :
    ∃ frame rest, frames = frame :: rest ∧ input = frame.1.encode ∧
      more = frame.2 ++ encodeFrames rest := by
  cases frames with
  | nil =>
    have nothing : input = [] := (List.append_eq_nil_iff.mp stream).1
    rw [nothing, WireHdr.size] at length
    cases length
  | cons frame rest =>
    rw [encodeFrames_cons] at stream
    obtain ⟨header, data⟩ :=
      List.append_inj stream (length.trans frame.1.encode_length.symm)
    exact ⟨frame, rest, rfl, header, data⟩

/-- Bytes that are too few for a header are no frame. -/
theorem encodeFrames_short {bytes : Bytes} (short : bytes.length < WireHdr.size sizeofTimeval)
    (stream : bytes = encodeFrames frames) : frames = [] := by
  cases frames with
  | nil => rfl
  | cons frame rest =>
    have whole : frame.1.encode.length ≤ bytes.length := by
      rw [stream, encodeFrames_cons, List.length_append]
      exact Nat.le_add_right _ _
    rw [frame.1.encode_length] at whole
    grind

section

variable (measured : Measured frames)
include measured

/-- A whole header or packet is the next one that was sent. -/
theorem receive_carries (begun : link.sofar ≤ (link.calls.headD []).length)
    (request : link.loop.request = some count) (length : input.length = count)
    (split : frames = link.delivered ++ rest)
    (awaits : Awaits rest (input ++ (link.pipe ++ link.unwritten)) link.loop) :
    Carries frames (link.receive input) := by
  obtain ⟨calls, sofar, hangs, pipe, loop, old, delivered⟩ := link
  cases loop with
  | stopped reason => cases request
  | header =>
    obtain ⟨frame, more, rfl, rfl, stream⟩ :=
      encodeFrames_header (length.trans (Option.some.inj request).symm) awaits
    have small : ¬ pcapdSnaplen < frame.1.len.toNat := by
      have bound := frame.1.len.toNat_lt
      unfold pcapdSnaplen
      omega
    simp only [receive, WireHdr.decode_encode, if_neg small]
    exact ⟨begun, fun _ _ => .inl rfl, frame :: more, split, frame.2, more, rfl, stream⟩
  | packet hdr =>
    obtain ⟨data, more, rfl, stream⟩ := awaits
    have sized : hdr.len.toNat = data.length :=
      measured (hdr, data) (split ▸ List.mem_append_right _ List.mem_cons_self)
    obtain ⟨rfl, later⟩ := List.append_inj stream
      (length.trans ((Option.some.inj request).symm.trans sized))
    refine ⟨begun, fun _ _ => .inl rfl, more, ?_, later⟩
    rw [split]
    exact (List.append_cons delivered (hdr, input) more)

/-- At the end of the stream no frame is missing. -/
theorem closed_carries (request : link.loop.request = some count)
    (short : link.input.length < count) (ended : link.remaining = link.input)
    (begun : link.sofar ≤ (link.calls.headD []).length) (split : frames = link.delivered ++ rest)
    (awaits : Awaits rest link.remaining link.loop) : Carries frames (link.stop .closed) := by
  obtain ⟨calls, sofar, hangs, pipe, loop, input, delivered⟩ := link
  rw [ended] at awaits
  cases loop with
  | stopped reason => cases request
  | header =>
    have finished : rest = [] :=
      encodeFrames_short (Nat.lt_of_lt_of_eq short (Option.some.inj request).symm) awaits
    exact ⟨begun, nofun, rest, split, finished⟩
  | packet hdr =>
    obtain ⟨data, more, rfl, stream⟩ := awaits
    have sized : hdr.len.toNat = data.length :=
      measured (hdr, data) (split ▸ List.mem_append_right _ List.mem_cons_self)
    have length : input.length = data.length + (encodeFrames more).length :=
      (congrArg List.length stream).trans List.length_append
    have asked : hdr.len.toNat = count := Option.some.inj request
    grind

/-- Every call of `read` leaves the missing frames on their way. -/
theorem read_carries (carries : Carries frames link) (got : link.read result = some after) :
    Carries frames after := by
  obtain ⟨begun, unfinished, rest, split, awaits⟩ := carries
  unfold read at got
  cases request : link.loop.request with
  | none =>
    grind
  | some count =>
    have bound : link.input.length ≤ count := by
      grind
    simp only [request] at got
    split at got
    next allowed =>
      obtain ⟨inside, next⟩ := xreadNext_allowed bound allowed
      have moved : (link.input ++ link.pipe.take result.count) ++
          (link.pipe.drop result.count ++ link.unwritten) = link.remaining := by
        rw [List.append_assoc, ← List.append_assoc (link.pipe.take result.count),
          List.take_append_drop]
        rfl
      have length : (link.input ++ link.pipe.take result.count).length =
          link.input.length + result.count := by
        grind
      have forwarded : Awaits rest ((link.input ++ link.pipe.take result.count) ++
          (link.pipe.drop result.count ++ link.unwritten)) link.loop := by
        grind
      rcases next with ⟨again, short⟩ | ⟨finished, whole⟩ | ⟨closed, short, none, emptied, silent⟩
      · rw [again] at got
        cases got
        refine ⟨begun, fun other asked => .inr ?_, rest, split, forwarded⟩
        grind
      · rw [finished] at got
        cases got
        exact receive_carries measured begun request (length.trans whole) split forwarded
      · -- the stream is over, and too few bytes are left for another frame
        rw [closed] at got
        cases got
        have same : { link with pipe := link.pipe.drop result.count } = link := by
          rw [none, List.drop_zero]
        have ended : link.remaining = link.input := by
          simp [remaining, unwritten, emptied, silent]
        rw [same]
        exact closed_carries measured request short ended begun split awaits
    next => cases got

theorem step_carries {event : LinkEvent} (carries : Carries frames link)
    (taken : link.step event = some after) : Carries frames after := by
  cases event with
  | write result => exact write_carries carries taken
  | read result => exact read_carries measured carries taken

end

/-! ## Deliveries -/

/-- Nothing is on its way. -/
structure Idle (link : Link sizeofTimeval) : Prop where
  calls : link.calls = []
  pipe : link.pipe = []
  loop : link.loop = .header

theorem Carries.delivered_of_idle (carries : Carries frames link) (idle : link.Idle) :
    link.delivered = frames := by
  obtain ⟨_, unfinished, rest, split, awaits⟩ := carries
  have ended : link.remaining = link.input := by
    simp [remaining, unwritten, idle.calls, idle.pipe]
  rw [ended, idle.loop] at awaits
  have short : link.input.length < WireHdr.size sizeofTimeval := by
    have request : link.loop.request = some (WireHdr.size sizeofTimeval) := by rw [idle.loop]; rfl
    rcases unfinished _ request with none | some
    · rw [none]
      exact Nat.succ_pos _
    · exact some
  rw [split, encodeFrames_short short awaits, List.append_nil]

theorem Carries.delivered_of_stopped (carries : Carries frames link) {reason : StopReason}
    (stopped : link.loop = .stopped reason) : reason = .closed ∧ link.delivered = frames := by
  obtain ⟨_, _, rest, split, awaits⟩ := carries
  rw [stopped] at awaits
  cases reason with
  | closed => exact ⟨rfl, by rw [split, (awaits : rest = []), List.append_nil]⟩
  | tooBig => cases awaits
  | readFailed => cases awaits

theorem write_isSome {buf : Bytes} {rest : List Bytes} (calls : link.calls = buf :: rest)
    (allowed : writeAllowed (buf.length - link.sofar) result = true) :
    (link.write result).isSome = true := by
  simp only [write, calls, allowed, if_true]
  cases xwriteNext buf.length link.sofar result <;> rfl

theorem read_isSome (request : link.loop.request = some count)
    (allowed : link.readAllowed (count - link.input.length) result = true) :
    (link.read result).isSome = true := by
  simp only [read, request, allowed, if_true]
  cases xreadNext count link.input.length result <;> rfl

/-- As long as something is on its way, bytes can be moved. -/
theorem Carries.exists_step (carries : Carries frames link) (measured : Measured frames)
    (running : ∀ reason, link.loop ≠ .stopped reason) (busy : ¬ link.Idle) :
    ∃ count, (link.step (.write (.moved count))).isSome = true ∨
      (link.step (.read (.moved count))).isSome = true := by
  obtain ⟨begun, unfinished, rest, split, awaits⟩ := carries
  cases calls : link.calls with
  | cons buf later =>
    refine ⟨buf.length - link.sofar, .inl (write_isSome calls ?_)⟩
    simp [writeAllowed]
    omega
  | nil =>
    obtain ⟨count, request⟩ : ∃ count, link.loop.request = some count := by
      cases loop : link.loop with
      | header => exact ⟨_, rfl⟩
      | packet hdr => exact ⟨_, rfl⟩
      | stopped reason => exact absurd loop (running reason)
    refine ⟨min (count - link.input.length) link.pipe.length, .inr (read_isSome request ?_)⟩
    have available : link.pipe.length ≠ 0 ∨ count - link.input.length = 0 := by
      cases pipe : link.pipe with
      | cons byte bytes => grind
      | nil =>
        cases loop : link.loop with
        | stopped reason => exact absurd loop (running reason)
        | header => exact absurd ⟨calls, pipe, loop⟩ busy
        | packet hdr =>
          -- only an empty packet can be read from an empty socket
          rw [loop] at awaits request
          obtain ⟨data, more, rfl, stream⟩ := awaits
          have sized : hdr.len.toNat = data.length :=
            measured (hdr, data) (split ▸ List.mem_append_right _ List.mem_cons_self)
          have ended : link.remaining = link.input := by
            simp [remaining, unwritten, calls, pipe]
          have length : link.input.length = data.length + (encodeFrames more).length := by
            grind
          have asked : hdr.len.toNat = count := Option.some.inj request
          exact .inr (by omega)
    simp only [readAllowed, Bool.and_eq_true, decide_eq_true_eq, Bool.or_eq_true, bne_iff_ne,
      beq_iff_eq]
    grind

/-! ## A run without splits -/

/-- Frames that are still to be sent, with nothing on its way. -/
def sending (frames : List (Frame sizeofTimeval)) (hangs : Bool)
    (delivered : List (Frame sizeofTimeval)) : Link sizeofTimeval where
  calls := frameCalls frames
  sofar := 0
  hangs := hangs
  pipe := []
  loop := .header
  input := []
  delivered := delivered

theorem write_whole {buf : Bytes} {rest : List Bytes} (calls : link.calls = buf :: rest)
    (fresh : link.sofar = 0) :
    link.write (.moved buf.length) =
      some { link with pipe := link.pipe ++ buf, calls := rest, sofar := 0 } := by
  simp [write, calls, fresh, writeAllowed, xwriteNext, IoResult.count]

theorem read_whole {count : Nat} {front more : Bytes} (request : link.loop.request = some count)
    (fresh : link.input = []) (pipe : link.pipe = front ++ more) (length : front.length = count) :
    link.read (.moved count) = some ({ link with pipe := more }.receive front) := by
  subst length
  simp [read, request, fresh, pipe, readAllowed, xreadNext, IoResult.count]

/-- The kernel may move every buffer as a whole, one packet after the other. -/
theorem exists_delivery (measured : Measured frames) (hangs : Bool)
    (delivered : List (Frame sizeofTimeval)) :
    ∃ events, Path step (fun _ _ => True) (sending frames hangs delivered) events
      (sending [] hangs (delivered ++ frames)) := by
  induction frames generalizing delivered with
  | nil =>
    rw [List.append_nil]
    exact ⟨[], .done _⟩
  | cons frame frames ih =>
    obtain ⟨hdr, data⟩ := frame
    rw [Measured, List.forall_mem_cons] at measured
    have sized : hdr.len.toNat = data.length := measured.1
    have small : ¬ pcapdSnaplen < hdr.len.toNat := by
      have bound := hdr.len.toNat_lt
      unfold pcapdSnaplen
      omega
    have split : delivered ++ (hdr, data) :: frames = (delivered ++ [(hdr, data)]) ++ frames :=
      List.append_cons _ _ _
    obtain ⟨events, rest⟩ := ih measured.2 (delivered ++ [(hdr, data)])
    rw [split]
    let base := sending frames hangs delivered
    let announced := { base with calls := data :: frameCalls frames, pipe := hdr.encode }
    let written := { base with pipe := hdr.encode ++ data }
    let expecting := { base with pipe := data, loop := .packet hdr }
    have writeHeader : (sending ((hdr, data) :: frames) hangs delivered).step
        (.write (.moved hdr.encode.length)) = some announced :=
      @write_whole _ (sending ((hdr, data) :: frames) hangs delivered) hdr.encode
        (data :: frameCalls frames) rfl rfl
    have writePacket : announced.step (.write (.moved data.length)) = some written :=
      @write_whole _ announced data (frameCalls frames) rfl rfl
    have readHeader : written.step (.read (.moved (WireHdr.size sizeofTimeval))) =
        some expecting := by
      have read : written.read (.moved (WireHdr.size sizeofTimeval)) =
          some ({ base with pipe := data }.receive hdr.encode) :=
        @read_whole _ written _ hdr.encode data rfl rfl rfl hdr.encode_length
      simp only [receive, WireHdr.decode_encode, if_neg small] at read
      exact read
    have readPacket : expecting.step (.read (.moved data.length)) =
        some (sending frames hangs (delivered ++ [(hdr, data)])) :=
      @read_whole _ expecting _ data [] (congrArg some sized) rfl (List.append_nil data).symm rfl
    exact ⟨_, .step trivial writeHeader (.step trivial writePacket (.step trivial readHeader
      (.step trivial readPacket rest)))⟩

end Link

end PcapdroidFormal.Pcapd
