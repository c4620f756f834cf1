import PcapdroidFormal.Foundation.Runs
import PcapdroidFormal.Dump.Threads

/-!
# The end of the dumper

The capture thread destroys the dumper when the dump is over, and only then
clears `pd->pcap_dump.dumper`.  The thread of the mitm addon (`dumpMasterSecret`)
and the dump thread (`getPcapHeader`) test this pointer and then use the dumper,
without a lock.  Every test and every use is a step of its own here, and every
access notes whether what it touches still exists.
-/

namespace PcapdroidFormal.Jni

open Foundation Dump

/-- An access made by `pcap_dump_secret` or `pcap_get_preamble`, and whether what it touches
is still there; `null` is an access through a null pointer. -/
inductive Access where
  | dumper (live : Bool)
  | mutex (live : Bool)
  | keylogBuf (live : Bool)
  | null
  deriving DecidableEq, Repr

/-- The access comes after `pcap_destroy_dumper` has destroyed or freed its target. -/
def Access.afterDestroy : Access → Bool
  | .dumper live => !live
  | .mutex live => !live
  | .keylogBuf live => !live
  | .null => false

/-- The next step of `stop_pcap_dump`. -/
inductive StopPoint where
  | running
  /-- `export_buffer`, the first part of `pcap_destroy_dumper`. -/
  | exporting
  | destroyMutex
  | freeKeylogBuf
  | freeDumper
  | clearPointer
  | stopped
  deriving DecidableEq, Repr

def StopPoint.destroying : StopPoint → Bool
  | .freeKeylogBuf | .freeDumper | .clearPointer => true
  | _ => false

/-- The next step of a JNI call that uses the dumper. -/
inductive JniPoint (Argument : Type) where
  | outside
  | testPd (argument : Argument)
  | testDumper (argument : Argument)
  | loadDumper (argument : Argument)
  | enter (argument : Argument)
  | locked

/-- The call has found the pointer set, and it is not done yet. -/
def JniPoint.inUse {Argument : Type} : JniPoint Argument → Bool
  | .outside | .testPd _ | .testDumper _ => false
  | .loadDumper _ | .enter _ | .locked => true

def JniPoint.testing {Argument : Type} : JniPoint Argument → Bool
  | .testDumper _ => true
  | _ => false

/-- The secret to dump, and the outcome of the allocation of the keylog buffer. -/
abbrev SecretArgument := Bytes × Option (Nat → UInt8)

/-- The three threads.  `globalPd` and `pointer` tell whether `global_pd` and
`pd->pcap_dump.dumper` are set; the next three fields, what is not destroyed yet. -/
structure Session where
  threads : Threads
  globalPd : Bool
  pointer : Bool
  mutex : Bool
  keylogBuf : Bool
  dumper : Bool
  stop : StopPoint
  secret : JniPoint SecretArgument
  header : JniPoint Unit
  accesses : List Access

namespace Session

variable (appname : Int → Bytes) (session : Session)

def note (accesses : List Access) : Session :=
  { session with accesses := session.accesses ++ accesses }

/-- The next step of the capture thread. -/
def captureStep : Option Session :=
  match session.stop with
  | .running => (session.threads.captureStep appname).map fun threads =>
    { session with threads := threads }
  | .exporting => (session.threads.captureStep appname).map fun threads =>
    { session with
      threads := threads
      stop := if threads.capture = .outside then .destroyMutex else .exporting }
  | .destroyMutex => some { session with mutex := false, stop := .freeKeylogBuf }
  | .freeKeylogBuf => some { session with keylogBuf := false, stop := .freeDumper }
  | .freeDumper => some { session with dumper := false, stop := .clearPointer }
  | .clearPointer => some { session with pointer := false, stop := .stopped }
  | .stopped => some session

/-- The next step of `dumpMasterSecret`, which reads `global_pd` each time it needs it. -/
def secretStep : Option Session :=
  match session.secret with
  | .outside => some session
  | .testPd argument =>
    some { session with secret := if session.globalPd then .testDumper argument else .outside }
  | .testDumper argument =>
    if session.globalPd then
      some { session with secret := if session.pointer then .loadDumper argument else .outside }
    else some ({ session with secret := .outside }.note [.null])
  | .loadDumper argument =>
    if session.globalPd && session.pointer then some { session with secret := .enter argument }
    else some ({ session with secret := .outside }.note [.null])
  | .enter (secData, malloc) =>
    let threads := session.threads.enterDumpSecret secData malloc
    some ({ session with
      threads := threads
      secret := if threads.receiver = ReceiverPoint.outside then .outside else .locked }.note
        [.dumper session.dumper])
  | .locked => session.threads.receiverStep.map fun threads =>
    { session with threads := threads, secret := .outside }.note
      [.mutex session.mutex, .dumper session.dumper, .keylogBuf session.keylogBuf]

/-- The next step of `getPcapHeader`, which reads `global_pd` once. -/
def headerStep : Session :=
  match session.header with
  | .outside => session
  | .testPd argument =>
    { session with header := if session.globalPd then .testDumper argument else .outside }
  | .testDumper argument =>
    { session with header := if session.pointer then .loadDumper argument else .outside }
  | .loadDumper argument =>
    if session.pointer then { session with header := .enter argument }
    else { session with header := .outside }.note [.null]
  | .enter _ => { session with header := .outside }.note [.dumper session.dumper]
  | .locked => session

end Session

/-- A choice of the scheduler.  A call can only start when its thread is not in another one;
`stop_pcap_dump` is called after a refused packet or at the end of `pd_run`. -/
inductive SessionMove where
  | dumpPacket (now : UInt64) (packet : Packet)
  | checkExport (now : UInt64)
  | stopPcapDump (now : UInt64)
  | endRun
  | capture
  | dumpMasterSecret (secData : Bytes) (malloc : Option (Nat → UInt8))
  | receiver
  | getPcapHeader
  | dumpThread

namespace Session

/-- The capture thread can start a call on the dumper. -/
def idle (session : Session) : Bool :=
  session.stop == .running && decide (session.threads.capture = .outside)

def step (appname : Int → Bytes) (session : Session) : SessionMove → Option Session
  | .dumpPacket now packet =>
    if session.idle then
      (session.threads.enterDumpPacket appname now packet).map fun threads =>
        { session with threads := threads }
    else some session
  | .checkExport now =>
    if session.idle then some { session with threads := session.threads.enterCheckExport now }
    else some session
  | .stopPcapDump now =>
    if session.idle then
      some { session with
        threads := { session.threads with capture := .readKeylog now .done }
        stop := .exporting }
    else some session
  | .endRun => some (if session.stop = .stopped then { session with globalPd := false } else session)
  | .capture => session.captureStep appname
  | .dumpMasterSecret secData malloc =>
    match session.secret with
    | .outside => some { session with secret := .testPd (secData, malloc) }
    | _ => some session
  | .receiver => session.secretStep
  | .getPcapHeader =>
    match session.header with
    | .outside => some { session with header := .testPd () }
    | _ => some session
  | .dumpThread => some session.headerStep

end Session

def runSession (appname : Int → Bytes) (session : Session) (moves : List SessionMove) :
    Option Session :=
  moves.foldlM (Session.step appname) session

/-- `pd_run` has created the dumper. -/
def startSession (dumper : Dumper) : Session where
  threads := startThreads dumper
  globalPd := true
  pointer := true
  mutex := true
  keylogBuf := true
  dumper := true
  stop := .running
  secret := .outside
  header := .outside
  accesses := []

/-! ## When the dumper is not in use -/

/-- The destruction does not begin while a call uses the dumper, and no call tests the
pointer between the begin of the destruction and its end. -/
def Session.Quiet (session : Session) : SessionMove → Prop
  | .capture => session.stop = .destroyMutex →
      session.secret.inUse = false ∧ session.header.inUse = false
  | .receiver => session.secret.testing = true → session.stop.destroying = false
  | .dumpThread => session.header.testing = true → session.stop.destroying = false
  | _ => True

instance (session : Session) : (move : SessionMove) → Decidable (session.Quiet move)
  | .capture => inferInstanceAs (Decidable (_ = _ → _ ∧ _))
  | .receiver => inferInstanceAs (Decidable (_ = _ → _ = _))
  | .dumpThread => inferInstanceAs (Decidable (_ = _ → _ = _))
  | .dumpPacket _ _ | .checkExport _ | .stopPcapDump _ | .endRun | .dumpMasterSecret _ _
  | .getPcapHeader => inferInstanceAs (Decidable True)

/-- The destruction has not begun. -/
def Session.Intact (session : Session) : Prop :=
  (session.mutex = true ∧ session.keylogBuf = true ∧ session.dumper = true) ∧
    session.stop.destroying = false ∧ session.stop ≠ .stopped

/-- The destruction has begun, and no call uses the dumper. -/
def Session.Retired (session : Session) : Prop :=
  (session.secret.inUse = false ∧ session.header.inUse = false) ∧
    (session.stop.destroying = true ∨ session.stop = .stopped ∧ session.pointer = false)

/-- Nothing is destroyed before the destruction begins, and nobody uses the dumper
afterwards. -/
structure Session.Safe (session : Session) : Prop where
  accesses : ∀ access ∈ session.accesses, access.afterDestroy = false
  phase : session.Intact ∨ session.Retired

namespace Session.Safe

variable {session next : Session}

theorem start (dumper : Dumper) : (startSession dumper).Safe where
  accesses := List.forall_mem_nil _
  phase := .inl ⟨⟨rfl, rfl, rfl⟩, rfl, nofun⟩

section

variable (safe : session.Safe)
include safe

theorem note {accesses : List Access} (fresh : ∀ access ∈ accesses, access.afterDestroy = false) :
    (session.note accesses).Safe where
  accesses access member := (List.mem_append.mp member).elim (safe.accesses access) (fresh access)
  phase := safe.phase

/-- A call that uses the dumper finds it intact. -/
theorem intact (used : session.secret.inUse = true ∨ session.header.inUse = true) :
    session.Intact := by
  rcases safe.phase with intact | ⟨⟨secret, header⟩, _⟩
  · exact intact
  · grind

/-- Outside the destruction a pointer that is set points to an intact dumper. -/
theorem intact_of_pointer (quiet : session.stop.destroying = false) (set : session.pointer = true) :
    session.Intact := by
  rcases safe.phase with intact | ⟨_, begun | ⟨_, cleared⟩⟩
  · exact intact
  · grind
  · grind

theorem retired (begun : session.stop.destroying = true) : session.Retired := by
  rcases safe.phase with ⟨_, never, _⟩ | retired
  · grind
  · exact retired

/-- A call may begin to use the dumper while it is intact. -/
theorem setSecret {point : JniPoint SecretArgument}
    (allowed : point.inUse = true → session.Intact) : { session with secret := point }.Safe := by
  refine ⟨safe.accesses, ?_⟩
  rcases safe.phase with intact | ⟨⟨_, header⟩, after⟩
  · exact .inl intact
  · cases used : point.inUse with
    | true => exact .inl (allowed used)
    | false => exact .inr ⟨⟨used, header⟩, after⟩

theorem setHeader {point : JniPoint Unit} (allowed : point.inUse = true → session.Intact) :
    { session with header := point }.Safe := by
  refine ⟨safe.accesses, ?_⟩
  rcases safe.phase with intact | ⟨⟨secret, _⟩, after⟩
  · exact .inl intact
  · cases used : point.inUse with
    | true => exact .inl (allowed used)
    | false => exact .inr ⟨⟨secret, used⟩, after⟩

theorem setThreads (threads : Threads) :
    { session with threads := threads }.Safe := ⟨safe.accesses, safe.phase⟩

end

/-! ### The threads -/

theorem captureStep (appname : Int → Bytes) (safe : session.Safe)
    (quiet : session.Quiet .capture) (stepped : session.captureStep appname = some next) :
    next.Safe := by
  unfold Session.captureStep at stepped
  split at stepped
  next point =>
    obtain ⟨threads, _, rfl⟩ := Option.map_eq_some_iff.mp stepped
    exact safe.setThreads threads
  next point =>
    obtain ⟨threads, _, rfl⟩ := Option.map_eq_some_iff.mp stepped
    refine ⟨safe.accesses, ?_⟩
    obtain ⟨live, _⟩ | ⟨_, begun | ⟨ended, _⟩⟩ := safe.phase
    · refine .inl ⟨live, ?_⟩
      dsimp only
      split
      · exact ⟨rfl, nofun⟩
      · exact ⟨rfl, nofun⟩
    · rw [point] at begun
      cases begun
    · grind
  next point =>
    cases stepped
    exact ⟨safe.accesses, .inr ⟨quiet point, .inl rfl⟩⟩
  next point =>
    cases stepped
    exact ⟨safe.accesses, .inr ⟨(safe.retired (by rw [point]; rfl)).1, .inl rfl⟩⟩
  next point =>
    cases stepped
    exact ⟨safe.accesses, .inr ⟨(safe.retired (by rw [point]; rfl)).1, .inl rfl⟩⟩
  next point =>
    cases stepped
    exact ⟨safe.accesses, .inr ⟨(safe.retired (by rw [point]; rfl)).1, .inr ⟨rfl, rfl⟩⟩⟩
  next => grind

theorem secretStep (safe : session.Safe) (quiet : session.Quiet .receiver)
    (stepped : session.secretStep = some next) : next.Safe := by
  have leave : { session with secret := .outside }.Safe := safe.setSecret nofun
  unfold Session.secretStep at stepped
  split at stepped
  next =>
    cases stepped
    exact safe
  next argument point =>
    cases stepped
    refine safe.setSecret fun used => ?_
    split at used
    · cases used
    · cases used
  next argument point =>
    split at stepped
    · cases stepped
      refine safe.setSecret fun used => ?_
      split at used
      next set => exact safe.intact_of_pointer (quiet (by rw [point]; rfl)) set
      next => cases used
    · cases stepped
      exact leave.note (by decide)
  next argument point =>
    split at stepped
    · cases stepped
      exact safe.setSecret fun _ => safe.intact (.inl (by rw [point]; rfl))
    · cases stepped
      exact leave.note (by decide)
  next secData malloc point =>
    cases stepped
    have intact := safe.intact (.inl (by rw [point]; rfl))
    refine Session.Safe.note
      ((safe.setThreads (session.threads.enterDumpSecret secData malloc)).setSecret
        fun _ => intact) ?_
    rw [intact.1.2.2]
    decide
  next point =>
    obtain ⟨threads, _, rfl⟩ := Option.map_eq_some_iff.mp stepped
    obtain ⟨⟨mutex, keylogBuf, dumper⟩, _⟩ := safe.intact (.inl (by rw [point]; rfl))
    exact (leave.setThreads threads).note (by rw [mutex, keylogBuf, dumper]; decide)

theorem headerStep (safe : session.Safe) (quiet : session.Quiet .dumpThread) :
    session.headerStep.Safe := by
  have leave : { session with header := .outside }.Safe := safe.setHeader nofun
  unfold Session.headerStep
  split
  next => exact safe
  next argument point =>
    refine safe.setHeader fun used => ?_
    split at used
    · cases used
    · cases used
  next argument point =>
    refine safe.setHeader fun used => ?_
    split at used
    next set => exact safe.intact_of_pointer (quiet (by rw [point]; rfl)) set
    next => cases used
  next argument point =>
    split
    · exact safe.setHeader fun _ => safe.intact (.inr (by rw [point]; rfl))
    · exact leave.note (by decide)
  next point =>
    have intact := safe.intact (.inr (by rw [point]; rfl))
    exact leave.note (by rw [intact.1.2.2]; decide)
  next => exact safe

theorem step (appname : Int → Bytes) {move : SessionMove} (safe : session.Safe)
    (quiet : session.Quiet move) (stepped : session.step appname move = some next) :
    next.Safe := by
  cases move with
  | dumpPacket now packet =>
    simp only [Session.step] at stepped
    split at stepped
    · obtain ⟨threads, _, rfl⟩ := Option.map_eq_some_iff.mp stepped
      exact safe.setThreads threads
    · grind
  | checkExport now =>
    simp only [Session.step] at stepped
    split at stepped
    · cases stepped
      exact safe.setThreads _
    · grind
  | stopPcapDump now =>
    simp only [Session.step] at stepped
    split at stepped
    next idle =>
      cases stepped
      have running : session.stop = .running := by
        simp only [Session.idle, Bool.and_eq_true, beq_iff_eq] at idle
        exact idle.1
      obtain ⟨live, _⟩ | ⟨_, begun | ⟨ended, _⟩⟩ := safe.phase
      · exact ⟨safe.accesses, .inl ⟨live, rfl, nofun⟩⟩
      · rw [running] at begun
        cases begun
      · grind
    next => grind
  | endRun =>
    cases stepped
    split
    · exact ⟨safe.accesses, safe.phase⟩
    · exact safe
  | capture => exact safe.captureStep appname quiet stepped
  | dumpMasterSecret secData malloc =>
    simp only [Session.step] at stepped
    split at stepped
    · cases stepped
      exact safe.setSecret nofun
    · grind
  | receiver => exact safe.secretStep quiet stepped
  | getPcapHeader =>
    simp only [Session.step] at stepped
    split at stepped
    · cases stepped
      exact safe.setHeader nofun
    · grind
  | dumpThread =>
    cases stepped
    exact safe.headerStep quiet

end Session.Safe

/-- In every run that destroys the dumper only while it is not in use, no call touches it
afterwards. -/
theorem dumper_unused_after_destroy (appname : Int → Bytes) (dumper : Dumper)
    {moves : List SessionMove} {session : Session}
    (run : Path (Session.step appname) Session.Quiet (startSession dumper) moves session) :
    ∀ access ∈ session.accesses, access.afterDestroy = false :=
  (run.invariant (Session.Safe.step appname) (Session.Safe.start dumper)).accesses

/-- The dumper of a capture in PCAPNG format. -/
def pcapngDumper : Dumper := pcapNewDumper .pcapngDump 1500 0 fun _ => 0

/-- The dump ends after a secret was stored. -/
def orderlyMoves : List SessionMove :=
  [.dumpMasterSecret [1, 2] (some fun _ => 0), .receiver, .receiver, .receiver, .receiver,
    .receiver, .stopPcapDump 5, .capture, .capture, .capture, .capture, .capture, .capture,
    .capture]

/-- The dump ends while a secret is being handed over. -/
def racingMoves : List SessionMove :=
  [.dumpMasterSecret [1, 2] (some fun _ => 0), .receiver, .receiver, .receiver, .stopPcapDump 5,
    .capture, .capture, .capture, .capture, .capture, .receiver]

/-- A secret is stored, and then the dump ends. -/
theorem dumper_unused_after_orderly_end :
    ∃ session, Path (Session.step fun _ => []) Session.Quiet (startSession pcapngDumper)
        orderlyMoves session ∧
      session.stop = .stopped ∧ session.accesses.length = 4 ∧
      ∀ access ∈ session.accesses, access.afterDestroy = false := by
  have ran : (guardedRun (Session.step fun _ => []) Session.Quiet (startSession pcapngDumper)
      orderlyMoves).map (fun session => (session.stop, session.accesses.length)) =
        some (.stopped, 4) := by
    decide
  obtain ⟨session, path, ended⟩ := Option.map_eq_some_iff.mp ran
  obtain ⟨stopped, length⟩ := Prod.mk.inj ended
  have quiet := Path.of_guardedRun path
  exact ⟨session, quiet, stopped, length,
    dumper_unused_after_destroy (fun _ => []) pcapngDumper quiet⟩

/-- The pointer was tested in time, but the dumper is used too late. -/
theorem secret_hits_freed_dumper :
    ∃ session, runSession (fun _ => []) (startSession pcapngDumper) racingMoves = some session ∧
      ∃ access ∈ session.accesses, access.afterDestroy = true := by
  have ran : (runSession (fun _ => []) (startSession pcapngDumper) racingMoves).map
      (·.accesses) = some [.dumper false] := by
    decide
  obtain ⟨session, reached, accesses⟩ := Option.map_eq_some_iff.mp ran
  refine ⟨session, reached, .dumper false, ?_, rfl⟩
  rw [accesses]
  exact List.mem_singleton_self _

end PcapdroidFormal.Jni
