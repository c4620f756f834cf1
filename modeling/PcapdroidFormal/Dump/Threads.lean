import PcapdroidFormal.Foundation.Outbox
import PcapdroidFormal.Dump.RoundTrip

/-!
# Two threads on one dumper

The capture thread dumps packets while the receiver thread of the mitm addon
stores master secrets.  They share the keylog buffer: it is written under
`keylog_mutex`, but both threads test `keylog_idx` before they take the lock.
The functions of the dumper are cut at these points, and a scheduler chooses
which thread performs its next step.
-/

namespace PcapdroidFormal.Dump

open Foundation

/-! ## The threads -/

/-- A call of `pcap_dump_packet`, with the secrets for which `pcap_dump_secret` had
returned true when it started. -/
abbrev PacketCall := Stamped Bytes Packet

/-- Where `export_buffer` returns to: `pcap_dump_packet` goes on with `tot_rec_size`, or the
call of the capture thread ends. -/
inductive AfterExport where
  | storeRecord (call : PacketCall) (totRecSize : Nat)
  | done
  deriving DecidableEq

/-- The next step of the capture thread; `now` is `pd->now_ms`. -/
inductive CapturePoint where
  | outside
  /-- The test of `keylog_idx` in `pcap_check_export`. -/
  | checkKeylog (now : UInt64)
  /-- The test of `keylog_idx` in `export_keylog_buffer`. -/
  | readKeylog (now : UInt64) (next : AfterExport)
  | lockKeylog (now : UInt64) (next : AfterExport)
  | flushPackets (now : UInt64) (next : AfterExport)
  deriving DecidableEq

/-- The next step of the receiver thread. -/
inductive ReceiverPoint where
  | outside
  | lockKeylog (secData : Bytes)
  deriving DecidableEq

/-- Both threads; `calls` are the calls of `pcap_dump_packet` that stored their packet. -/
structure Threads where
  dumper : Dumper
  capture : CapturePoint
  receiver : ReceiverPoint
  calls : List PacketCall

namespace Threads

variable (appname : Int → Bytes) (threads : Threads)

/-- Start of `pcap_check_export`. -/
def enterCheckExport (now : UInt64) : Threads :=
  { threads with
    capture := if threads.dumper.ExportDue now then .readKeylog now .done else .checkKeylog now }

/-- `pcap_dump_packet` up to its `pcap_check_export`, or to the end if it returns false. -/
def storeRecord (now : UInt64) (call : PacketCall) (totRecSize : Nat) : Option Threads := do
  let (dumper, stored) ← threads.dumper.storeRecord appname call.item totRecSize
  if stored then
    some ({ threads with dumper := dumper, calls := threads.calls ++ [call] }.enterCheckExport now)
  else some { threads with dumper := dumper, capture := .outside }

/-- Start of `pcap_dump_packet`. -/
def enterDumpPacket (now : UInt64) (packet : Packet) : Option Threads :=
  let call : PacketCall := ⟨packet, acceptedSecrets threads.dumper.events⟩
  let totRecSize := threads.dumper.pcapRecSize packet.data.length
  if pcapBufferSize - threads.dumper.bufferIdx ≤ totRecSize then
    some { threads with capture := .readKeylog now (.storeRecord call totRecSize) }
  else threads.storeRecord appname now call totRecSize

def captureStep : Option Threads :=
  match threads.capture with
  | .outside => some threads
  | .checkKeylog now =>
    some { threads with
      capture := if pcapBufferAlmostFullSize < threads.dumper.keylogIdx then
        .readKeylog now .done else .outside }
  | .readKeylog now next =>
    some { threads with
      capture := if threads.dumper.keylogIdx = 0 then .flushPackets now next
        else .lockKeylog now next }
  | .lockKeylog now next =>
    threads.dumper.exportKeylogSection.map fun dumper =>
      { threads with dumper := dumper, capture := .flushPackets now next }
  | .flushPackets now next =>
    let flushed := { threads with dumper := threads.dumper.exportPackets now }
    match next with
    | .storeRecord call totRecSize => flushed.storeRecord appname now call totRecSize
    | .done => some { flushed with capture := .outside }

/-- Start of `pcap_dump_secret`. -/
def enterDumpSecret (secData : Bytes) (malloc : Option (Nat → UInt8)) : Threads :=
  match threads.dumper.prepareSecret secData malloc with
  | (dumper, true) => { threads with dumper := dumper, receiver := .lockKeylog secData }
  | (dumper, false) => { threads with dumper := dumper.emit (.secret secData false) }

/-- The next step of the receiver thread.  The call returns once the lock is released. -/
def receiverStep : Option Threads :=
  match threads.receiver with
  | .outside => some threads
  | .lockKeylog secData =>
    (threads.dumper.storeSecret secData).map fun dumper =>
      { threads with dumper := dumper.emit (.secret secData true), receiver := .outside }

end Threads

/-- A choice of the scheduler.  A call can only start when its thread is not in another one. -/
inductive Move where
  | dumpPacket (now : UInt64) (packet : Packet)
  | checkExport (now : UInt64)
  | capture
  | dumpSecret (secData : Bytes) (malloc : Option (Nat → UInt8))
  | receiver

def Threads.step (appname : Int → Bytes) (threads : Threads) : Move → Option Threads
  | .dumpPacket now packet =>
    if threads.capture = .outside then threads.enterDumpPacket appname now packet
    else some threads
  | .checkExport now =>
    if threads.capture = .outside then some (threads.enterCheckExport now) else some threads
  | .capture => threads.captureStep appname
  | .dumpSecret secData malloc =>
    if threads.receiver = .outside then some (threads.enterDumpSecret secData malloc)
    else some threads
  | .receiver => threads.receiverStep

/-- An interleaving of the two threads. -/
def runThreads (appname : Int → Bytes) (threads : Threads) (moves : List Move) : Option Threads :=
  moves.foldlM (Threads.step appname) threads

/-- Both threads are outside the functions of a new dumper. -/
def startThreads (dumper : Dumper) : Threads := ⟨dumper, .outside, .outside, []⟩

end PcapdroidFormal.Dump
