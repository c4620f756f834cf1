import PcapdroidFormal.Core.Packets
import PcapdroidFormal.Foundation.ByteCursor

/-!
# DNS replies

`process_dns_reply` walks over the payload of a received DNS packet, skips the questions and
takes the addresses from the answers.  The payload is an allocation, so that what the walk
reads behind its end can be told.
-/

namespace PcapdroidFormal.Dns

open PcapdroidFormal.Core (Host ZdtunIp Pcapdroid Platform ZdtunPkt sizeofDnsPacket)
open Foundation

/-- `ntohs` of a field of the payload. -/
def ntohsAt (l7 : Memory) (offset : Nat) : Nat := Bytes.ofBigEndian (l7.slice offset 2)

/-- A payload with these bytes, and zeros behind it. -/
def payloadOf (bytes : Bytes) : Memory := ⟨bytes.length, fun offset => bytes.getD offset 0⟩

/-- The payload, with all of it ahead. -/
def payloadStart (l7 : Memory) : Cursor := ⟨0, l7.size, []⟩

/-- The conditions on the header; the later fields are only read if the earlier ones pass. -/
def checkHeader (l7 : Memory) : Cursor × Bool :=
  let flags := (payloadStart l7).look 2 2
  if ntohsAt l7 2 &&& 0x8000 = 0x8000 then
    let questions := flags.look 4 2
    if ntohsAt l7 4 ≠ 0 then (questions.look 6 2, decide (ntohsAt l7 6 ≠ 0))
    else (questions, false)
  else (flags, false)

/-! ## Questions -/

/-- A name of a question ends at its first zero byte; the type and the class are behind it. -/
def skipQuery (l7 : Memory) (cursor : Cursor) : Cursor :=
  (cursor.skipUntil l7 (· == 0) cursor.left.toNat).advance 5

/-- The loop that skips the questions. -/
def skipQueries (l7 : Memory) : Nat → Cursor → Cursor
  | 0, cursor => cursor
  | count + 1, cursor =>
    if 0 < cursor.left then skipQueries l7 count (skipQuery l7 cursor) else cursor

/-! ## Answers -/

/-- The bytes at which the loop over the name of an answer breaks. -/
def endsName (byte : UInt8) : Bool := byte == 0 || byte == 0xc0

/-- The loop over the name of an answer: it breaks behind a zero byte, or behind a byte `0xc0`
and the one that follows it. -/
def skipName (l7 : Memory) (cursor : Cursor) : Cursor :=
  let cursor := cursor.skipUntil l7 endsName cursor.left.toNat
  if 0 < cursor.left then
    if l7.byte cursor.position = 0 then cursor.advance 1 else cursor.advance 2
  else cursor

def hasAddress (recType addrLen : Nat) : Bool :=
  (recType == 0x1 && addrLen == 4) || (recType == 0x1c && addrLen == 16)

/-- `rsp_addr`: the address is stored from the first byte of the union on. -/
def rspAddr (bytes : Bytes) : ZdtunIp := BitVec.ofNat 128 (Bytes.ofLittleEndian bytes)

/-- The type and the length of a record, behind its name. -/
def readRecord (cursor : Cursor) : Cursor := ((cursor.look 0 2).look 8 2).advance 10

def readAddress (l7 : Memory) (recType addrLen : Nat) (cursor : Cursor) :
    Option ZdtunIp × Cursor :=
  if hasAddress recType addrLen then
    (some (rspAddr (l7.slice cursor.position addrLen)), cursor.look 0 addrLen)
  else (none, cursor)

/-- The loop over the answers, with the addresses it finds. -/
def readReplies (l7 : Memory) : Nat → Cursor → List ZdtunIp × Cursor
  | 0, cursor => ([], cursor)
  | count + 1, cursor =>
    if 0 < cursor.left then
      let named := skipName l7 cursor
      if named.left < 10 then ([], named)
      else
        let recType := ntohsAt l7 named.position
        let addrLen := ntohsAt l7 (named.position + 8)
        let (address, found) := readAddress l7 recType addrLen (readRecord named)
        let (addresses, last) := readReplies l7 count (found.advance addrLen)
        (address.toList ++ addresses, last)
    else ([], cursor)

/-- The bound on the answers that are read. -/
def maxReplies : Nat := 32

/-- The part of `process_dns_reply` behind its checks. -/
def parseReplies (l7 : Memory) (header : Cursor) : List ZdtunIp × Cursor :=
  readReplies l7 (min (ntohsAt l7 6) maxReplies)
    (skipQueries l7 (ntohsAt l7 4) (header.advance sizeofDnsPacket))

/-- The calls of `ip_lru_add` and the offsets that are read. -/
structure ReplyRun where
  calls : List (ZdtunIp × Host)
  reads : List Nat
  deriving DecidableEq, Repr

def processDnsReply (query : Host) (l7 : Memory) : ReplyRun :=
  if !query.contains '.' || decide (l7.size < sizeofDnsPacket) then ⟨[], []⟩
  else
    let (header, accepted) := checkHeader l7
    if accepted then
      let (addresses, last) := parseReplies l7 header
      ⟨addresses.map fun address => (address, query), last.reads⟩
    else ⟨[], header.reads⟩

/-- The addresses that a packet teaches, whatever the query is. -/
def dnsAnswers (l7 : Memory) : List ZdtunIp :=
  if (checkHeader l7).2 then (parseReplies l7 (checkHeader l7).1).1 else []

/-- The calls put the answers into the cache of the capture. -/
theorem processDnsReply_cache (platform : Platform) (pd : Pcapdroid) (query : Host)
    (pkt : ZdtunPkt) {l7 : Memory} (size : l7.size = pkt.l7.length)
    (answers : platform.dnsAnswers pkt = dnsAnswers l7) :
    Core.processDnsReply platform pd query pkt =
      pd.setIpToHost ((processDnsReply query l7).calls.foldl
        (fun lru call => lru.add call.1 call.2) pd.ipToHost) := by
  unfold Core.processDnsReply processDnsReply
  rw [answers, ← size, dnsAnswers]
  by_cases checked : query.contains '.' && decide (sizeofDnsPacket ≤ l7.size)
  · have passed : (!query.contains '.' || decide (l7.size < sizeofDnsPacket)) = false := by
      simpa using checked
    rw [if_pos checked, passed, if_neg Bool.false_ne_true]
    cases accepted : (checkHeader l7).2 with
    | true => simp only [accepted, if_true, List.foldl_map]
    | false => simp [accepted]
  · have failed : (!query.contains '.' || decide (l7.size < sizeofDnsPacket)) = true := by
      grind
    rw [if_neg checked, if_pos failed]
    rfl

end PcapdroidFormal.Dns
