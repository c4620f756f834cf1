import Mathlib.Data.List.AList
import Mathlib.Logic.Function.Basic
import PcapdroidFormal.Foundation.LruCache
import PcapdroidFormal.Foundation.Runs
import PcapdroidFormal.Register.Descriptor

/-!
# The receiver of decrypted payload

`MitmReceiver` reads the messages of the mitm addon and hands each of them to the
connection with its local port.  A message may come before its connection: it is
then kept until the register tells that the connection was added.  The lookup of
the connection, the lookup in the register and the enqueueing are critical sections
of their own, between which the thread of the register may run.
-/

namespace PcapdroidFormal.Mitm

open Foundation Register

/-! ## Messages -/

inductive MsgType where
  | unknown
  | running
  | tlsError
  | httpError
  | httpRequest
  | httpReply
  | tcpClientMsg
  | tcpServerMsg
  | tcpError
  | websocketClientMsg
  | websocketServerMsg
  | dataTruncated
  | masterSecret
  | log
  | jsInjected
  deriving DecidableEq, Repr

namespace MsgType

def parseMsgType : String → MsgType
  | "running" => .running
  | "tls_err" => .tlsError
  | "http_err" => .httpError
  | "http_req" => .httpRequest
  | "http_rep" => .httpReply
  | "tcp_climsg" => .tcpClientMsg
  | "tcp_srvmsg" => .tcpServerMsg
  | "tcp_err" => .tcpError
  | "ws_climsg" => .websocketClientMsg
  | "ws_srvmsg" => .websocketServerMsg
  | "trunc" => .dataTruncated
  | "secret" => .masterSecret
  | "log" => .log
  | "js_inject" => .jsInjected
  | _ => .unknown

def isSent : MsgType → Bool
  | .httpRequest | .tcpClientMsg | .websocketClientMsg => true
  | _ => false

def getChunkType : MsgType → ChunkType
  | .httpRequest | .httpReply => .http
  | .websocketClientMsg | .websocketServerMsg => .websocket
  | _ => .raw

/-- Secrets, logs and the status of the proxy are not about a connection. -/
def isForConnection : MsgType → Bool
  | .masterSecret | .log | .running => false
  | _ => true

end MsgType

structure Message where
  type : MsgType
  msg : Bytes
  port : Int32
  tstamp : Int64
  deriving DecidableEq, Repr

structure PendingMessage where
  message : Message
  pendingSince : Int64
  deriving DecidableEq, Repr

/-- What the receiver uses of a `ConnectionDescriptor`; texts are kept as the bytes that they are
decoded from. -/
structure Connection where
  incrId : Int32
  localPort : Int32
  status : Int32
  decryptionError : Option Bytes
  payloadTruncated : Bool
  jsInjectedScripts : Option Bytes
  payloadChunks : List PayloadChunk
  payloadLength : Int64
  deriving DecidableEq, Repr

def handleMessage (conn : Connection) (message : Message) : Connection :=
  match message.type with
  | .tlsError | .httpError | .tcpError =>
    { conn with
      decryptionError := some message.msg
      status := if conn.status = connStatusClosed then connStatusClientError else conn.status }
  | .dataTruncated => { conn with payloadTruncated := true }
  | .jsInjected => { conn with jsInjectedScripts := some message.msg }
  | type =>
    { conn with
      payloadChunks := conn.payloadChunks ++
        [⟨message.msg, type.isSent, message.tstamp, type.getChunkType⟩]
      payloadLength := conn.payloadLength + Int64.ofNat message.msg.length }

/-! ## The state -/

/-- Where the receiver is with a message: before the lookup of its port, with the identifier that
was found, with the connection, or without one. -/
inductive ReceiverThread where
  | idle
  | looking (message : Message)
  | found (connId : Int32) (message : Message)
  | resolved (connId : Int32) (message : Message)
  | missed (message : Message)
  deriving DecidableEq, Repr

abbrev PendingMessages := AList fun _ : Int32 => List PendingMessage

/-- `objects` are all connections, `registered` those that the register still has.  The last
fields are the history: the messages that were read, the connections that were added and the calls
of `handleMessage`. -/
structure MitmReceiver where
  portToConnId : LruCache Int32 Int32
  pendingMessages : PendingMessages
  objects : Int32 → Option Connection
  registered : Int32 → Bool
  thread : ReceiverThread
  received : List Message
  added : List Connection
  handled : List (Int32 × Message)

namespace MitmReceiver

def start : MitmReceiver := ⟨.empty 64, ∅, fun _ => none, fun _ => false, .idle, [], [], []⟩

variable (receiver : MitmReceiver)

/-- `handleMessage` for a connection that is referred to. -/
def hand (connId : Int32) (message : Message) : MitmReceiver :=
  { receiver with
    objects := Function.update receiver.objects connId
      ((receiver.objects connId).map (handleMessage · message))
    handled := receiver.handled ++ [(connId, message)] }

/-! ## The thread of the receiver -/

/-- A message is read from the addon. -/
def receive (msgType : String) (port : Int32) (tstamp : Int64) (msg : Bytes) :
    Option MitmReceiver :=
  let message : Message := ⟨.parseMsgType msgType, msg, port, tstamp⟩
  match receiver.thread with
  | .idle =>
    if message.type.isForConnection then
      some { receiver with
        thread := .looking message
        received := receiver.received ++ [message] }
    else some receiver
  | _ => none

/-- The critical section of `getConnByLocalPort`. -/
def lookup : Option MitmReceiver :=
  match receiver.thread with
  | .looking message =>
    let (connId, portToConnId) := receiver.portToConnId.get message.port
    some { receiver with
      portToConnId := portToConnId
      thread := match connId with
        | none => .missed message
        | some connId => .found connId message }
  | _ => none

def getConnById (connId : Int32) : Option Connection :=
  if receiver.registered connId then receiver.objects connId else none

/-- The end of `getConnByLocalPort`. -/
def resolve : Option MitmReceiver :=
  match receiver.thread with
  | .found connId message =>
    some { receiver with
      thread := match receiver.getConnById connId with
        | none => .missed message
        | some conn =>
          if conn.localPort = message.port then .resolved conn.incrId message
          else .missed message }
  | _ => none

def deliver : Option MitmReceiver :=
  match receiver.thread with
  | .resolved connId message => some { receiver.hand connId message with thread := .idle }
  | _ => none

/-- A list of pending messages is older than five seconds. -/
def isOld (now : Int64) : List PendingMessage → Bool
  | [] => false
  | first :: _ => decide (5000 < now - first.pendingSince)

/-- Purge unresolved connections. -/
def purge (now : Int64) (pending : PendingMessages) : PendingMessages :=
  if 32 < pending.keys.length then
    pending.entries.foldl (fun pending entry =>
      if isOld now entry.2 then pending.erase entry.1 else pending) pending
  else pending

def addPendingMessage (now : Int64) (pending : PendingMessages) (message : PendingMessage) :
    PendingMessages :=
  let pending := purge now pending
  pending.insert message.message.port
    ((pending.lookup message.message.port).getD [] ++ [message])

/-- The message is kept; it was created at `since`. -/
def addPending (since now : Int64) : Option MitmReceiver :=
  match receiver.thread with
  | .missed message =>
    some { receiver with
      pendingMessages := addPendingMessage now receiver.pendingMessages ⟨message, since⟩
      thread := .idle }
  | _ => none

/-! ## The thread of the register -/

/-- The body of the loop of `connectionsAdded`, for a connection that the register has stored. -/
def addConnection (conn : Connection) : MitmReceiver :=
  let receiver := { receiver with
    objects := Function.update receiver.objects conn.incrId (some conn)
    registered := Function.update receiver.registered conn.incrId true
    portToConnId := receiver.portToConnId.put conn.localPort conn.incrId
    added := receiver.added ++ [conn] }
  match receiver.pendingMessages.lookup conn.localPort with
  | none => receiver
  | some pending =>
    pending.foldl (fun receiver pending => receiver.hand conn.incrId pending.message)
      { receiver with pendingMessages := receiver.pendingMessages.erase conn.localPort }

/-- `connectionsAdded`, which is one critical section; the register can not be asked before its
end. -/
def connectionsAdded (conns : List Connection) : MitmReceiver := conns.foldl addConnection receiver

/-- The register drops a connection. -/
def drop (connId : Int32) : MitmReceiver :=
  { receiver with registered := Function.update receiver.registered connId false }

end MitmReceiver

inductive ReceiverStep where
  | receive (msgType : String) (port : Int32) (tstamp : Int64) (msg : Bytes)
  | lookup
  | resolve
  | deliver
  | addPending (since now : Int64)
  | connectionsAdded (conns : List Connection)
  | drop (connId : Int32)

def MitmReceiver.step (receiver : MitmReceiver) : ReceiverStep → Option MitmReceiver
  | .receive msgType port tstamp msg => receiver.receive msgType port tstamp msg
  | .lookup => receiver.lookup
  | .resolve => receiver.resolve
  | .deliver => receiver.deliver
  | .addPending since now => receiver.addPending since now
  | .connectionsAdded conns => some (receiver.connectionsAdded conns)
  | .drop connId => some (receiver.drop connId)

end PcapdroidFormal.Mitm
