import PcapdroidFormal.Mitm.Receiver

/-!
# Decrypted payload reaches its connection

A port is either waiting for its connection, and then all its messages are pending,
or its connection was added, and then they are handed to it one after the other.
Between the two the messages that were pending are handed over first.  One message
can be missed: the one for which no connection was found, when the connection is
added before the message is pending.
-/

namespace PcapdroidFormal.Mitm

open Foundation

variable {connId : Int32} {conn : Connection} {message : Message} {step : ReceiverStep}
  {other : Int32}

/-! ## The messages of one port -/

def forPort (port : Int32) (messages : List Message) : List Message :=
  messages.filter fun message => message.port = port

def handledFor (port : Int32) (handled : List (Int32 × Message)) : List (Int32 × Message) :=
  handled.filter fun call => call.2.port = port

namespace ReceiverThread

def current : ReceiverThread → List Message
  | .idle => []
  | .looking message | .found _ message | .resolved _ message | .missed message => [message]

end ReceiverThread

theorem forPort_append (port : Int32) (messages more : List Message) :
    forPort port (messages ++ more) = forPort port messages ++ forPort port more :=
  List.filter_append ..

theorem handledFor_append (port : Int32) (handled more : List (Int32 × Message)) :
    handledFor port (handled ++ more) = handledFor port handled ++ handledFor port more :=
  List.filter_append ..

/-- Calls for the messages of one port. -/
theorem handledFor_map {port : Int32} (connId : Int32) {messages : List Message}
    (all : ∀ message ∈ messages, message.port = port) :
    handledFor port (messages.map fun message => (connId, message)) =
      messages.map fun message => (connId, message) := by
  refine List.filter_eq_self.mpr fun call member => ?_
  grind

theorem handledFor_map_of_ne {port : Int32} (differ : other ≠ port) (connId : Int32)
    {messages : List Message} (all : ∀ message ∈ messages, message.port = other) :
    handledFor port (messages.map fun message => (connId, message)) = [] := by
  refine List.filter_eq_nil_iff.mpr fun call member => ?_
  grind

namespace MitmReceiver

variable {port : Int32} {receiver next : MitmReceiver} {cache : LruCache Int32 Int32}
  {thread : ReceiverThread} {since now : Int64}

def pendingFor (receiver : MitmReceiver) (port : Int32) : List Message :=
  ((receiver.pendingMessages.lookup port).getD []).map (·.message)

/-! ## Handing over -/

/-- Hand messages to a connection, one after the other. -/
def handAll (receiver : MitmReceiver) (connId : Int32) (messages : List Message) : MitmReceiver :=
  messages.foldl (fun receiver message => receiver.hand connId message) receiver

/-- The loop over the pending messages. -/
theorem handPending (receiver : MitmReceiver) (connId : Int32) (pending : List PendingMessage) :
    pending.foldl (fun receiver pending => receiver.hand connId pending.message) receiver =
      receiver.handAll connId (pending.map (·.message)) := List.foldl_map.symm

/-- Handing over changes the contents of the connection and the history. -/
theorem handAll_fields (receiver : MitmReceiver) (connId : Int32) (messages : List Message) :
    (receiver.handAll connId messages).portToConnId = receiver.portToConnId ∧
    (receiver.handAll connId messages).pendingMessages = receiver.pendingMessages ∧
    (receiver.handAll connId messages).thread = receiver.thread ∧
    (receiver.handAll connId messages).received = receiver.received ∧
    (receiver.handAll connId messages).added = receiver.added ∧
    (receiver.handAll connId messages).handled =
      receiver.handled ++ messages.map fun message => (connId, message) := by
  induction messages generalizing receiver with
  | nil => exact ⟨rfl, rfl, rfl, rfl, rfl, (List.append_nil _).symm⟩
  | cons message messages ih =>
    obtain ⟨ports, pending, thread, received, added, handled⟩ := ih (receiver.hand connId message)
    refine ⟨ports, pending, thread, received, added, handled.trans ?_⟩
    change receiver.handled ++ [(connId, message)] ++ _ = _
    grind

theorem hand_named (message : Message)
    (named : ∀ id conn, receiver.objects id = some conn → conn.incrId = id) :
    ∀ id conn, (receiver.hand connId message).objects id = some conn → conn.incrId = id := by
  have same (conn : Connection) : (handleMessage conn message).incrId = conn.incrId := by
    unfold handleMessage
    split <;> rfl
  intro id conn here
  change Function.update receiver.objects connId _ id = some conn at here
  by_cases changed : id = connId
  · subst changed
    rw [Function.update_self] at here
    obtain ⟨before, found, rfl⟩ := Option.map_eq_some_iff.mp here
    grind
  · grind

theorem handAll_named (messages : List Message)
    (named : ∀ id conn, receiver.objects id = some conn → conn.incrId = id) :
    ∀ id conn, (receiver.handAll connId messages).objects id = some conn → conn.incrId = id := by
  induction messages generalizing receiver with
  | nil => exact named
  | cons message messages ih => exact ih (hand_named message named)

/-! ## The invariant -/

/-- The pending messages are filed under their ports, and the connections under their
identifiers. -/
structure Filed (receiver : MitmReceiver) : Prop where
  pending : ∀ port, ∀ message ∈ receiver.pendingFor port, message.port = port
  named : ∀ id conn, receiver.objects id = some conn → conn.incrId = id

/-- The connection of the port was not added: its messages are pending. -/
structure Waiting (port : Int32) (receiver : MitmReceiver) : Prop where
  absent : ∀ conn ∈ receiver.added, conn.localPort ≠ port
  unmapped : receiver.portToConnId.lookup port = none
  queued : forPort port receiver.received =
    receiver.pendingFor port ++ forPort port receiver.thread.current
  unhandled : handledFor port receiver.handled = []
  unfound : ∀ connId message, receiver.thread = .found connId message ∨
    receiver.thread = .resolved connId message → message.port ≠ port

/-- The connection of the port was added: its messages are handed to it. -/
structure Flowing (port connId : Int32) (receiver : MitmReceiver) : Prop where
  mapped : ∀ found, receiver.portToConnId.lookup port = some found → found = connId
  drained : receiver.pendingMessages.lookup port = none
  handed : (forPort port receiver.received).map (fun message => (connId, message)) =
    handledFor port receiver.handled ++
      (forPort port receiver.thread.current).map fun message => (connId, message)
  reached : ∀ found message, receiver.thread = .found found message ∨
    receiver.thread = .resolved found message → message.port = port → found = connId
  unmissed : ∀ message, receiver.thread = .missed message → message.port ≠ port

/-- A port is used by one connection at most. -/
def Follows (port : Int32) (receiver : MitmReceiver) : Prop :=
  Waiting port receiver ∨ ∃ conn, conn.localPort = port ∧
    receiver.added.filter (fun conn => conn.localPort = port) = [conn] ∧
    Flowing port conn.incrId receiver

/-! ## The register adds connections -/

/-- What a connection that is added changes. -/
theorem addConnection_fields (receiver : MitmReceiver) (conn : Connection) :
    (receiver.addConnection conn).portToConnId =
      receiver.portToConnId.put conn.localPort conn.incrId ∧
    (∀ other, (receiver.addConnection conn).pendingMessages.lookup other =
      if other = conn.localPort then none else receiver.pendingMessages.lookup other) ∧
    (receiver.addConnection conn).thread = receiver.thread ∧
    (receiver.addConnection conn).received = receiver.received ∧
    (receiver.addConnection conn).added = receiver.added ++ [conn] ∧
    (receiver.addConnection conn).handled = receiver.handled ++
      (receiver.pendingFor conn.localPort).map fun message => (conn.incrId, message) := by
  simp only [addConnection, pendingFor]
  split
  next nothing =>
    grind
  next pending waiting =>
    rw [waiting, Option.getD_some, handPending]
    obtain ⟨ports, erased, thread, received, added, handled⟩ := handAll_fields
      { receiver with
        objects := Function.update receiver.objects conn.incrId (some conn)
        registered := Function.update receiver.registered conn.incrId true
        portToConnId := receiver.portToConnId.put conn.localPort conn.incrId
        added := receiver.added ++ [conn]
        pendingMessages := receiver.pendingMessages.erase conn.localPort }
      conn.incrId (pending.map (·.message))
    refine ⟨ports, fun other => ?_, thread, received, added, handled⟩
    refine (congrArg (AList.lookup other) erased).trans ?_
    split
    next same => rw [same, AList.lookup_erase]
    next differ => rw [AList.lookup_erase_ne differ]

theorem addConnection_named (conn : Connection)
    (named : ∀ id conn, receiver.objects id = some conn → conn.incrId = id) :
    ∀ id found, (receiver.addConnection conn).objects id = some found → found.incrId = id := by
  have stored : ∀ id found, Function.update receiver.objects conn.incrId (some conn) id =
      some found → found.incrId = id := by
    grind
  simp only [addConnection]
  split
  next => exact stored
  next pending _ =>
    rw [handPending]
    exact handAll_named _ stored

theorem Filed.addConnection (filed : receiver.Filed) (conn : Connection) :
    (receiver.addConnection conn).Filed := by
  obtain ⟨-, pending, -, -, -, -⟩ := addConnection_fields receiver conn
  refine ⟨fun port message member => ?_, addConnection_named conn filed.named⟩
  rw [pendingFor, pending] at member
  split at member
  next => cases member
  next => exact filed.pending port message member

/-- Another connection is added. -/
theorem Waiting.addOther (waiting : Waiting port receiver) (filed : receiver.Filed)
    (differ : conn.localPort ≠ port) :
    Waiting port (receiver.addConnection conn) := by
  obtain ⟨ports, pending, thread, received, added, handled⟩ := addConnection_fields receiver conn
  refine ⟨?_, ?_, ?_, ?_, ?_⟩
  · rw [added]
    intro other member
    rcases List.mem_append.mp member with old | new
    · exact waiting.absent other old
    · grind
  · rw [ports]
    cases mapped : (receiver.portToConnId.put conn.localPort conn.incrId).lookup port with
    | none => rfl
    | some found =>
      have before := LruCache.lookup_of_put (Ne.symm differ) mapped
      rw [waiting.unmapped] at before
      cases before
  · rw [received, thread, pendingFor, pending, if_neg (Ne.symm differ)]
    exact waiting.queued
  · rw [handled, handledFor_append, waiting.unhandled,
      handledFor_map_of_ne differ conn.incrId (filed.pending conn.localPort)]
    rfl
  · rw [thread]
    exact waiting.unfound

theorem Flowing.addOther (flowing : Flowing port connId receiver)
    (filed : receiver.Filed) (differ : conn.localPort ≠ port) :
    Flowing port connId (receiver.addConnection conn) := by
  obtain ⟨ports, pending, thread, received, added, handled⟩ := addConnection_fields receiver conn
  refine ⟨?_, ?_, ?_, ?_, ?_⟩
  · rw [ports]
    intro found mapped
    exact flowing.mapped found (LruCache.lookup_of_put (Ne.symm differ) mapped)
  · rw [pending, if_neg (Ne.symm differ)]
    exact flowing.drained
  · rw [received, thread, handled, handledFor_append,
      handledFor_map_of_ne differ conn.incrId (filed.pending conn.localPort), List.append_nil]
    exact flowing.handed
  · rw [thread]
    exact flowing.reached
  · rw [thread]
    exact flowing.unmissed

/-- The connection of the port is added: the pending messages are handed to it. -/
theorem Waiting.addSame (waiting : Waiting port receiver) (filed : receiver.Filed)
    (same : conn.localPort = port)
    (careful : ∀ message, receiver.thread = .missed message → message.port ≠ port) :
    Flowing port conn.incrId (receiver.addConnection conn) := by
  obtain ⟨ports, pending, thread, received, added, handled⟩ := addConnection_fields receiver conn
  subst same
  refine ⟨?_, ?_, ?_, ?_, ?_⟩
  · rw [ports]
    exact fun found mapped => LruCache.eq_of_put_lookup mapped
  · rw [pending, if_pos rfl]
  · rw [received, thread, handled, handledFor_append, waiting.unhandled, List.nil_append,
      handledFor_map conn.incrId (filed.pending conn.localPort), waiting.queued, List.map_append]
  · rw [thread]
    intro found message reached samePort
    exact absurd samePort (waiting.unfound found message reached)
  · grind

/-- One connection is added. -/
theorem Follows.addConnection (follows : Follows port receiver) (filed : receiver.Filed)
    (conn : Connection)
    (unique : ((receiver.added ++ [conn]).filter fun conn => conn.localPort = port).length ≤ 1)
    (careful : ∀ message, receiver.thread = .missed message → message.port = port →
      conn.localPort ≠ port) :
    Follows port (receiver.addConnection conn) := by
  obtain ⟨-, -, -, -, added, -⟩ := addConnection_fields receiver conn
  by_cases same : conn.localPort = port
  · have here : [conn].filter (fun conn => conn.localPort = port) = [conn] :=
      List.filter_cons_of_pos (decide_eq_true same)
    rw [List.filter_append, here, List.length_append] at unique
    have none : receiver.added.filter (fun conn => conn.localPort = port) = [] := by
      rw [← List.length_eq_zero_iff]
      grind
    rcases follows with waiting | ⟨other, -, only, -⟩
    · refine .inr ⟨conn, same, ?_, waiting.addSame filed same fun message missed samePort =>
        careful message missed samePort same⟩
      grind
    · grind
  · rcases follows with waiting | ⟨other, otherPort, only, flowing⟩
    · exact .inl (waiting.addOther filed same)
    · refine .inr ⟨other, otherPort, ?_, flowing.addOther filed same⟩
      grind

theorem connectionsAdded_follows (conns : List Connection) (follows : Follows port receiver)
    (filed : receiver.Filed)
    (unique : ((receiver.added ++ conns).filter fun conn => conn.localPort = port).length ≤ 1)
    (careful : ∀ message, receiver.thread = .missed message → message.port = port →
      ∀ conn ∈ conns, conn.localPort ≠ port) :
    Follows port (receiver.connectionsAdded conns) ∧ (receiver.connectionsAdded conns).Filed := by
  induction conns generalizing receiver with
  | nil => exact ⟨follows, filed⟩
  | cons conn conns ih =>
    obtain ⟨-, -, thread, -, added, -⟩ := addConnection_fields receiver conn
    rw [List.append_cons] at unique
    refine ih (follows.addConnection filed conn ?_ fun message missed samePort =>
      careful message missed samePort conn List.mem_cons_self) (filed.addConnection conn) ?_ ?_
    · grind
    · grind
    · grind

/-! ## The receiver takes a message along -/

theorem forPort_self (same : message.port = port) :
    forPort port [message] = [message] := List.filter_cons_of_pos (decide_eq_true same)

theorem forPort_other (differ : message.port ≠ port) :
    forPort port [message] = [] := List.filter_cons_of_neg (by rwa [decide_eq_true_iff])

theorem handledFor_self (same : message.port = port) :
    handledFor port [(connId, message)] = [(connId, message)] :=
  List.filter_cons_of_pos (decide_eq_true same)

theorem handledFor_other (differ : message.port ≠ port) :
    handledFor port [(connId, message)] = [] :=
  List.filter_cons_of_neg (by rwa [decide_eq_true_iff])

theorem receive_follows {msgType : String} {tstamp : Int64} {msg : Bytes}
    (follows : Follows port receiver)
    (taken : receiver.receive msgType other tstamp msg = some next) : Follows port next := by
  simp only [receive] at taken
  split at taken
  next idle =>
    split at taken
    next =>
      obtain rfl := Option.some.inj taken
      rcases follows with waiting | ⟨conn, connPort, only, flowing⟩
      · refine .inl ⟨waiting.absent, waiting.unmapped, ?_, waiting.unhandled, ?_⟩
        · have queued := waiting.queued
          rw [idle] at queued
          rw [forPort_append, queued, List.append_assoc]
          rfl
        · grind
      · refine .inr ⟨conn, connPort, only, flowing.mapped, flowing.drained, ?_, ?_, ?_⟩
        · have handed := flowing.handed
          rw [idle] at handed
          rw [forPort_append, List.map_append, handed, List.append_assoc]
          rfl
        · grind
        · grind
    next => grind
  next => cases taken

/-- The receiver is at the same message, and the ports are mapped as before. -/
theorem Waiting.move (waiting : Waiting port receiver)
    (sameMap : cache.lookup port = receiver.portToConnId.lookup port)
    (current : thread.current = receiver.thread.current)
    (unfound : ∀ connId message, thread = .found connId message ∨ thread = .resolved connId message →
      message.port ≠ port) :
    Waiting port { receiver with portToConnId := cache, thread := thread } where
  absent := waiting.absent
  unmapped := sameMap.trans waiting.unmapped
  queued := by
    rw [current]
    exact waiting.queued
  unhandled := waiting.unhandled
  unfound := unfound

theorem Flowing.move (flowing : Flowing port connId receiver)
    (sameMap : cache.lookup port = receiver.portToConnId.lookup port)
    (current : thread.current = receiver.thread.current)
    (reached : ∀ found message, thread = .found found message ∨ thread = .resolved found message →
      message.port = port → found = connId)
    (unmissed : ∀ message, thread = .missed message → message.port ≠ port) :
    Flowing port connId { receiver with portToConnId := cache, thread := thread } where
  mapped := fun found mapped => flowing.mapped found (sameMap.symm.trans mapped)
  drained := flowing.drained
  handed := by
    rw [current]
    exact flowing.handed
  reached := reached
  unmissed := unmissed

section

variable (follows : Follows port receiver)
include follows

theorem lookup_follows (taken : receiver.lookup = some next)
    (stays : ∀ message, receiver.thread = .looking message → message.port = port →
      (∃ conn ∈ receiver.added, conn.localPort = port) →
      (receiver.portToConnId.lookup port).isSome = true) : Follows port next := by
  simp only [lookup] at taken
  split at taken
  next message looking =>
    rw [LruCache.get_fst] at taken
    have current : [message] = receiver.thread.current := by rw [looking]; rfl
    cases mapped : receiver.portToConnId.lookup message.port with
    | none =>
      rw [mapped] at taken
      obtain rfl := Option.some.inj taken
      rcases follows with waiting | ⟨conn, connPort, only, flowing⟩
      · refine .inl (waiting.move LruCache.get_lookup current ?_)
        grind
      · refine .inr ⟨conn, connPort, only, flowing.move LruCache.get_lookup current ?_ ?_⟩
        · grind
        · intro other missed samePort
          cases missed
          have member : conn ∈ receiver.added.filter fun conn => conn.localPort = port := by
            grind
          grind
    | some connId =>
      rw [mapped] at taken
      obtain rfl := Option.some.inj taken
      rcases follows with waiting | ⟨conn, connPort, only, flowing⟩
      · refine .inl (waiting.move LruCache.get_lookup current ?_)
        rintro found other (reached | reached) samePort
        · cases reached
          rw [samePort, waiting.unmapped] at mapped
          cases mapped
        · cases reached
      · refine .inr ⟨conn, connPort, only, flowing.move LruCache.get_lookup current ?_ ?_⟩
        · rintro found other (reached | reached) samePort
          · cases reached
            rw [samePort] at mapped
            exact flowing.mapped connId mapped
          · cases reached
        · grind
  next => cases taken

/-- The message is missed, which does not happen to a message whose connection stays. -/
theorem Follows.miss (found : receiver.thread = .found connId message)
    (stays : message.port = port → Waiting port receiver) :
    Follows port { receiver with thread := .missed message } := by
  have current : [message] = receiver.thread.current := by rw [found]; rfl
  rcases follows with waiting | ⟨conn, connPort, only, flowing⟩
  · refine .inl (waiting.move rfl current ?_)
    grind
  · refine .inr ⟨conn, connPort, only, flowing.move rfl current ?_ ?_⟩
    · grind
    · intro other missed samePort
      cases missed
      exact (stays samePort).unfound connId message (.inl found) samePort

theorem resolve_follows (filed : receiver.Filed) (taken : receiver.resolve = some next)
    (stays : ∀ connId message, receiver.thread = .found connId message → message.port = port →
      ∃ conn, receiver.getConnById connId = some conn ∧ conn.localPort = port) :
    Follows port next := by
  simp only [resolve] at taken
  split at taken
  next connId message found =>
    have current : [message] = receiver.thread.current := by rw [found]; rfl
    cases here : receiver.getConnById connId with
    | none =>
      rw [here] at taken
      obtain rfl := Option.some.inj taken
      refine follows.miss found fun samePort => ?_
      grind
    | some object =>
      simp only [here] at taken
      split at taken
      next =>
        obtain rfl := Option.some.inj taken
        have known : receiver.objects connId = some object := by
          rw [getConnById] at here
          grind
        have same := filed.named connId object known
        rcases follows with waiting | ⟨conn, connPort, only, flowing⟩
        · refine .inl (waiting.move rfl current ?_)
          rintro id other (reached | reached)
          · cases reached
          · cases reached
            exact waiting.unfound connId message (.inl found)
        · refine .inr ⟨conn, connPort, only, flowing.move rfl current ?_ ?_⟩
          · rintro id other (reached | reached) samePort
            · cases reached
            · cases reached
              rw [same]
              exact flowing.reached connId message (.inl found) samePort
          · grind
      next differ =>
        obtain rfl := Option.some.inj taken
        refine follows.miss found fun samePort => ?_
        grind
  next => cases taken

theorem deliver_follows (taken : receiver.deliver = some next) : Follows port next := by
  simp only [deliver] at taken
  split at taken
  next connId message resolved =>
    obtain rfl := Option.some.inj taken
    rcases follows with waiting | ⟨conn, connPort, only, flowing⟩
    · have differ := waiting.unfound connId message (.inr resolved)
      refine .inl ⟨waiting.absent, waiting.unmapped, ?_, ?_, ?_⟩
      · have queued := waiting.queued
        rw [resolved, ReceiverThread.current, forPort_other differ] at queued
        exact queued
      · change handledFor port (receiver.handled ++ [(connId, message)]) = []
        rw [handledFor_append, waiting.unhandled, handledFor_other differ]
        rfl
      · grind
    · refine .inr ⟨conn, connPort, only, flowing.mapped, flowing.drained, ?_, ?_, ?_⟩
      · change (forPort port receiver.received).map _ =
          handledFor port (receiver.handled ++ [(connId, message)]) ++ []
        have handed := flowing.handed
        rw [resolved, ReceiverThread.current] at handed
        rw [handed, handledFor_append, List.append_nil]
        by_cases same : message.port = port
        · rw [forPort_self same, handledFor_self same,
            flowing.reached connId message (.inr resolved) same]
          rfl
        · rw [forPort_other same, handledFor_other same]
          rfl
      · grind
      · grind
  next => cases taken

theorem addPending_follows (taken : receiver.addPending since now = some next)
    (kept : purge now receiver.pendingMessages = receiver.pendingMessages) : Follows port next := by
  simp only [addPending] at taken
  split at taken
  next message missed =>
    obtain rfl := Option.some.inj taken
    have others : message.port ≠ port →
        (addPendingMessage now receiver.pendingMessages ⟨message, since⟩).lookup port =
          receiver.pendingMessages.lookup port := by
      intro differ
      rw [addPendingMessage, kept]
      exact AList.lookup_insert_ne (Ne.symm differ)
    rcases follows with waiting | ⟨conn, connPort, only, flowing⟩
    · refine .inl ⟨waiting.absent, waiting.unmapped, ?_, waiting.unhandled, ?_⟩
      · have queued := waiting.queued
        rw [missed, ReceiverThread.current] at queued
        change forPort port receiver.received = List.map _
          (((addPendingMessage now receiver.pendingMessages ⟨message, since⟩).lookup port).getD [])
            ++ []
        rw [queued, List.append_nil]
        by_cases same : message.port = port
        · subst same
          rw [forPort_self rfl, addPendingMessage, kept, AList.lookup_insert, Option.getD_some,
            List.map_append]
          rfl
        · rw [forPort_other same, others same, List.append_nil]
          rfl
      · grind
    · have differ := flowing.unmissed message missed
      refine .inr ⟨conn, connPort, only, flowing.mapped, (others differ).trans flowing.drained,
        ?_, ?_, ?_⟩
      · have handed := flowing.handed
        rw [missed, ReceiverThread.current, forPort_other differ] at handed
        exact handed
      · grind
      · grind
  next => cases taken

end

theorem addPending_filed (filed : receiver.Filed)
    (taken : receiver.addPending since now = some next)
    (kept : purge now receiver.pendingMessages = receiver.pendingMessages) : next.Filed := by
  simp only [addPending] at taken
  split at taken
  next message missed =>
    obtain rfl := Option.some.inj taken
    refine ⟨fun port other member => ?_, filed.named⟩
    change other ∈ List.map _
      (((addPendingMessage now receiver.pendingMessages ⟨message, since⟩).lookup port).getD [])
      at member
    rw [addPendingMessage, kept] at member
    by_cases same : port = message.port
    · subst same
      rw [AList.lookup_insert, Option.getD_some, List.map_append, List.mem_append] at member
      rcases member with old | new
      · exact filed.pending message.port other old
      · grind
    · rw [AList.lookup_insert_ne same] at member
      exact filed.pending port other member
  next => cases taken

/-! ## Whole runs -/

/-- A message is looked up, and the connection of its port is still in the cache of the ports. -/
def StaysMapped (port : Int32) (receiver : MitmReceiver) : ReceiverThread → Prop
  | .looking message => message.port = port →
      (∃ conn ∈ receiver.added, conn.localPort = port) →
      (receiver.portToConnId.lookup port).isSome = true
  | _ => True

/-- The register is asked for a connection of the port, which it still has. -/
def StaysRegistered (port : Int32) (receiver : MitmReceiver) : ReceiverThread → Prop
  | .found connId message => message.port = port →
      ∃ conn ∈ receiver.getConnById connId, conn.localPort = port
  | _ => True

/-- A port is used by one connection, which stays in the register and in the cache of the ports,
and no pending messages are purged. -/
def Assumed (port : Int32) (receiver : MitmReceiver) : ReceiverStep → Prop
  | .lookup => receiver.StaysMapped port receiver.thread
  | .resolve => receiver.StaysRegistered port receiver.thread
  | .connectionsAdded conns =>
    ((receiver.added ++ conns).filter fun conn => conn.localPort = port).length ≤ 1
  | .addPending _ now => purge now receiver.pendingMessages = receiver.pendingMessages
  | _ => True

def Unmissed (port : Int32) (conns : List Connection) : ReceiverThread → Prop
  | .missed message => message.port = port → ∀ conn ∈ conns, conn.localPort ≠ port
  | _ => True

/-- The connection of a port is not added between the lookup that did not find it and the
enqueueing of the message. -/
def Careful (port : Int32) (receiver : MitmReceiver) : ReceiverStep → Prop
  | .connectionsAdded conns => Unmissed port conns receiver.thread
  | _ => True

theorem step_follows (follows : Follows port receiver)
    (filed : receiver.Filed) (assumed : Assumed port receiver step)
    (careful : Careful port receiver step) (taken : receiver.step step = some next) :
    Follows port next ∧ next.Filed := by
  cases step with
  | receive msgType other tstamp msg =>
    refine ⟨receive_follows follows taken, ?_⟩
    simp only [MitmReceiver.step, receive] at taken
    split at taken
    next =>
      split at taken
      next =>
        obtain rfl := Option.some.inj taken
        exact ⟨filed.pending, filed.named⟩
      next => grind
    next => cases taken
  | lookup =>
    refine ⟨lookup_follows follows taken fun message looking => ?_, ?_⟩
    · rw [Assumed, looking] at assumed
      exact assumed
    · simp only [MitmReceiver.step, lookup] at taken
      split at taken
      next =>
        obtain rfl := Option.some.inj taken
        exact ⟨filed.pending, filed.named⟩
      next => cases taken
  | resolve =>
    refine ⟨resolve_follows follows filed taken fun connId message found => ?_, ?_⟩
    · rw [Assumed, found] at assumed
      exact assumed
    · simp only [MitmReceiver.step, resolve] at taken
      split at taken
      next =>
        obtain rfl := Option.some.inj taken
        exact ⟨filed.pending, filed.named⟩
      next => cases taken
  | deliver =>
    refine ⟨deliver_follows follows taken, ?_⟩
    simp only [MitmReceiver.step, deliver] at taken
    split at taken
    next connId message _ =>
      obtain rfl := Option.some.inj taken
      exact ⟨filed.pending, hand_named message filed.named⟩
    next => cases taken
  | addPending since now =>
    exact ⟨addPending_follows follows taken assumed, addPending_filed filed taken assumed⟩
  | connectionsAdded conns =>
    obtain rfl := Option.some.inj taken
    refine connectionsAdded_follows conns follows filed assumed fun message missed => ?_
    rw [Careful, missed] at careful
    exact careful
  | drop connId =>
    obtain rfl := Option.some.inj taken
    refine ⟨?_, ⟨filed.pending, filed.named⟩⟩
    rcases follows with waiting | ⟨conn, connPort, only, flowing⟩
    · exact .inl ⟨waiting.absent, waiting.unmapped, waiting.queued, waiting.unhandled,
        waiting.unfound⟩
    · exact .inr ⟨conn, connPort, only, flowing.mapped, flowing.drained, flowing.handed,
        flowing.reached, flowing.unmissed⟩

end MitmReceiver

def ReceiverStep.messages : ReceiverStep → List Message
  | .receive msgType port tstamp msg =>
    if (MsgType.parseMsgType msgType).isForConnection then
      [⟨.parseMsgType msgType, msg, port, tstamp⟩]
    else []
  | _ => []

namespace MitmReceiver

theorem connectionsAdded_received (receiver : MitmReceiver) (conns : List Connection) :
    (receiver.connectionsAdded conns).received = receiver.received := by
  induction conns generalizing receiver with
  | nil => rfl
  | cons conn conns ih =>
    obtain ⟨-, -, -, received, -⟩ := addConnection_fields receiver conn
    exact (ih (receiver.addConnection conn)).trans received

theorem step_received {receiver next : MitmReceiver} (taken : receiver.step step = some next) :
    next.received = receiver.received ++ step.messages := by
  cases step with
  | receive msgType port tstamp msg =>
    simp only [MitmReceiver.step, receive] at taken
    rw [ReceiverStep.messages]
    grind
  | lookup | resolve | deliver | addPending =>
    simp only [MitmReceiver.step, lookup, resolve, deliver, addPending] at taken
    split at taken
    next =>
      obtain rfl := Option.some.inj taken
      exact (List.append_nil _).symm
    next => cases taken
  | connectionsAdded conns =>
    obtain rfl := Option.some.inj taken
    exact (connectionsAdded_received receiver conns).trans (List.append_nil _).symm
  | drop connId =>
    obtain rfl := Option.some.inj taken
    exact (List.append_nil _).symm

theorem path_received {Guard : MitmReceiver → ReceiverStep → Prop} {start final : MitmReceiver}
    {steps : List ReceiverStep} (path : Path MitmReceiver.step Guard start steps final) :
    final.received = start.received ++ steps.flatMap (·.messages) := by
  induction path with
  | done => grind
  | step _ taken _ ih => rw [ih, step_received taken, List.append_assoc, List.flatMap_cons]

end MitmReceiver

open MitmReceiver

/-- However the two threads are interleaved, once the connection of a port was added and the
receiver is between two messages, nothing is pending for the port, and the messages of the port
were handed to the connection, each of them once and in their order; provided that the connection
is not added after a lookup has failed to find it and before the message is pending. -/
theorem payload_reaches_connection (port : Int32) (steps : List ReceiverStep)
    {final : MitmReceiver}
    (path : Path MitmReceiver.step
      (fun receiver step => Assumed port receiver step ∧ Careful port receiver step) .start steps
      final)
    {conn : Connection} (added : conn ∈ final.added) (samePort : conn.localPort = port)
    (idle : final.thread = .idle) :
    final.pendingMessages.lookup port = none ∧
      handledFor port final.handled =
        (forPort port (steps.flatMap (·.messages))).map fun message => (conn.incrId, message) := by
  have initial : Follows port MitmReceiver.start ∧ MitmReceiver.start.Filed := by
    refine ⟨.inl ⟨List.forall_mem_nil _, rfl, rfl, rfl, ?_⟩, fun other => ?_, fun _ _ absent => ?_⟩
    · rintro connId message (reached | reached) <;> cases reached
    · exact List.forall_mem_nil _
    · cases absent
  have preserved : ∀ {state step next}, Follows port state ∧ state.Filed →
      Assumed port state step ∧ Careful port state step → state.step step = some next →
      Follows port next ∧ next.Filed :=
    fun ⟨follows, filed⟩ ⟨assumed, careful⟩ taken =>
      step_follows follows filed assumed careful taken
  obtain ⟨follows, -⟩ := path.invariant preserved initial
  have received := path_received path
  change final.received = [] ++ _ at received
  rw [List.nil_append] at received
  rcases follows with waiting | ⟨other, -, only, flowing⟩
  · exact absurd samePort (waiting.absent conn added)
  · have member : conn ∈ final.added.filter fun conn => conn.localPort = port :=
      List.mem_filter.mpr ⟨added, decide_eq_true samePort⟩
    rw [only] at member
    obtain rfl := List.mem_singleton.mp member
    refine ⟨flowing.drained, ?_⟩
    have handed := flowing.handed
    rw [idle] at handed
    rw [← received, handed]
    exact (List.append_nil _).symm

section Decidable

variable (port : Int32) (receiver : MitmReceiver) (conns : List Connection)

instance : (thread : ReceiverThread) → Decidable (receiver.StaysMapped port thread)
  | .looking message => inferInstanceAs (Decidable (message.port = port →
      (∃ conn ∈ receiver.added, conn.localPort = port) →
      (receiver.portToConnId.lookup port).isSome = true))
  | .idle | .found _ _ | .resolved _ _ | .missed _ => .isTrue trivial

instance : (thread : ReceiverThread) → Decidable (receiver.StaysRegistered port thread)
  | .found connId message => inferInstanceAs (Decidable (message.port = port →
      ∃ conn ∈ receiver.getConnById connId, conn.localPort = port))
  | .idle | .looking _ | .resolved _ _ | .missed _ => .isTrue trivial

instance : (thread : ReceiverThread) → Decidable (Unmissed port conns thread)
  | .missed message => inferInstanceAs (Decidable (message.port = port →
      ∀ conn ∈ conns, conn.localPort ≠ port))
  | .idle | .looking _ | .found _ _ | .resolved _ _ => .isTrue trivial

instance : (step : ReceiverStep) → Decidable (Assumed port receiver step)
  | .lookup => inferInstanceAs (Decidable (receiver.StaysMapped port receiver.thread))
  | .resolve => inferInstanceAs (Decidable (receiver.StaysRegistered port receiver.thread))
  | .connectionsAdded conns => inferInstanceAs (Decidable
      (((receiver.added ++ conns).filter fun conn => conn.localPort = port).length ≤ 1))
  | .addPending _ now => decidable_of_iff
      ((purge now receiver.pendingMessages).entries = receiver.pendingMessages.entries)
      AList.ext_iff.symm
  | .receive .. | .deliver | .drop _ => .isTrue trivial

instance : (step : ReceiverStep) → Decidable (Careful port receiver step)
  | .connectionsAdded conns => inferInstanceAs (Decidable (Unmissed port conns receiver.thread))
  | .receive .. | .lookup | .resolve | .deliver | .addPending .. | .drop _ => .isTrue trivial

end Decidable

/-- A connection without payload. -/
def plainConnection (incrId localPort : Int32) : Connection :=
  ⟨incrId, localPort, 0, none, false, none, [], 0⟩

/-- Of two messages one comes before the connection. -/
theorem payload_of_two_messages :
    ∃ final, Path MitmReceiver.step
      (fun receiver step => Assumed 5 receiver step ∧ Careful 5 receiver step) .start
      [.receive "tcp_climsg" 5 1 [1], .lookup, .addPending 0 0,
        .connectionsAdded [plainConnection 3 5], .receive "tcp_srvmsg" 5 2 [2], .lookup, .resolve,
        .deliver] final ∧
      final.pendingMessages.lookup 5 = none ∧
      handledFor 5 final.handled =
        [(3, ⟨.tcpClientMsg, [1], 5, 1⟩), (3, ⟨.tcpServerMsg, [2], 5, 2⟩)] := by
  obtain ⟨_, final, started, path, seen⟩ := @exists_path _ _ MitmReceiver.step
    (fun receiver step => Assumed 5 receiver step ∧ Careful 5 receiver step) _ _ (some .start)
    [.receive "tcp_climsg" 5 1 [1], .lookup, .addPending 0 0,
      .connectionsAdded [plainConnection 3 5], .receive "tcp_srvmsg" 5 2 [2], .lookup, .resolve,
      .deliver]
    (fun final => (decide (final.thread = .idle), final.added)) (true, [plainConnection 3 5])
    (by decide +kernel)
  cases started
  obtain ⟨idle, added⟩ := Prod.mk.inj seen
  have member : plainConnection 3 5 ∈ final.added := by
    rw [added]
    exact List.mem_singleton_self _
  exact ⟨final, path, payload_reaches_connection 5 _ path member rfl (of_decide_eq_true idle)⟩

/-- The connection is added between the lookup and the enqueueing: the message stays pending. -/
theorem payload_missed_by_its_connection :
    ∃ final, Path MitmReceiver.step (Assumed 5) .start
      [.receive "tcp_climsg" 5 1 [1], .lookup, .connectionsAdded [plainConnection 3 5],
        .addPending 0 0, .receive "tcp_srvmsg" 5 2 [2], .lookup, .resolve, .deliver] final ∧
      plainConnection 3 5 ∈ final.added ∧ final.thread = .idle ∧
      final.pendingMessages.lookup 5 = some [⟨⟨.tcpClientMsg, [1], 5, 1⟩, 0⟩] ∧
      final.handled = [(3, ⟨.tcpServerMsg, [2], 5, 2⟩)] := by
  obtain ⟨_, final, started, path, seen⟩ := @exists_path _ _ MitmReceiver.step (Assumed 5) _ _
    (some .start)
    [.receive "tcp_climsg" 5 1 [1], .lookup, .connectionsAdded [plainConnection 3 5],
      .addPending 0 0, .receive "tcp_srvmsg" 5 2 [2], .lookup, .resolve, .deliver]
    (fun final => ((decide (final.thread = .idle), final.added),
      final.pendingMessages.lookup 5, final.handled))
    ((true, [plainConnection 3 5]), some [⟨⟨.tcpClientMsg, [1], 5, 1⟩, 0⟩],
      [(3, ⟨.tcpServerMsg, [2], 5, 2⟩)])
    (by decide +kernel)
  cases started
  obtain ⟨seen, history⟩ := Prod.mk.inj seen
  obtain ⟨idle, added⟩ := Prod.mk.inj seen
  obtain ⟨pending, handled⟩ := Prod.mk.inj history
  refine ⟨final, path, ?_, of_decide_eq_true idle, pending, handled⟩
  rw [added]
  exact List.mem_singleton_self _

end PcapdroidFormal.Mitm
