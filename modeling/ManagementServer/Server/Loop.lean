import ManagementServer.Server.Dispatch

/-!
# The loop of a connection

Every connection has a thread of its own, which reads lines and answers each before it reads the
next. `Loop.step` makes its next step; between two steps other threads may do anything. When a loop
ends, it takes its session out of the registry and its connection out of the table. A connection of
whose socket no further handle can be had is dropped before a line is read.
-/

namespace ManagementServer.Server

open Protocol (ServerMessage)

/-- Where a loop stands. -/
inductive Phase where
  | registering
  | preparing
  | abandoning
  | dropping
  | checkShutdown
  | checkClosing
  | reading
  | received (line : List UInt8)
  | greeting (hello : Protocol.Hello)
  | opened (session : Session.Ref)
  | describing
  | finding (request : Protocol.Request)
  | checkActive (request : Protocol.Request) (session : Session.Ref)
  | dispatching (request : Protocol.Request) (session : Session.Ref) (stage : Dispatch.Stage)
  | answering (message : ServerMessage)
  | replying (request : Protocol.Request) (outcome : Dispatched)
  | openGate (delivery : Session.DeliveryRef) (closes : Bool)
  | lastWord (message : ServerMessage)
  | terminating (reason : ExitReason)
  | shutting (reason : ExitReason)
  | removing (reason : ExitReason)
  | closing (reason : ExitReason) (session : Session.Ref) (rest : Closing)
  | reportClosed (reason : ExitReason) (session : Session.Ref)
  | unregistering
  | releasing
  | ended

/-- A connection's thread: its socket, its connection once that is registered, what it has read, and
the session that it has registered. -/
structure Loop where
  socket : SocketId
  connection : ConnectionId
  reader : Connection.LineReader
  own : Option Session.Ref
  phase : Phase

namespace Loop

variable {μ : Type}

/-- The thread of a connection that was just accepted. -/
def start (socket : SocketId) : Loop := ⟨socket, ⟨0⟩, .empty, none, .registering⟩

/-- Whether a loop is at its end. -/
def isEnded (l : Loop) : Bool :=
  match l.phase with
  | .ended => true
  | _ => false

/-- The loop in another phase. -/
def goTo (l : Loop) (phase : Phase) : Loop := { l with phase }

/-- The phase behind a fault: some are answered and the loop goes on; a line that is too long is
answered as well as may be, and the loop ends. -/
def afterFault (fault : Protocol.Fault) : Phase :=
  if fault.isRecoverable then .answering (.ofFault fault)
  else match fault with
    | .tooLarge _ _ => .lastWord (.ofFault fault)
    | _ => .terminating .failed

/-- The phase behind a line. -/
def afterLine (line : List UInt8) : Phase :=
  match Protocol.AgentMessage.parse line with
  | .error fault => afterFault fault
  | .ok message =>
    match message.validate with
    | .error fault => afterFault fault
    | .ok () =>
      match message with
      | .hello hello => .greeting hello
      | .getCapabilities => .describing
      | .rpc request => .finding request

/-- The session id of a request, without blanks around it. -/
def sessionIdOf (request : Protocol.Request) : String := Text.trim request.sessionId

/-- The message that answers a request. -/
def replyMessage (request : Protocol.Request) (reply : Rpc.Reply) : ServerMessage :=
  .reply (sessionIdOf request) request.messageId reply

/-- The phase that answers a request with an error. -/
def refuse (request : Protocol.Request) (e : Rpc.Error) : Phase :=
  .answering (replyMessage request (.error e))

/-- The error for a session that does not take requests any more. -/
def terminatingError (request : Protocol.Request) : Rpc.Error :=
  .failed s!"session '{sessionIdOf request}' is terminating"

/-- The phase behind a request, before its session is looked at. -/
def find (l : Loop) (request : Protocol.Request) (s : Shared μ) : Phase :=
  match l.own with
  | none => afterFault .noSession
  | some own =>
    let id := sessionIdOf request
    if id != (s.sessions.record own).id then
      refuse request (.failed s!"session '{id}' is not carried by this connection")
    else
      match s.sessions.getById id with
      | .error e => refuse request e.toError
      | .ok found =>
        if found = own then .checkActive request found
        else refuse request (terminatingError request)

variable [Device.DeviceModule μ]

/-- The next step of a loop. Reading takes at most `size` bytes. -/
def step (env : Environment) (size : Nat) (l : Loop) : Action (Shared μ) Loop := do
  match l.phase with
  | .registering =>
    match env.socketFault with
    | some _ => return l.goTo .dropping
    | none =>
      let (table, connection) ← Action.view (·.table.register l.socket)
      Action.modify fun s => { s with table }
      return { l with connection, phase := .preparing }
  | .preparing =>
    match env.socketFault with
    | some _ => return l.goTo .abandoning
    | none => return l.goTo .checkShutdown
  | .abandoning =>
    Action.modify fun s => { s with table := s.table.unregister l.connection }
    return l.goTo .dropping
  | .dropping =>
    Shared.shut l.socket
    return l.goTo .ended
  | .checkShutdown =>
    if (← Action.get).isShuttingDown then return l.goTo (.terminating .shutdown)
    else return l.goTo .checkClosing
  | .checkClosing =>
    if (← Action.get).table.isClosing l.connection then return l.goTo (.terminating .closed)
    else return l.goTo .reading
  | .reading =>
    match l.reader.ready? with
    | some (.ok (line, reader)) => return { l with reader, phase := .received line }
    | some (.error fault) => return l.goTo (afterFault fault)
    | none =>
      match l.reader.take (← Shared.read l.socket size) with
      | (none, reader) => return { l with reader }
      | (some (.ok (.line line)), reader) => return { l with reader, phase := .received line }
      | (some (.ok .timeout), reader) => return { l with reader, phase := .checkShutdown }
      | (some (.ok .hangUp), reader) => return { l with reader, phase := .terminating .hangUp }
      | (some (.error fault), reader) => return { l with reader, phase := afterFault fault }
  | .received line => return l.goTo (afterLine line)
  | .greeting hello =>
    let added ← Shared.onSessions (Session.Registry.add (Text.trim hello.sessionId)
      hello.username hello.capabilities l.connection)
    match added with
    | .ok session => return l.goTo (.opened session)
    | .error e => return l.goTo (.answering (.ofError e.toError))
  | .opened session =>
    let s ← Action.view (·.sessions.record session)
    Action.emit (.reported (.sessionOpened s.id s.context.username))
    return { l with own := some session, phase := .answering (.registered s.id) }
  | .describing =>
    let held ← Action.view (·.modules.capabilities)
    return l.goTo (.answering (.capabilities (CapabilitySet.serverBase.extend held)))
  | .finding request =>
    return l.goTo (l.find request (← Action.get))
  | .checkActive request session =>
    if (← Action.view (·.sessions.record session)).status = .active then
      return l.goTo (.dispatching request session .routing)
    else return l.goTo (refuse request (terminatingError request))
  | .dispatching request _ (.done outcome) => return l.goTo (.replying request outcome)
  | .dispatching request session stage =>
    let next ← Dispatch.step env Shared.closeConnection l.socket session request stage
    return l.goTo (.dispatching request session next)
  | .answering message =>
    match ← Shared.write l.socket message with
    | .ok () => return l.goTo .checkShutdown
    | .error fault => return l.goTo (afterFault fault)
  | .replying request outcome =>
    match ← Shared.write l.socket (replyMessage request outcome.reply) with
    | .ok () =>
      match outcome.gate with
      | some delivery => return l.goTo (.openGate delivery outcome.closes)
      | none =>
        return l.goTo (if outcome.closes then .terminating .closed else .checkShutdown)
    | .error fault =>
      match outcome.gate with
      | some delivery => Shared.setGate delivery .dropped
      | none => pure ()
      return l.goTo (afterFault fault)
  | .openGate delivery closes =>
    Shared.setGate delivery .opened
    return l.goTo (if closes then .terminating .closed else .checkShutdown)
  | .lastWord message =>
    let _ ← Shared.write l.socket message
    return l.goTo (.terminating .failed)
  | .terminating reason =>
    match l.own with
    | some own => Shared.changeSessions fun r => (r.markTerminating own, ())
    | none => pure ()
    return l.goTo (.shutting reason)
  | .shutting reason =>
    Shared.shut l.socket
    return l.goTo (.removing reason)
  | .removing reason =>
    match l.own with
    | none => return l.goTo .unregistering
    | some own =>
      if ← Shared.changeSessions (·.detachRef own) then
        return l.goTo (.closing reason own (.mark own))
      else return l.goTo .unregistering
  | .closing reason session .done =>
    Action.log .debug .sessions "session removed"
      [("session", .string (← Action.view (·.sessions.record session)).id)]
    return l.goTo (.reportClosed reason session)
  | .closing reason session rest =>
    return l.goTo (.closing reason session (← rest.step))
  | .reportClosed reason session =>
    let s ← Action.view (·.sessions.record session)
    Action.emit (.reported (.sessionClosed s.id reason))
    return l.goTo .unregistering
  | .unregistering =>
    Action.modify fun s => { s with table := s.table.unregister l.connection }
    return l.goTo .releasing
  | .releasing =>
    match l.own with
    | some own =>
      match (← Action.view (·.sessions.record own)).subscription with
      | some delivery => Shared.cancel delivery
      | none => pure ()
    | none => pure ()
    return l.goTo .ended
  | .ended => return l

/-- Whether a loop would only go round and wait for its peer. -/
def isWaiting (l : Loop) (s : Shared μ) : Bool :=
  match l.phase with
  | .ended => true
  | .reading =>
    l.reader.ready?.isNone && !s.isShuttingDown && !s.table.isClosing l.connection &&
      match (s.socket l.socket).read 1 with
      | (_, .timeout) => true
      | _ => false
  | .closing _ _ (.join delivery) => !s.isFinished delivery
  | .dispatching _ _ stage =>
    match stage.awaited? with
    | some delivery => !s.isFinished delivery
    | none => false
  | _ => false

end Loop

end ManagementServer.Server
