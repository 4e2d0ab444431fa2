import ManagementServer.Connection.Listener
import ManagementServer.Server.Loop

/-!
# A running server

The threads of a server and what moves them: the loop of each connection, the task of each
delivery, the thread that accepts connections, and the one that stops the server. A `Move` is one
step of one of them, or something that a peer does; every order of moves is a run of the server.

Main definitions: `Running.step`, `Running.stop`, the way in which a server is stopped, and
`Running.settle`, which lets the threads move until all of them wait.
-/

namespace ManagementServer.Server

open Session (DeliveryRef)

/-- Where the thread that accepts connections stands. Where there is none, connections are handed
to the server by others. -/
inductive Accepting where
  | absent
  | checking
  | accepting
  | cleaning
  | joining
  | ended
  | crashed
  deriving DecidableEq, Repr, Inhabited

/-- Where stopping a server stands, and what has been counted so far. A module that crashes when it
is closed ends it before its time. -/
inductive Stopping where
  | idle
  | halting
  | disconnecting
  | draining (connections : Nat)
  | closing (connections sessions : Nat) (current : Closing) (rest : List Session.Ref)
  | joining (connections sessions : Nat)
  | unloading (connections sessions : Nat)
  | closingModules (connections sessions modules : Nat) (rest : List Device.Entry)
  | stopped
  | crashed
  deriving Repr, Inhabited

/-- A server, its threads, and its host. `backlog` are the sockets that wait to be accepted. -/
structure Running (μ : Type) where
  shared : Shared μ
  loops : List Loop
  backlog : List SocketId
  accepting : Accepting
  isHalting : Bool
  listener : Option Connection.Listener
  stopping : Stopping
  host : Connection.Host

/-- One step of a thread, or of a peer. -/
inductive Move where
  | connect
  | send (socket : SocketId) (bytes : List UInt8)
  | hangUp (socket : SocketId)
  | breakDown (socket : SocketId) (detail : String)
  | publish (event : Event.Notification)
  | accept
  | crashAccepting
  | loop (index size : Nat)
  | deliver (delivery : DeliveryRef)
  | stop
  deriving Repr, Inhabited

namespace Running

variable {μ α : Type}

/-- A server without modules that nobody has connected to. -/
def ofHost (host : Connection.Host) : Running μ where
  shared := .ofModules .empty
  loops := []
  backlog := []
  accepting := .absent
  isHalting := false
  listener := none
  stopping := .idle
  host

/-- Acts on what the threads share. -/
def onShared (x : Action (Shared μ) α) : Action (Running μ) α :=
  Action.zoom (·.shared) (fun shared s => { s with shared }) x

/-- Changes the files of the host. -/
def changeFiles (f : Files.Tree → Files.Tree) : Action (Running μ) Unit :=
  Action.modify fun s => { s with host := { s.host with files := f s.host.files } }

/-- Acts on the modules. -/
def onModules (x : Action (Device.Registry μ) α) : Action (Running μ) α :=
  onShared (Shared.onModules x)

/-- Whether somebody takes connections. -/
def isOpen (s : Running μ) : Bool :=
  match s.accepting with
  | .ended | .crashed => false
  | _ => true

/-- A peer connects. Returns its socket, if somebody takes the connection. -/
def connect : Action (Running μ) (Option SocketId) := do
  let s ← Action.get
  if !s.isOpen then return none
  let socket : SocketId := ⟨s.shared.sockets.length⟩
  Action.modify fun s =>
    { s with shared := { s.shared with sockets := s.shared.sockets ++ [.fresh] } }
  if s.accepting = .absent then
    Action.modify fun s => { s with loops := s.loops ++ [.start socket] }
  else
    Action.modify fun s => { s with backlog := s.backlog ++ [socket] }
  return some socket

/-- Closes the sockets that nobody has accepted. -/
def refuseBacklog (s : Running μ) : Running μ :=
  { s with
    backlog := []
    shared := { s.shared with
      sockets := s.backlog.foldl (fun acc id => acc.modify id.number ({ · with isShut := true }))
        s.shared.sockets } }

/-- Changes the host on behalf of the listener. -/
def changeHost (f : Connection.Listener → Connection.Host → Connection.Host) (s : Running μ) :
    Running μ :=
  match s.listener with
  | some l => { s with host := f l s.host }
  | none => s

/-- Closes a socket for which no thread can be started. -/
def dropSocket (socket : SocketId) (s : Running μ) : Running μ :=
  { s with shared := { s.shared with
      sockets := s.shared.sockets.modify socket.number ({ · with isShut := true }) } }

/-- The next step of the thread that accepts connections: after it was told to stop, it clears the
socket file away and waits for the loops of the connections. -/
def accept (env : Environment) : Action (Running μ) Unit := do
  let s ← Action.get
  match s.accepting with
  | .absent | .ended | .crashed => return ()
  | .checking =>
    Action.modify ({ · with accepting := if s.isHalting then .cleaning else .accepting })
  | .accepting =>
    match s.backlog with
    | [] => Action.modify ({ · with accepting := .checking })
    | socket :: rest =>
      match env.threadFault with
      | some _ =>
        Action.modify fun s =>
          { s.dropSocket socket with backlog := rest, accepting := .checking }
      | none =>
        Action.modify fun s =>
          { s with backlog := rest, loops := s.loops ++ [.start socket], accepting := .checking }
  | .cleaning =>
    Action.modify fun s => { s.changeHost Connection.Host.clean with accepting := .joining }
  | .joining =>
    if s.loops.all (·.isEnded) then
      Action.modify fun s =>
        { (s.changeHost Connection.Host.abandon).refuseBacklog with accepting := .ended }

/-- The thread that accepts connections crashes. -/
def crashAccepting : Action (Running μ) Unit := do
  match (← Action.get).accepting with
  | .absent | .ended | .crashed => return ()
  | _ =>
    Action.modify fun s =>
      { (s.changeHost Connection.Host.abandon).refuseBacklog with accepting := .crashed }

/-- Whether the thread that accepts connections has come to its end. -/
def hasJoined (s : Running μ) : Bool :=
  match s.accepting with
  | .absent | .ended | .crashed => true
  | _ => false

/-- What the server has written to a socket. -/
def written (s : Running μ) (socket : SocketId) : List Protocol.ServerMessage :=
  (s.shared.socket socket).outgoing

/-- Whether the connection over a socket is at its end. -/
def isOver (s : Running μ) (socket : SocketId) : Bool :=
  s.loops.any fun l => l.socket == socket && l.isEnded

variable [Device.DeviceModule μ]

/-- The next step of stopping a server: raise the flag, tell the accepting thread to stop, tell
every connection to close, close every session, wait for the threads, and close the modules. -/
def stop (env : Environment) : Action (Running μ) Unit := do
  let s ← Action.get
  let goTo (stopping : Stopping) : Action (Running μ) Unit := Action.modify ({ · with stopping })
  match s.stopping with
  | .idle =>
    onShared (Action.modify ({ · with isShuttingDown := true }))
    goTo .halting
  | .halting =>
    Action.modify ({ · with isHalting := true })
    goTo .disconnecting
  | .disconnecting => goTo (.draining (← onShared Shared.closeAllConnections))
  | .draining connections =>
    match ← onShared (Shared.changeSessions (·.detachAll)) with
    | [] => goTo (.joining connections 0)
    | session :: rest => goTo (.closing connections (rest.length + 1) (.mark session) rest)
  | .closing connections sessions .done [] => goTo (.joining connections sessions)
  | .closing connections sessions .done (session :: rest) =>
    goTo (.closing connections sessions (.mark session) rest)
  | .closing connections sessions current rest =>
    goTo (.closing connections sessions (← onShared current.step) rest)
  | .joining connections sessions =>
    if s.hasJoined then goTo (.unloading connections sessions)
  | .unloading connections sessions =>
    let entries ← onModules Device.Registry.takeAll
    goTo (.closingModules connections sessions entries.length entries.reverse)
  | .closingModules connections sessions modules [] =>
    Action.log .info .server "server stopped"
      [("connections", .ofNat connections), ("sessions", .ofNat sessions),
        ("modules", .ofNat modules)]
    goTo .stopped
  | .closingModules connections sessions modules (e :: rest) =>
    match ← onModules (Device.Registry.close env e) with
    | .crashed => goTo .crashed
    | .returned () => goTo (.closingModules connections sessions modules rest)
  | .stopped | .crashed => return ()

/-- The next step of the loop of a connection. -/
def moveLoop (env : Environment) (index size : Nat) : Action (Running μ) Unit := do
  match (← Action.get).loops[index]? with
  | none => return ()
  | some l =>
    let l ← onShared (l.step env size)
    Action.modify fun s => { s with loops := s.loops.set index l }

/-- Makes a move. -/
def step (env : Environment) : Move → Action (Running μ) Unit
  | .connect => do
    let _ ← connect
  | .send socket bytes =>
    onShared (Shared.changeSocket socket fun s =>
      if s.inputEnded then s else { s with incoming := s.incoming ++ bytes })
  | .hangUp socket => onShared (Shared.changeSocket socket ({ · with inputEnded := true }))
  | .breakDown socket detail =>
    onShared (Shared.changeSocket socket ({ · with fault := some detail }))
  | .publish event => onShared (Shared.changeBus (·.publish event))
  | .accept => accept env
  | .crashAccepting => crashAccepting
  | .loop index size => moveLoop env index size
  | .deliver delivery => onShared (Shared.deliver env.now delivery)
  | .stop => stop env

/-- Makes moves one after the other, each in its own surroundings. -/
def run : List (Environment × Move) → Action (Running μ) Unit
  | [] => pure ()
  | (env, move) :: rest => do
    step env move
    run rest

omit [Device.DeviceModule μ] in
/-- Whether the accepting thread would only go round and wait. -/
def isAcceptingIdle (s : Running μ) : Bool :=
  match s.accepting with
  | .absent | .ended | .crashed => true
  | .checking | .accepting => s.backlog.isEmpty && !s.isHalting
  | .cleaning => false
  | .joining => !s.loops.all (·.isEnded)

omit [Device.DeviceModule μ] in
/-- Whether nobody stops the server, or whoever does would only wait. -/
def isStoppingIdle (s : Running μ) : Bool :=
  match s.stopping with
  | .idle | .stopped | .crashed => true
  | .closing _ _ (.join delivery) _ => !s.shared.isFinished delivery
  | .joining _ _ => !s.hasJoined
  | _ => false

omit [Device.DeviceModule μ] in
/-- The deliveries that can move. -/
def readyDelivery? (s : Running μ) (now : Time.Instant) : Option Nat :=
  s.shared.deliveries.findIdx? fun d => !d.isWaiting now (s.shared.waiting d)

omit [Device.DeviceModule μ] in
/-- Whether a loop can move. -/
def isLoopReady (s : Running μ) (index : Nat) : Bool :=
  s.loops[index]?.any fun l => !l.isWaiting s.shared

omit [Device.DeviceModule μ] in
/-- All that peers have sent and nobody has read. -/
def unread (s : Running μ) : Nat :=
  (s.shared.sockets.map (·.incoming.length)).foldl (· + ·) 0

/-- A move of a thread that does not wait. Deliveries come first, then whoever stops the server,
then the loop that has moved last, then the accepting thread, then the other loops. -/
def next? (s : Running μ) (now : Time.Instant) (last : Nat) : Option Move :=
  match s.readyDelivery? now with
  | some index => some (.deliver ⟨index⟩)
  | none =>
    if !s.isStoppingIdle then some .stop
    else if s.isLoopReady last then some (.loop last (s.unread + 1))
    else if !s.isAcceptingIdle then some .accept
    else
      ((List.range s.loops.length).find? s.isLoopReady).map fun index =>
        .loop index (s.unread + 1)

/-- Lets the threads move until all of them wait, at most `fuel` times. -/
def settleWithin (env : Environment) (last : Nat) : Nat → Action (Running μ) Unit
  | 0 => pure ()
  | fuel + 1 => do
    match next? (← Action.get) env.now last with
    | none => pure ()
    | some move =>
      step env move
      settleWithin env
        (match move with
          | .loop index _ => index
          | _ => last) fuel

omit [Device.DeviceModule μ] in
/-- How many moves suffice until all threads wait: a number for every byte that is still to be read
and every event that is still to be delivered, times the parts of the server. -/
def effort (s : Running μ) : Nat :=
  let bytes := s.unread + (s.loops.map (·.reader.buffer.length)).foldl (· + ·) 0
  let bus := s.shared.modules.bus
  let events := bus.history.length + (bus.subscribers.map (·.queue.length)).foldl (· + ·) 0 +
    (s.shared.deliveries.map (·.replay.length)).foldl (· + ·) 0
  let parts := s.loops.length + s.backlog.length + s.shared.deliveries.length +
    s.shared.sessions.records.length + s.shared.modules.entries.length
  let weight := bytes + events + 8
  64 * (weight * weight) * (parts + 8)

/-- Lets the threads move until all of them wait. -/
def settle (env : Environment) : Action (Running μ) Unit := do
  settleWithin env 0 (effort (← Action.get))

/-- Begins to stop the server, and lets the threads move until it is stopped. -/
def shutdown (env : Environment) :
    Action (Running μ) (Device.Outcome (Except Connection.ListenerError Unit)) := do
  stop env
  settle env
  let s ← Action.get
  match s.stopping with
  | .crashed => return .crashed
  | _ =>
    if s.accepting = .crashed then return .returned (.error .threadPanic)
    else return .returned (.ok ())

end Running

end ManagementServer.Server
