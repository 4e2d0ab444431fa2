import ManagementServer.Connection.Table
import ManagementServer.Device.Registry
import ManagementServer.Event.Delivery
import ManagementServer.Session.Registry

/-!
# What the threads of a server share

Sessions, modules with their bus, deliveries, the table of connections, and the sockets. Every
action of this module is one step that no other thread can interrupt.
-/

namespace ManagementServer.Server

open Session (DeliveryRef)

/-- The state that the threads of a server share. -/
structure Shared (μ : Type) where
  sessions : Session.Registry
  modules : Device.Registry μ
  deliveries : List Event.Delivery
  table : Connection.Table
  sockets : List Connection.Socket
  isShuttingDown : Bool

namespace Shared

variable {μ α : Type}

/-- The state of a server with the given modules and nobody connected. -/
def ofModules (modules : Device.Registry μ) : Shared μ :=
  ⟨.empty, modules, [], .empty, [], false⟩

/-- Acts on the sessions. -/
def onSessions (x : Action Session.Registry α) : Action (Shared μ) α :=
  Action.zoom (·.sessions) (fun sessions s => { s with sessions }) x

/-- Acts on the modules. -/
def onModules (x : Action (Device.Registry μ) α) : Action (Shared μ) α :=
  Action.zoom (·.modules) (fun modules s => { s with modules }) x

/-- Changes the sessions and looks something up in them. -/
def changeSessions (f : Session.Registry → Session.Registry × α) : Action (Shared μ) α :=
  fun s =>
    let r := f s.sessions
    ⟨r.2, { s with sessions := r.1 }, []⟩

/-- Changes the bus. -/
def changeBus (f : Event.Bus → Event.Bus) : Action (Shared μ) Unit :=
  Action.modify fun s => { s with modules := { s.modules with bus := f s.modules.bus } }

/-- Changes a socket. -/
def changeSocket (id : SocketId) (f : Connection.Socket → Connection.Socket) :
    Action (Shared μ) Unit :=
  Action.modify fun s => { s with sockets := s.sockets.modify id.number f }

/-- The socket of a number. -/
def socket (id : SocketId) (s : Shared μ) : Connection.Socket :=
  s.sockets[id.number]?.getD .fresh

/-- Writes a message to a socket. -/
def write (id : SocketId) (message : Protocol.ServerMessage) :
    Action (Shared μ) (Except Protocol.Fault Unit) := do
  match (← Action.view (socket id)).writeFault? with
  | some detail => return .error (.io detail)
  | none =>
    changeSocket id fun s => { s with outgoing := s.outgoing ++ [message] }
    return .ok ()

/-- Reads at most `size` bytes from a socket. -/
def read (id : SocketId) (size : Nat) : Action (Shared μ) Connection.Reading := do
  let (socket, reading) ← Action.view fun s => (s.socket id).read size
  changeSocket id fun _ => socket
  return reading

/-- Shuts a socket down. -/
def shut (id : SocketId) : Action (Shared μ) Unit :=
  changeSocket id fun s => { s with isShut := true }

/-- Tells an open connection to close. The socket of a broken one cannot be shut down. -/
def closeConnection (id : ConnectionId) (mode : CloseMode) :
    Action (Shared μ) (Except Connection.TransportFault Unit) := do
  match (← Action.get).table.find? id with
  | none => return .error (.unknownConnection id)
  | some link =>
    Action.modify fun s => { s with table := s.table.flag id }
    match mode with
    | .afterReply => return .ok ()
    | .immediate =>
      match (← Action.view (socket link.socket)).fault with
      | some detail => return .error (.shutdown id detail)
      | none =>
        shut link.socket
        return .ok ()

/-- Tells every open connection to close, at once. Returns their number. -/
def closeAllConnections : Action (Shared μ) Nat := do
  let links ← Action.view (·.table.links)
  Action.modify fun s =>
    { s with
      table := s.table.flagAll
      sockets := links.foldl
        (fun acc link => acc.modify link.socket.number fun s => { s with isShut := true })
        s.sockets }
  return links.length

/-- A delivery. -/
def delivery? (ref : DeliveryRef) (s : Shared μ) : Option Event.Delivery :=
  s.deliveries[ref.number]?

/-- Changes a delivery. -/
def changeDelivery (ref : DeliveryRef) (f : Event.Delivery → Event.Delivery) :
    Action (Shared μ) Unit :=
  Action.modify fun s => { s with deliveries := s.deliveries.modify ref.number f }

/-- Whether a delivery is at its end. -/
def isFinished (s : Shared μ) (ref : DeliveryRef) : Bool :=
  (s.delivery? ref).all (·.isFinished)

/-- Whether a session has a subscription that is not finished. -/
def isSubscribed (s : Shared μ) (session : Session.Ref) : Bool :=
  !(s.sessions.record session).subscription.all s.isFinished

/-- The event that waits for a delivery. -/
def waiting (s : Shared μ) (d : Event.Delivery) : Option Event.Notification :=
  (s.modules.bus.pending d.subscriber).head?

/-- Lets a delivery do what it does next. -/
def deliver (now : Time.Instant) (ref : DeliveryRef) : Action (Shared μ) Unit := do
  let s ← Action.get
  match s.delivery? ref with
  | none => return ()
  | some d =>
    match d.move now (s.waiting d) with
    | .rest => return ()
    | .go stage => changeDelivery ref (·.goTo stage)
    | .receive stage => do
      changeBus (·.advance d.subscriber)
      changeDelivery ref (·.goTo stage)
    | .write message stage =>
      match ← write d.socket message with
      | .ok () => changeDelivery ref (·.goTo stage)
      | .error _ => changeDelivery ref (·.goTo .leaving)
    | .unsubscribe => do
      changeBus (·.unsubscribe d.subscriber)
      changeDelivery ref (·.goTo .ended)

/-- Cancels a delivery. -/
def cancel (ref : DeliveryRef) : Action (Shared μ) Unit :=
  changeDelivery ref fun d => { d with isCancelled := true }

/-- Tells a delivery whether its request has been answered. -/
def setGate (ref : DeliveryRef) (gate : Event.Gate) : Action (Shared μ) Unit :=
  changeDelivery ref fun d => { d with gate }

/-- Drops the answer that a delivery waits for, and lets the delivery come to its end, which takes
three moves. -/
def dropAnswer (now : Time.Instant) (ref : DeliveryRef) : Action (Shared μ) Unit := do
  setGate ref .dropped
  for _ in List.range 3 do deliver now ref

end Shared

/-- What is left to do to close a session that was taken out of the registry: mark it, take its
subscription away, cancel that, and wait for its end. -/
inductive Closing where
  | mark (session : Session.Ref)
  | take (session : Session.Ref)
  | cancel (delivery : DeliveryRef)
  | join (delivery : DeliveryRef)
  | done
  deriving DecidableEq, Repr, Inhabited

namespace Closing

variable {μ : Type}

/-- The next step. Waiting for a delivery that has not ended changes nothing. -/
def step : Closing → Action (Shared μ) Closing
  | .mark session => do
    Shared.changeSessions fun r => (r.markClosed session, ())
    return .take session
  | .take session => do
    match ← Shared.changeSessions (·.takeSubscription session) with
    | some delivery => return .cancel delivery
    | none => return .done
  | .cancel delivery => do
    Shared.cancel delivery
    return .join delivery
  | .join delivery => do
    if (← Action.get).isFinished delivery then return .done else return .join delivery
  | .done => return .done

end Closing

end ManagementServer.Server
