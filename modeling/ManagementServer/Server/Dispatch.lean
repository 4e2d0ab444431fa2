import ManagementServer.Server.Route
import ManagementServer.Server.Shared

/-!
# Answering requests

How a request of a session is answered, step by step. Between two steps other threads may do
anything; each step by itself cannot be interrupted. `Dispatch.step` makes the next step and
`dispatch` makes them all in a row.

The modules that may be asked are asked in the order of their registration, up to and including the
first that answers with an error. To the answer to `get` each module's state is added.
-/

namespace ManagementServer.Server

open Session (DeliveryRef)

/-- The answer to a request, whether the connection is to close behind it, and the delivery that
starts once it is sent. -/
structure Dispatched where
  reply : Rpc.Reply
  closes : Bool
  gate : Option DeliveryRef
  deriving Repr, Inhabited

namespace Dispatched

/-- An answer behind which nothing happens. -/
def ofReply (reply : Rpc.Reply) : Dispatched := ⟨reply, false, none⟩

/-- An error. -/
def ofError (e : Rpc.Error) : Dispatched := ofReply (.error e)

end Dispatched

/-- How a connection is closed. -/
abbrev Closer (μ : Type) :=
  ConnectionId → CloseMode → Action (Shared μ) (Except Connection.TransportFault Unit)

namespace Dispatch

/-- What closing a connection came to. -/
abbrev Closed := Except Connection.TransportFault Unit

/-- Where a request stands. -/
inductive Stage where
  | routing
  | markOwn
  | closeOwn
  | killLookup (target : String)
  | killMark (target : Session.Ref)
  | killClose (target : Session.Ref)
  | killRemove (target : Session.Ref) (closed : Closed)
  | killEnd (target : Session.Ref) (closed : Closed) (closing : Closing)
  | checkSubscription
  | readWindow
  | subscribe (window : Event.Window)
  | attach (delivery : DeliveryRef)
  | reject (delivery : DeliveryRef)
  | awaitRejected (delivery : DeliveryRef)
  | select
  | execute (rest : List Device.Entry) (sum : Option Rpc.Reply)
  | readState (module : Device.Entry) (reply : Rpc.Reply) (rest : List Device.Entry)
    (sum : Option Rpc.Reply)
  | done (outcome : Dispatched)

/-- The error for a session that has a subscription already. -/
def alreadySubscribed : Rpc.Error :=
  .plain .alreadySubscribed "session already has an active subscription"

/-- The reply for a connection that was or was not closed. -/
def replyOfClosed : Closed → Rpc.Reply
  | .ok () => .ok
  | .error fault => .error (.failed fault.message)

/-- The first stage behind the route. -/
def start (s : Session.Record) (request : Protocol.Request) : Route → Stage
  | .closeSession => .markOwn
  | .killSession =>
    match killTarget request.payload with
    | .error e => .done (.ofError e)
    | .ok target => if target == s.id then .markOwn else .killLookup target
  | .subscribe =>
    if s.context.capabilities.contains Capability.notification then .checkSubscription
    else
      .done (.ofError (.notSupported "session did not negotiate the notification capability"))
  | .device => .select
  | .rejected kind =>
    .done (.ofError (.failed s!"'{request.operationName}' is not a {kind.name} operation"))

/-- The stage behind one module's outcome: an error ends the request. -/
def conclude (s : Session.Record) (request : Protocol.Request) (module : Device.Entry)
    (outcome : Rpc.Reply) (rest : List Device.Entry) (sum : Option Rpc.Reply) {μ : Type} :
    Action (Shared μ) Stage := do
  if outcome.isError then
    Action.log .debug .dispatch "module failed; skipping remaining modules"
      [("session", .string s.id), ("module", .string module.name),
        ("operation", .string request.operationName)]
    return .done (.ofReply outcome)
  else
    return .execute rest (some (match sum with
      | some earlier => earlier.merge outcome
      | none => outcome))

/-- A module's outcome for `get`: its reply with its state, which counts only if it can be had. -/
def withState (reply : Rpc.Reply) : Except Device.ModuleError Json → Rpc.Reply
  | .ok .null => reply
  | .ok state => reply.merge (.data state)
  | .error e => .error (.failed e.message)

variable {μ : Type} [Device.DeviceModule μ]

/-- The next step of a request of a session. -/
def step (env : Environment) (close : Closer μ) (socket : SocketId) (session : Session.Ref)
    (request : Protocol.Request) (stage : Stage) : Action (Shared μ) Stage := do
  let s ← Action.view (·.sessions.record session)
  match stage with
  | .routing =>
    let route := Route.ofRequest request
    Action.log .debug .dispatch "dispatching request"
      [("session", .string s.id), ("operation", .string request.operationName),
        ("route", .string route.label)]
    return start s request route
  | .markOwn =>
    Shared.changeSessions fun r => (r.markTerminating session, ())
    return .closeOwn
  | .closeOwn =>
    let closed ← close s.connection .afterReply
    Action.log .info .dispatch "session closing" [("session", .string s.id)]
    return .done ⟨replyOfClosed closed, true, none⟩
  | .killLookup target =>
    match ← Action.view (·.sessions.getById target) with
    | .ok found => return .killMark found
    | .error e => return .done (.ofError (.failed e.message))
  | .killMark target =>
    Shared.changeSessions fun r => (r.markTerminating target, ())
    return .killClose target
  | .killClose target =>
    let closed ← close (← Action.view (·.sessions.record target)).connection .immediate
    return .killRemove target closed
  | .killRemove target closed =>
    if ← Shared.changeSessions (·.detachRef target) then
      return .killEnd target closed (.mark target)
    else
      Action.log .debug .dispatch "killed session was already removed"
        [("killed", .string (← Action.view (·.sessions.record target)).id)]
      return .killEnd target closed .done
  | .killEnd target closed .done =>
    Action.log .info .dispatch "session killed"
      [("session", .string s.id),
        ("killed", .string (← Action.view (·.sessions.record target)).id)]
    return .done (.ofReply (replyOfClosed closed))
  | .killEnd target closed closing =>
    let next ← closing.step
    if next = .done then
      Action.log .debug .sessions "session removed"
        [("session", .string (← Action.view (·.sessions.record target)).id)]
    return .killEnd target closed next
  | .checkSubscription =>
    let shared ← Action.get
    if s.subscription.all shared.isFinished then return .readWindow
    else return .done (.ofError alreadySubscribed)
  | .readWindow =>
    match Event.Window.ofPayload request.payload env.now with
    | .ok window => return .subscribe window
    | .error fault => return .done (.ofError fault.toError)
  | .subscribe window =>
    let (bus, subscriber, replay) ←
      Action.view (·.modules.bus.subscribe window.start window.stop)
    match env.threadFault with
    | some detail =>
      Shared.changeBus fun _ => bus.unsubscribe subscriber
      return .done (.ofError (.failed s!"failed to start notification delivery: {detail}"))
    | none =>
      let delivery : DeliveryRef := ⟨(← Action.get).deliveries.length⟩
      Shared.changeBus fun _ => bus
      Action.modify fun shared =>
        { shared with
          deliveries := shared.deliveries ++ [.start s.id socket window subscriber replay] }
      return .attach delivery
  | .attach delivery =>
    let shared ← Action.get
    if ← Shared.changeSessions (·.attach session delivery shared.isFinished) then
      Action.log .debug .dispatch "subscription started" [("session", .string s.id)]
      return .done ⟨.ok, false, some delivery⟩
    else return .reject delivery
  | .reject delivery =>
    Shared.setGate delivery .dropped
    Shared.cancel delivery
    return .awaitRejected delivery
  | .awaitRejected delivery =>
    if (← Action.get).isFinished delivery then return .done (.ofError alreadySubscribed)
    else return .awaitRejected delivery
  | .select =>
    match ← Action.view (·.modules.matching request.operationName s.context.capabilities) with
    | [] =>
      return .done (.ofError (.notSupported
        s!"no module supports '{request.operationName}' for this session"))
    | found => return .execute found none
  | .execute [] sum => return .done (.ofReply (sum.getD .ok))
  | .execute (module :: rest) sum =>
    let reply ← Shared.onModules
      (Device.Registry.execute env module s.context request.operationName request.payload)
    if request.operationName == Route.getName && !reply.isError then
      return .readState module reply rest sum
    else conclude s request module reply rest sum
  | .readState module reply rest sum =>
    let outcome := withState reply (← Shared.onModules (Device.Registry.stateData env module))
    conclude s request module outcome rest sum
  | .done outcome => return .done outcome

/-- The delivery whose end a stage waits for. -/
def Stage.awaited? : Stage → Option DeliveryRef
  | .killEnd _ _ (.join delivery) => some delivery
  | .awaitRejected delivery => some delivery
  | _ => none

/-- Makes up to `fuel` steps in a row. Where a delivery's end is waited for, the delivery moves. -/
def run (env : Environment) (close : Closer μ) (socket : SocketId) (session : Session.Ref)
    (request : Protocol.Request) : Nat → Stage → Action (Shared μ) Dispatched
  | _, .done outcome => pure outcome
  | 0, _ => pure (.ofReply .ok)
  | fuel + 1, stage => do
    match stage.awaited? with
    | some delivery => Shared.deliver env.now delivery
    | none => pure ()
    run env close socket session request fuel (← step env close socket session request stage)

/-- How many steps suffice for a request: two for each module, one for each event that is still to
be replayed, and some for the rest. -/
def enough (s : Shared μ) : Nat :=
  2 * s.modules.entries.length + (s.deliveries.map (·.replay.length)).foldl (· + ·) 0 + 64

end Dispatch

/-- Answers a request, with nothing happening in between. -/
def dispatch {μ : Type} [Device.DeviceModule μ] (env : Environment) (close : Closer μ)
    (socket : SocketId) (session : Session.Ref) (request : Protocol.Request) :
    Action (Shared μ) Dispatched := do
  let fuel ← Action.view Dispatch.enough
  Dispatch.run env close socket session request fuel .routing

end ManagementServer.Server
