import ManagementServer.Event.Bus
import ManagementServer.Event.Window
import ManagementServer.Protocol.Answer
import ManagementServer.Session.Basic

/-!
# Delivering notifications

A subscription is served by a task of its own. It waits until the request that made it has been
answered, sends the events that are replayed, says that the replay is complete, and then sends what
the bus brings, until it is cancelled, its span of time is over, or nothing can be written.

Main definition: `Delivery.move`, what a task does next.
-/

namespace ManagementServer.Event

/-- The event that ends a replay. -/
def replayComplete : String := "replay-complete"

/-- The event that ends a subscription. -/
def notificationComplete : String := "notification-complete"

/-- Whether the request that made a subscription has been answered. -/
inductive Gate where
  | waiting
  | opened
  | dropped
  deriving DecidableEq, Repr, Inhabited

/-- Where a task stands. -/
inductive Stage where
  | awaiting
  | atGate
  | replaying (rest : List Notification)
  | announcing
  | checking
  | timing
  | receiving
  | sending (event : Notification)
  | completing
  | leaving
  | ended
  deriving Repr, Inhabited

/-- A task that delivers notifications to a session over its socket. -/
structure Delivery where
  sessionId : String
  socket : SocketId
  window : Window
  replay : List Notification
  subscriber : Nat
  isCancelled : Bool
  gate : Gate
  stage : Stage
  deriving Repr, Inhabited

/-- What a task does next. `write` goes on to the stage if the message can be written, and else
leaves. -/
inductive Move where
  | go (stage : Stage)
  | receive (stage : Stage)
  | write (message : Protocol.ServerMessage) (stage : Stage)
  | unsubscribe
  | rest
  deriving Repr

namespace Delivery

/-- A task for a subscriber, before its request has been answered. -/
def start (sessionId : String) (socket : SocketId) (window : Window) (subscriber : Nat)
    (replay : List Notification) : Delivery :=
  ⟨sessionId, socket, window, replay, subscriber, false, .waiting, .awaiting⟩

/-- Whether a task is at its end. -/
def isFinished (d : Delivery) : Bool :=
  match d.stage with
  | .ended => true
  | _ => false

/-- Sends an event, unless its time cannot be written. -/
def send (d : Delivery) (n : Notification) (next : Stage) : Move :=
  match Protocol.ServerMessage.ofNotification? d.sessionId n with
  | some message => .write message next
  | none => .go .leaving

/-- What a task does next, given the time and the event that waits for it. -/
def move (d : Delivery) (now : Time.Instant) (waiting : Option Notification) : Move :=
  match d.stage with
  | .awaiting => .go (if d.isCancelled then .leaving else .atGate)
  | .atGate =>
    match d.gate with
    | .waiting => .go .awaiting
    | .opened => .go (.replaying d.replay)
    | .dropped => .go .leaving
  | .replaying [] => .go (if d.window.start.isSome then .announcing else .checking)
  | .replaying (n :: rest) => d.send n (.replaying rest)
  | .announcing => d.send (.at now replayComplete .null) .checking
  | .checking => .go (if d.isCancelled then .leaving else .timing)
  | .timing => .go (if d.window.isOver now then .completing else .receiving)
  | .receiving =>
    match waiting with
    | none => .go .checking
    | some n => .receive (if d.window.admits n then .sending n else .checking)
  | .sending n => d.send n .checking
  | .completing => d.send (.at now notificationComplete .null) .leaving
  | .leaving => .unsubscribe
  | .ended => .rest

/-- Whether a task would only go round and wait. -/
def isWaiting (d : Delivery) (now : Time.Instant) (waiting : Option Notification) : Bool :=
  match d.stage with
  | .awaiting => !d.isCancelled && d.gate == .waiting
  | .atGate => !d.isCancelled && d.gate == .waiting
  | .checking | .timing | .receiving =>
    !d.isCancelled && waiting.isNone && !d.window.isOver now
  | .ended => true
  | _ => false

/-- The task at another stage. -/
def goTo (d : Delivery) (stage : Stage) : Delivery := { d with stage }

end Delivery

end ManagementServer.Event
