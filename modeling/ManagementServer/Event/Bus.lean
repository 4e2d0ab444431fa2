import ManagementServer.Event.Notification

/-!
# The notification bus

Whoever subscribes gets every event that is published from then on, each once and in order. The bus
keeps the latest events, and a subscriber can have those of a span of time replayed
(`Bus.subscribe`).
-/

namespace ManagementServer.Event

/-- A subscriber, with the events that it has not received yet. -/
structure Subscriber where
  id : Nat
  queue : List Notification
  deriving Repr, Inhabited

/-- A bus: its subscribers, the events that it keeps, how many it may keep, and the next
subscriber's number. -/
structure Bus where
  subscribers : List Subscriber
  history : List Notification
  capacity : Nat
  nextId : Nat
  deriving Repr, Inhabited

/-- How many events a bus keeps where nothing else is said. -/
def defaultCapacity : Nat := 256

/-- Subscribers are numbered modulo this. -/
def subscriberBound : Nat := 0x10000000000000000

namespace Bus

/-- A bus on which nothing has happened. -/
def ofCapacity (capacity : Nat) : Bus := ⟨[], [], capacity, 0⟩

/-- Events with one more, of which at most `capacity` are kept. -/
def remember (capacity : Nat) (history : List Notification) (n : Notification) :
    List Notification :=
  if capacity == 0 then []
  else (if history.length == capacity then history.drop 1 else history) ++ [n]

/-- Publishes an event. -/
def publish (b : Bus) (n : Notification) : Bus :=
  { b with
    subscribers := b.subscribers.map fun s => { s with queue := s.queue ++ [n] }
    history := remember b.capacity b.history n }

/-- How many subscribers an event reaches. -/
def reach (b : Bus) : Nat :=
  b.subscribers.length

/-- The kept events of a span of time; none without a start. -/
def replay (b : Bus) (start stop : Option Time.Timestamp) : List Notification :=
  match start with
  | none => []
  | some first =>
    b.history.filter fun n =>
      first.instant ≤ n.time.instant && stop.all fun last => n.time.instant ≤ last.instant

/-- Subscribes. Returns the subscriber's number and the kept events of a span of time. -/
def subscribe (b : Bus) (start stop : Option Time.Timestamp) :
    Bus × Nat × List Notification :=
  ({ b with
      subscribers := b.subscribers ++ [⟨b.nextId, []⟩]
      nextId := (b.nextId + 1) % subscriberBound },
    b.nextId, b.replay start stop)

/-- Ends a subscription. -/
def unsubscribe (b : Bus) (id : Nat) : Bus :=
  { b with subscribers := b.subscribers.filter (·.id != id) }

/-- What a subscriber has not received yet. -/
def pending (b : Bus) (id : Nat) : List Notification :=
  match b.subscribers.find? (·.id == id) with
  | some s => s.queue
  | none => []

/-- The bus after a subscriber has received its next event. -/
def advance (b : Bus) (id : Nat) : Bus :=
  { b with
    subscribers := b.subscribers.map fun s =>
      if s.id == id then { s with queue := s.queue.drop 1 } else s }

/-- Receives the next event of a subscriber. -/
def receive (b : Bus) (id : Nat) : Bus × Option Notification :=
  match b.pending id with
  | [] => (b, none)
  | n :: _ => (b.advance id, some n)

/-- Receives all that waits for a subscriber. -/
def receiveAll (b : Bus) (id : Nat) : Bus × List Notification :=
  ({ b with
      subscribers := b.subscribers.map fun s => if s.id == id then { s with queue := [] } else s },
    b.pending id)

end Bus

end ManagementServer.Event
