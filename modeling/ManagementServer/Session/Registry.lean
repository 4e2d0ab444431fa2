import ManagementServer.Journal
import ManagementServer.Text.Quoted

/-!
# The session registry

Every session that was ever registered has a record, and a record is known by its number, so that a
session and a later one of the same id are told apart. The sessions that are registered now can be
found by id and by connection. A connection carries at most one of them.
-/

namespace ManagementServer

namespace Session

/-- The number of a record. -/
structure Ref where
  number : Nat
  deriving DecidableEq, Repr, Inhabited

/-- The number of a delivery of notifications. -/
structure DeliveryRef where
  number : Nat
  deriving DecidableEq, Repr, Inhabited

/-- A session. -/
structure Record where
  connection : ConnectionId
  context : SessionContext
  status : SessionStatus
  subscription : Option DeliveryRef
  deriving DecidableEq, Repr, Inhabited

/-- The id of a session. -/
def Record.id (s : Record) : String := s.context.sessionId

/-- The sessions of a server. -/
structure Registry where
  records : List Record
  byId : List (String × Ref)
  byConnection : List (ConnectionId × String)
  deriving Repr, Inhabited

namespace Registry

/-- No session was ever registered. -/
def empty : Registry := ⟨[], [], []⟩

/-- The record of a number. -/
def record? (r : Registry) (ref : Ref) : Option Record := r.records[ref.number]?

/-- The record of a number; there is one for every number that was handed out. -/
def record (r : Registry) (ref : Ref) : Record := (r.record? ref).getD default

/-- Changes a record. -/
def update (ref : Ref) (f : Record → Record) (r : Registry) : Registry :=
  { r with records := r.records.modify ref.number f }

/-- Adds a registration in the order of ids. -/
def insertSorted (id : String) (ref : Ref) : List (String × Ref) → List (String × Ref)
  | [] => [(id, ref)]
  | (i, s) :: rest =>
    if id < i then (id, ref) :: (i, s) :: rest else (i, s) :: insertSorted id ref rest

/-- The session registered under an id. -/
def getById (r : Registry) (id : String) : Except SessionError Ref :=
  match r.byId.lookup id with
  | some ref => .ok ref
  | none => .error (.notFound id)

/-- The session registered for a connection. -/
def getByConnection (r : Registry) (connection : ConnectionId) : Except SessionError Ref :=
  match r.byConnection.lookup connection >>= fun id => r.byId.lookup id with
  | some ref => .ok ref
  | none => .error (.notFound s!"<connection {connection.text}>")

/-- The registered sessions, in the order of their ids. -/
def list (r : Registry) : List Ref := r.byId.map (·.2)

/-- Why a session cannot be registered. -/
def conflict? (r : Registry) (id : String) (connection : ConnectionId) : Option SessionError :=
  if Text.isBlank id then some .blankId
  else if (r.byId.lookup id).isSome then some (.duplicateSession id)
  else (r.byConnection.lookup connection).map (.connectionInUse connection ·)

/-- Registers a session. -/
def add (id username : String) (capabilities : CapabilitySet) (connection : ConnectionId) :
    Action Registry (Except SessionError Ref) := do
  match (← Action.get).conflict? id connection with
  | some error => return .error error
  | none =>
    let ref ← Action.view fun r => (⟨r.records.length⟩ : Ref)
    Action.modify fun r =>
      { records := r.records ++ [⟨connection, ⟨id, username, capabilities⟩, .active, none⟩]
        byId := insertSorted id ref r.byId
        byConnection := (connection, id) :: r.byConnection }
    Action.log .debug .sessions "session registered"
      [("session", .string id), ("username", .string username),
        ("conn_id", .string connection.text)]
    return .ok ref

/-- Takes a session out of the registry. -/
def detach (id : String) (connection : ConnectionId) (r : Registry) : Registry :=
  { r with
    byId := r.byId.filter (·.1 != id)
    byConnection := r.byConnection.filter (·.1 != connection) }

/-- Takes whichever session is registered under an id out of the registry. -/
def detachId (id : String) (r : Registry) : Registry × Option Ref :=
  match r.byId.lookup id with
  | none => (r, none)
  | some ref => (r.detach id (r.record ref).connection, some ref)

/-- Takes a session out of the registry, if it is the one registered under its id. -/
def detachRef (ref : Ref) (r : Registry) : Registry × Bool :=
  let s := r.record ref
  if r.byId.lookup s.id == some ref then (r.detach s.id s.connection, true) else (r, false)

/-- Takes every session out of the registry. -/
def detachAll (r : Registry) : Registry × List Ref :=
  ({ r with byId := [], byConnection := [] }, r.list)

/-- Tells a session to end, if it is active. -/
def markTerminating (ref : Ref) (r : Registry) : Registry :=
  r.update ref fun s => { s with status := s.status.terminate }

/-- Marks a session as closed. -/
def markClosed (ref : Ref) (r : Registry) : Registry :=
  r.update ref fun s => { s with status := .closed }

/-- Takes the subscription of a session away from it. -/
def takeSubscription (ref : Ref) (r : Registry) : Registry × Option DeliveryRef :=
  (r.update ref fun s => { s with subscription := none }, (r.record ref).subscription)

/-- Gives a session a subscription; refused while it has one that is not finished. -/
def attach (ref : Ref) (delivery : DeliveryRef) (isFinished : DeliveryRef → Bool)
    (r : Registry) : Registry × Bool :=
  if (r.record ref).subscription.all isFinished then
    (r.update ref fun s => { s with subscription := some delivery }, true)
  else (r, false)

/-- How the registry is shown in debugging texts. -/
def debugText (r : Registry) : String :=
  s!"SessionRegistry \x7b sessions: {r.byId.length} \x7d"

end Registry

/-- How a session is shown in debugging texts. -/
def Record.debugText (s : Record) : String :=
  "Session \x7b id: " ++ Text.Quoted.quote s.id ++
    s!", conn_id: ConnectionId({s.connection.number}), username: " ++
    Text.Quoted.quote s.context.username ++ s!", status: {s.status.label}, .. \x7d"

/-- A session as operators see it. -/
def Record.encode (s : Record) : Json :=
  .ofMembers [("id", .string s.id), ("user", .string s.context.username),
    ("conn", .string s.connection.text), ("status", .string s.status.name),
    ("active", .bool (s.status == .active)), ("capabilities", s.context.capabilities.encode),
    ("context", .texts [s.context.sessionId, s.context.username])]

end Session

end ManagementServer
