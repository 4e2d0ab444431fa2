import ManagementServer.Rpc.Error
import ManagementServer.Session.Context

/-!
# Sessions

A session, the connection that carries it, and the way of its status.
-/

namespace ManagementServer

/-- The number of a connection. -/
structure ConnectionId where
  number : Nat
  deriving DecidableEq, Repr, Inhabited

/-- How a connection is shown. -/
def ConnectionId.text (c : ConnectionId) : String := s!"c{c.number}"

/-- The number of a socket, which a connection has from the moment it is accepted. -/
structure SocketId where
  number : Nat
  deriving DecidableEq, Repr, Inhabited

/-- How far a session has come. It only ever moves on. -/
inductive SessionStatus where
  | active
  | terminating
  | closed
  deriving DecidableEq, Repr, Inhabited

namespace SessionStatus

/-- The name of a status. -/
def name : SessionStatus → String
  | .active => "active"
  | .terminating => "terminating"
  | .closed => "closed"

/-- How a status is shown in debugging texts. -/
def label : SessionStatus → String
  | .active => "Active"
  | .terminating => "Terminating"
  | .closed => "Closed"

/-- The status of a session that is told to end. -/
def terminate : SessionStatus → SessionStatus
  | .active => .terminating
  | other => other

end SessionStatus

/-- Why a connection's loop ended. -/
inductive ExitReason where
  | hangUp
  | closed
  | shutdown
  | failed
  deriving DecidableEq, Repr, Inhabited

/-- The name of a reason. -/
def ExitReason.name : ExitReason → String
  | .hangUp => "hang-up"
  | .closed => "closed"
  | .shutdown => "shutdown"
  | .failed => "error"

/-- Why sessions could not be found or registered. -/
inductive SessionError where
  | duplicateSession (id : String)
  | connectionInUse (connection : ConnectionId) (owner : String)
  | notFound (id : String)
  | blankId
  deriving DecidableEq, Repr

namespace SessionError

/-- The wording of an error. -/
def message : SessionError → String
  | .duplicateSession id => s!"session '{id}' already exists"
  | .connectionInUse connection owner =>
    s!"connection {connection.text} already carries session '{owner}'"
  | .notFound id => s!"no session with id '{id}'"
  | .blankId => "session id must not be blank"

/-- The kind of error that a request is answered with. -/
def kind : SessionError → Rpc.ErrorKind
  | .duplicateSession _ => .duplicateSession
  | .connectionInUse _ _ => .operationFailed
  | .notFound _ => .notFound
  | .blankId => .invalidValue

/-- The error that a request is answered with. -/
def toError (e : SessionError) : Rpc.Error where
  kind := e.kind
  message := e.message
  badElement :=
    match e with
    | .blankId => some "session-id"
    | _ => none

end SessionError

end ManagementServer
