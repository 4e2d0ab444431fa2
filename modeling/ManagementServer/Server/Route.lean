import ManagementServer.Protocol.Request
import ManagementServer.Rpc.Error

/-!
# Where a request goes

Three operations are the server's own; all others are for the device modules. A request can name the
kind of its operation, and is rejected if no operation of that kind has its name.
-/

namespace ManagementServer.Server

/-- Who answers a request. -/
inductive Route where
  | closeSession
  | killSession
  | subscribe
  | device
  | rejected (kind : Protocol.OperationKind)
  deriving DecidableEq, Repr, Inhabited

namespace Route

/-- The operation that ends the session that asks for it. -/
def closeSessionName : String := "close-session"

/-- The operation that ends another session. -/
def killSessionName : String := "kill-session"

/-- The operation that starts a subscription. -/
def createSubscriptionName : String := "create-subscription"

/-- The operation whose answer includes the state of the modules. -/
def getName : String := "get"

/-- The kind of an operation for which a request does not name one. -/
def kindOf (operation : String) : Protocol.OperationKind :=
  if operation == closeSessionName || operation == killSessionName then .lifecycle
  else if operation == createSubscriptionName then .notification
  else .device

/-- The route for an operation of a kind. -/
def ofKind (kind : Protocol.OperationKind) (operation : String) : Route :=
  match kind with
  | .device => .device
  | .lifecycle =>
    if operation == closeSessionName then .closeSession
    else if operation == killSessionName then .killSession
    else .rejected .lifecycle
  | .notification =>
    if operation == createSubscriptionName then .subscribe else .rejected .notification

/-- The route for a request. -/
def ofRequest (r : Protocol.Request) : Route :=
  ofKind (r.kind.getD (kindOf r.operationName)) r.operationName

/-- How a route is shown in log records. -/
def label : Route → String
  | .closeSession => "CloseSession"
  | .killSession => "KillSession"
  | .subscribe => "Subscribe"
  | .device => "Device"
  | .rejected kind => s!"Rejected({kind.label})"

end Route

/-- The element that names the session to end. -/
def killTargetName : String := "session-id"

/-- Reads which session is to be ended; a number stands for its text. -/
def killTarget (payload : Json) : Except Rpc.Error String :=
  match payload.get? killTargetName with
  | some (.string id) =>
    if Text.isBlank id then .error (.missingParameter killTargetName) else .ok (Text.trim id)
  | some (.number n) => .ok (Json.number n).render
  | none | some .null => .error (.missingParameter killTargetName)
  | some _ =>
    .error (.invalidValue killTargetName "session-id must be a string or a number")

end ManagementServer.Server
