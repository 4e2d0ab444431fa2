import ManagementServer.Capability
import ManagementServer.Protocol.Fault
import ManagementServer.Text.Utf8

/-!
# Messages from agents

What an agent can send: a hello, a question for the server's capabilities, and requests. A message
is a line of JSON (`AgentMessage.parse`, `AgentMessage.line`).
-/

namespace ManagementServer.Protocol

/-- What kind of operation a request asks for. -/
inductive OperationKind where
  | lifecycle
  | device
  | notification
  deriving DecidableEq, Repr, Inhabited

namespace OperationKind

/-- Every kind. -/
def all : List OperationKind := [.lifecycle, .device, .notification]

/-- The name of a kind in a message. -/
def name : OperationKind → String
  | .lifecycle => "lifecycle"
  | .device => "device"
  | .notification => "notification"

/-- How a kind is shown in log records. -/
def label : OperationKind → String
  | .lifecycle => "Lifecycle"
  | .device => "Device"
  | .notification => "Notification"

/-- Reads the name of a kind. -/
def decode : Decoder OperationKind :=
  Decoder.oneOf (all.map fun k => (k.name, k))

end OperationKind

/-- The start of a session. -/
structure Hello where
  sessionId : String
  username : String
  capabilities : CapabilitySet
  deriving DecidableEq, Repr, Inhabited

/-- A request of a session. -/
structure Request where
  sessionId : String
  messageId : Option String
  operation : String
  kind : Option OperationKind
  payload : Json
  deriving Repr, Inhabited

/-- The operation that a request asks for, without blanks around it. -/
def Request.operationName (r : Request) : String :=
  Text.trim r.operation

/-- A message from an agent. -/
inductive AgentMessage where
  | hello (hello : Hello)
  | getCapabilities
  | rpc (request : Request)
  deriving Repr, Inhabited

namespace AgentMessage

/-- A member that is left out when there is nothing to write. -/
def optionalMember (key : String) : Option String → List (String × Json)
  | some text => [(key, .string text)]
  | none => []

/-- The written form, members in their fixed order. -/
def encode : AgentMessage → Json
  | .hello h =>
    .object
      [("kind", .string "hello"), ("session_id", .string h.sessionId),
        ("username", .string h.username), ("capabilities", h.capabilities.encode)]
  | .getCapabilities => .object [("kind", .string "get_capabilities")]
  | .rpc r =>
    .object (
      [("kind", .string "rpc"), ("session_id", .string r.sessionId)] ++
      optionalMember "message_id" r.messageId ++
      [("operation", .string r.operation)] ++
      optionalMember "op_kind" (r.kind.map OperationKind.name) ++
      (if r.payload == .null then [] else [("payload", r.payload)]))

/-- How each kind of message is read. -/
def tagged : Tagged AgentMessage where
  tag := "kind"
  cases :=
    [("hello", (fun i u c => .hello ⟨i, u, c⟩) <$> Record.required "session_id" Decoder.text
        <*> Record.required "username" Decoder.text
        <*> Record.defaulted "capabilities" CapabilitySet.decode CapabilitySet.empty),
      ("get_capabilities", pure .getCapabilities),
      ("rpc", (fun i m o k p => .rpc ⟨i, m, o, k, p⟩)
        <$> Record.required "session_id" Decoder.text
        <*> Record.optional "message_id" Decoder.text
        <*> Record.required "operation" Decoder.text
        <*> Record.optional "op_kind" OperationKind.decode.withinMessage
        <*> Record.defaulted "payload" Decoder.value .null)]

/-- Reads the written form. -/
def decode : Decoder AgentMessage := tagged.read

/-- The line that carries a message. -/
def line (m : AgentMessage) : List UInt8 :=
  Text.Utf8.encode (m.encode.chars ++ ['\n'])

/-- The ASCII blanks that may follow a message: space, tab, line feed, form feed, carriage
return. -/
def isTrailingBlank (b : UInt8) : Bool :=
  b == 0x20 || b == 0x09 || b == 0x0A || b == 0x0C || b == 0x0D

/-- Bytes without the blanks at their end. -/
def trimTrailing (bytes : List UInt8) : List UInt8 :=
  (bytes.reverse.dropWhile isTrailingBlank).reverse

/-- Reads a line. -/
def parse (bytes : List UInt8) : Except Fault AgentMessage :=
  match trimTrailing bytes with
  | [] => .error (.malformedJsonl .emptyLine)
  | used =>
    match decode.fromText (Text.Utf8.readable used) with
    | .ok message => .ok message
    | .error error => .error (.malformedJsonl (.json error))

/-- Refuses a blank field. -/
def requireText (field text : String) : Except Fault Unit :=
  if Text.isBlank text then .error (.invalidStructure s!"{field} field is empty") else .ok ()

/-- Refuses a message that lacks what every such message needs. -/
def validate : AgentMessage → Except Fault Unit
  | .hello h => do
    requireText "session_id" h.sessionId
    requireText "username" h.username
  | .getCapabilities => .ok ()
  | .rpc r => do
    requireText "session_id" r.sessionId
    requireText "operation" r.operation

end AgentMessage

end ManagementServer.Protocol
