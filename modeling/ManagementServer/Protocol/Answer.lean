import ManagementServer.Event.Notification
import ManagementServer.Protocol.Request
import ManagementServer.Rpc.Reply

/-!
# Messages from the server

What a server can send: answers, one a line read, and notifications in between.
-/

namespace ManagementServer.Protocol

/-- A message from the server. -/
inductive ServerMessage where
  | registered (sessionId : String)
  | capabilities (capabilities : CapabilitySet)
  | reply (sessionId : String) (messageId : Option String) (reply : Rpc.Reply)
  | notification (sessionId eventTime stream event : String) (body : Json)
  | error (kind : Option Rpc.ErrorKind) (message : String)
  deriving Repr, Inhabited

namespace ServerMessage

/-- Whether a message is a notification. -/
def isNotification : ServerMessage → Bool
  | .notification .. => true
  | _ => false

/-- The message for an event; `none` if its time cannot be written. -/
def ofNotification? (sessionId : String) (n : Event.Notification) : Option ServerMessage :=
  n.time.format?.map fun time => .notification sessionId time n.stream n.event n.body

/-- The message for a fault on the connection. -/
def ofFault (fault : Fault) : ServerMessage :=
  .error none fault.message

/-- The message for an error that is no reply. -/
def ofError (e : Rpc.Error) : ServerMessage :=
  .error (some e.kind) e.message

/-- The written form, members in their fixed order. -/
def encode : ServerMessage → Json
  | .registered id => .object [("kind", .string "registered"), ("session_id", .string id)]
  | .capabilities c => .object [("kind", .string "capabilities"), ("capabilities", c.encode)]
  | .reply id messageId r =>
    .object (
      [("kind", .string "reply"), ("session_id", .string id)] ++
      AgentMessage.optionalMember "message_id" messageId ++ [("reply", r.encode)])
  | .notification id time stream event body =>
    .object
      [("kind", .string "notification"), ("session_id", .string id), ("event_time", .string time),
        ("stream", .string stream), ("event", .string event), ("body", body)]
  | .error kind message =>
    .object (
      [("kind", .string "error")] ++
      AgentMessage.optionalMember "error_kind" (kind.map Rpc.ErrorKind.name) ++
      [("message", .string message)])

/-- How each kind of message is read. -/
def tagged : Tagged ServerMessage where
  tag := "kind"
  cases :=
    [("registered", .registered <$> Record.required "session_id" Decoder.text),
      ("capabilities", .capabilities <$> Record.required "capabilities" CapabilitySet.decode),
      ("reply", .reply <$> Record.required "session_id" Decoder.text
        <*> Record.optional "message_id" Decoder.text
        <*> Record.required "reply" Rpc.Reply.decode),
      ("notification", .notification <$> Record.required "session_id" Decoder.text
        <*> Record.required "event_time" Decoder.text
        <*> Record.required "stream" Decoder.text
        <*> Record.required "event" Decoder.text
        <*> Record.required "body" Decoder.value),
      ("error", .error <$> Record.optional "error_kind" Rpc.ErrorKind.decode.withinMessage
        <*> Record.required "message" Decoder.text)]

/-- Reads the written form. -/
def decode : Decoder ServerMessage := tagged.read

/-- The text of the line that carries a message. -/
def line (m : ServerMessage) : List Char :=
  m.encode.chars ++ ['\n']

end ServerMessage

end ManagementServer.Protocol
