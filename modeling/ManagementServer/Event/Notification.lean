import ManagementServer.Json.Basic
import ManagementServer.Time.Timestamp

/-!
# Events

An event of a stream: when it happened, what it is called, and what it says.
-/

namespace ManagementServer.Event

/-- The stream on which every module publishes. -/
def defaultStream : String := "NETCONF"

/-- An event. -/
structure Notification where
  time : Time.Timestamp
  stream : String
  event : String
  body : Json
  deriving Repr, Inhabited

/-- An event that happens now on the default stream. -/
def Notification.at (now : Time.Instant) (event : String) (body : Json) : Notification :=
  ⟨.utc now, defaultStream, event, body⟩

/-- An event as operators see it; a year that has no four digits cannot be shown. -/
def Notification.encode (n : Notification) : Json :=
  .ofMembers [("time", .optional n.time.format?), ("stream", .string n.stream),
    ("event", .string n.event), ("body", n.body)]

end ManagementServer.Event
