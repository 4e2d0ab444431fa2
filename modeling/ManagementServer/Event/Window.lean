import ManagementServer.Event.Notification
import ManagementServer.Rpc.Error
import ManagementServer.Text.Blank

/-!
# What a subscription covers

The stream, and the span of time for which events are wanted. Main definition: `Window.ofPayload`,
which reads the parameters of a request and says what is wrong with them.
-/

namespace ManagementServer.Event

/-- A stream and a span of time. -/
structure Window where
  stream : String
  start : Option Time.Timestamp
  stop : Option Time.Timestamp
  deriving DecidableEq, Repr, Inhabited

namespace Window

/-- What is wrong with the parameters of a subscription. -/
inductive Fault where
  | notAnObject
  | notAString (key : String)
  | unknownStream (stream : String)
  | notATimestamp (key : String)
  | stopWithoutStart
  | startInFuture
  | stopBeforeStart
  deriving DecidableEq, Repr

/-- The error that a fault is answered with. -/
def Fault.toError : Fault → Rpc.Error
  | .notAnObject =>
    .invalidValue "create-subscription" "subscription parameters must be an object"
  | .notAString key => .invalidValue key s!"{key} must be a string"
  | .unknownStream stream => .invalidValue "stream" s!"unknown event stream '{stream}'"
  | .notATimestamp key => .invalidValue key s!"{key} is not an RFC 3339 timestamp: <detail>"
  | .stopWithoutStart => .invalidValue "stopTime" "stopTime requires startTime"
  | .startInFuture => .invalidValue "startTime" "startTime lies in the future"
  | .stopBeforeStart => .invalidValue "stopTime" "stopTime precedes startTime"

/-- The text under a key, without blanks around it; null counts as absent. -/
def textField (payload : Json) (key : String) : Except Fault (Option String) :=
  match payload.get? key with
  | none | some .null => .ok none
  | some (.string text) => .ok (some (Text.trim text))
  | some _ => .error (.notAString key)

/-- The timestamp under a key. -/
def timeField (payload : Json) (key : String) : Except Fault (Option Time.Timestamp) := do
  match ← textField payload key with
  | none => return none
  | some text =>
    match Time.Timestamp.parse? text.toList with
    | some t => return some t
    | none => throw (.notATimestamp key)

/-- Whether a payload can hold parameters. -/
def isParameters : Json → Bool
  | .null => true
  | .object _ => true
  | _ => false

/-- Checks a span of time. -/
def checkSpan (now : Time.Instant) (start stop : Option Time.Timestamp) : Except Fault Unit :=
  match start, stop with
  | none, some _ => .error .stopWithoutStart
  | none, none => .ok ()
  | some first, _ =>
    if now < first.instant then .error .startInFuture
    else if stop.any fun last => last.instant < first.instant then .error .stopBeforeStart
    else .ok ()

/-- Reads the parameters of a subscription. -/
def ofPayload (payload : Json) (now : Time.Instant) : Except Fault Window := do
  if !isParameters payload then throw .notAnObject
  let stream := (← textField payload "stream").getD defaultStream
  if stream != defaultStream then throw (.unknownStream stream)
  let start ← timeField payload "startTime"
  let stop ← timeField payload "stopTime"
  checkSpan now start stop
  return ⟨stream, start, stop⟩

/-- Whether an event belongs to the stream and does not lie behind the span. -/
def admits (w : Window) (n : Notification) : Bool :=
  n.stream == w.stream && w.stop.all fun last => n.time.instant ≤ last.instant

/-- Whether the span is over. -/
def isOver (w : Window) (now : Time.Instant) : Bool :=
  w.stop.any fun last => last.instant ≤ now

end Window

end ManagementServer.Event
