import ManagementServer.Connection.Line
import ManagementServer.Connection.Listener
import ManagementServer.Protocol.Answer
import ManagementServer.Protocol.Request
import ManagementServer.Text.Quoted

/-!
# Clients

An agent's end of a connection. A call sends a message and waits for the answer; notifications that
come in between are kept until they are asked for (`Client.call`, `Client.receive`). What comes over
the connection is a list of `Reading`s, one for every time that the client reads.
-/

namespace ManagementServer

open Connection (Reading Host)
open Protocol (AgentMessage ServerMessage)

/-- Why a client has no answer. -/
inductive ClientError where
  | resolve (endpoint : String)
  | connect (endpoint : String)
  | io (detail : String)
  | decode (line : String) (error : DecodeError)
  | closed
  deriving DecidableEq, Repr

/-- The wording of an error; what the system has to say is left out. -/
def ClientError.message : ClientError → String
  | .resolve endpoint => s!"failed to resolve {endpoint}: <detail>"
  | .connect endpoint => s!"failed to connect to {endpoint}: <detail>"
  | .io detail => s!"agent connection failed: {detail}"
  | .decode line error =>
    "failed to decode server message " ++ Text.Quoted.quote line ++ ": " ++ error.message
  | .closed => "server closed the connection"

/-- A client: the bytes that it has read and not used, the notifications that it keeps, the messages
that it has sent, and why nothing can be sent any more. -/
structure Client where
  buffer : List UInt8
  pending : List ServerMessage
  sent : List AgentMessage
  fault : Option String
  deriving Repr, Inhabited

namespace Client

/-- A client that has just connected. -/
def fresh : Client := ⟨[], [], [], none⟩

/-- Connects to a server. -/
def connect (env : Environment) (endpoint : Settings.Endpoint) (h : Host) :
    Except ClientError Client :=
  match endpoint with
  | .unix path =>
    match h.files.find? true (Files.Path.steps path) with
    | some (.socket true) =>
      if Host.isTooLong path then .error (.connect endpoint.text) else .ok fresh
    | _ => .error (.connect endpoint.text)
  | .tcp host port =>
    match env.addresses host with
    | .error _ | .ok [] => .error (.resolve endpoint.text)
    | .ok (address :: _) =>
      if h.ports.contains (address, port) then .ok fresh else .error (.connect endpoint.text)

/-- How a client is shown in debugging texts. -/
def debugText (c : Client) : String :=
  s!"AgentClient \x7b pending: {c.pending.length}, .. \x7d"

/-- Sends a message. -/
def send (c : Client) (message : AgentMessage) : Except ClientError Client :=
  match c.fault with
  | some detail => .error (.io detail)
  | none => .ok { c with sent := c.sent ++ [message] }

/-- Reads a line, with its line feed if it has one. The part of a line that has been read before an
error is lost. -/
def readLine (c : Client) :
    List Reading → Except ClientError (List UInt8) × Client × List Reading
  | [] =>
    match Connection.LineReader.cut [] c.buffer with
    | some (line, rest) => (.ok (line ++ [Connection.lineFeed]), { c with buffer := rest }, [])
    | none => (.ok c.buffer, { c with buffer := [] }, [])
  | reading :: readings =>
    match Connection.LineReader.cut [] c.buffer with
    | some (line, rest) =>
      (.ok (line ++ [Connection.lineFeed]), { c with buffer := rest }, reading :: readings)
    | none =>
      match reading with
      | .bytes chunk => readLine { c with buffer := c.buffer ++ chunk } readings
      | .interrupted => readLine c readings
      | .endOfInput => (.ok c.buffer, { c with buffer := [] }, readings)
      | .timeout => (.error (.io "timed out"), { c with buffer := [] }, readings)
      | .failed detail => (.error (.io detail), { c with buffer := [] }, readings)

/-- The message of a line. -/
def messageOf (line : List UInt8) : Except ClientError ServerMessage :=
  if line.isEmpty then .error .closed
  else
    match Text.Utf8.decode? line with
    | none => .error (.io "stream did not contain valid UTF-8")
    | some cs =>
      let text := Text.trimEnd (String.ofList cs)
      match ServerMessage.decode.fromText text.toList with
      | .ok message => .ok message
      | .error error => .error (.decode text error)

/-- Reads a message. -/
def readMessage (c : Client) (readings : List Reading) :
    Except ClientError ServerMessage × Client × List Reading :=
  let (line, c, readings) := c.readLine readings
  (line >>= messageOf, c, readings)

/-- The next message: a notification that was kept, or else one that is read. -/
def receive (c : Client) (readings : List Reading) :
    Except ClientError ServerMessage × Client × List Reading :=
  match c.pending with
  | message :: rest => (.ok message, { c with pending := rest }, readings)
  | [] => c.readMessage readings

/-- Reads up to `fuel` messages until one is no notification; those before are kept. -/
def answerWithin : Nat → Client → List Reading →
    Except ClientError ServerMessage × Client × List Reading
  | 0, c, readings => (.error .closed, c, readings)
  | fuel + 1, c, readings =>
    match c.readMessage readings with
    | (.ok message, c, readings) =>
      if message.isNotification then
        answerWithin fuel { c with pending := c.pending ++ [message] } readings
      else (.ok message, c, readings)
    | (.error error, c, readings) => (.error error, c, readings)

/-- The number of bytes that a reading brings. -/
def bytesIn : Reading → Nat
  | .bytes chunk => chunk.length
  | _ => 0

/-- Waits for an answer. Every message that is read takes a byte at least. -/
def answer (c : Client) (readings : List Reading) :
    Except ClientError ServerMessage × Client × List Reading :=
  answerWithin (c.buffer.length + (readings.map bytesIn).foldl (· + ·) 0 + 1) c readings

/-- Sends a message and waits for the answer. -/
def call (c : Client) (message : AgentMessage) (readings : List Reading) :
    Except ClientError ServerMessage × Client × List Reading :=
  match c.send message with
  | .error error => (.error error, c, readings)
  | .ok c => c.answer readings

end Client

end ManagementServer
