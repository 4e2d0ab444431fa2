import ManagementServer.Connection.Line
import ManagementServer.Journal
import ManagementServer.Protocol.Answer

/-!
# Connections

The sockets of a server's connections, and the table of the connections that are open. A connection
can be told to close: the flag in the table makes its own loop end, and closing at once shuts its
socket down as well.
-/

namespace ManagementServer.Connection

/-- The server's end of a connection. `incoming` is what the peer has sent and nobody has read, and
`outgoing` what the server has written. -/
structure Socket where
  incoming : List UInt8
  inputEnded : Bool
  isShut : Bool
  fault : Option String
  outgoing : List Protocol.ServerMessage
  deriving Repr, Inhabited

namespace Socket

/-- A socket on which nothing has happened. -/
def fresh : Socket := ⟨[], false, false, none, []⟩

/-- Why nothing can be written. -/
def writeFault? (s : Socket) : Option String :=
  match s.fault with
  | some message => some message
  | none => if s.isShut then some "the socket is shut down" else none

/-- Reads at most `size` bytes. -/
def read (s : Socket) (size : Nat) : Socket × Reading :=
  if !s.incoming.isEmpty then
    ({ s with incoming := s.incoming.drop size }, .bytes (s.incoming.take size))
  else match s.fault with
    | some message => (s, .failed message)
    | none => if s.inputEnded || s.isShut then (s, .endOfInput) else (s, .timeout)

end Socket

/-- Why a connection could not be closed. -/
inductive TransportFault where
  | unknownConnection (connection : ConnectionId)
  | shutdown (connection : ConnectionId) (detail : String)
  deriving DecidableEq, Repr

/-- The wording of a fault. -/
def TransportFault.message : TransportFault → String
  | .unknownConnection c => s!"connection {c.text} is not open"
  | .shutdown c detail => s!"failed to shut down connection {c.text}: {detail}"

/-- An open connection, its socket, and whether it was told to close. -/
structure Link where
  id : ConnectionId
  socket : SocketId
  isClosing : Bool
  deriving DecidableEq, Repr, Inhabited

/-- The open connections, and the number of the next one. Numbers have no bound here: a counter of
64 bits would begin anew after `2 ^ 64` connections. -/
structure Table where
  links : List Link
  nextId : Nat
  deriving DecidableEq, Repr, Inhabited

namespace Table

/-- No connection is open. -/
def empty : Table := ⟨[], 1⟩

/-- An open connection. -/
def find? (t : Table) (id : ConnectionId) : Option Link :=
  t.links.find? (·.id == id)

/-- Opens a connection under a new number. -/
def register (t : Table) (socket : SocketId) : Table × ConnectionId :=
  (⟨t.links ++ [⟨⟨t.nextId⟩, socket, false⟩], t.nextId + 1⟩, ⟨t.nextId⟩)

/-- Forgets a connection. -/
def unregister (t : Table) (id : ConnectionId) : Table :=
  { t with links := t.links.filter (·.id != id) }

/-- Whether a connection was told to close; one that is not open counts as told. -/
def isClosing (t : Table) (id : ConnectionId) : Bool :=
  match t.find? id with
  | some link => link.isClosing
  | none => true

/-- Tells a connection to close. -/
def flag (t : Table) (id : ConnectionId) : Table :=
  { t with links := t.links.map fun link =>
      if link.id == id then { link with isClosing := true } else link }

/-- Tells every connection to close. -/
def flagAll (t : Table) : Table :=
  { t with links := t.links.map fun link => { link with isClosing := true } }

end Table

end ManagementServer.Connection
