import ManagementServer.Server.Running

/-!
# Peers

The other ends of a server's connections, by name: what they do, with the server's threads moving
until all of them wait, and what they have received since they last looked.
-/

namespace ManagementServer.Server

open Protocol (ServerMessage)

/-- A peer, its socket, and how many messages it has looked at. -/
structure Peer where
  name : String
  socket : SocketId
  seen : Nat
  deriving Repr, Inhabited

/-- A server and the peers whose connections were not over when they last looked. -/
structure Peers (μ : Type) where
  system : Running μ
  all : List Peer

namespace Peers

variable {μ α : Type}

/-- A server without peers. -/
def ofHost (host : Connection.Host) : Peers μ := ⟨.ofHost host, []⟩

/-- Acts on the server. -/
def onSystem (x : Action (Running μ) α) : Action (Peers μ) α :=
  Action.zoom (·.system) (fun system s => { s with system }) x

/-- The peer of a name. -/
def find? (s : Peers μ) (name : String) : Option Peer := s.all.find? (·.name == name)

/-- What a peer has received since it last looked. -/
def news (s : Peers μ) (p : Peer) : List ServerMessage := (s.system.written p.socket).drop p.seen

/-- What a peer has received since it last looked, without notifications. -/
def answers (s : Peers μ) (p : Peer) : List ServerMessage :=
  (s.news p).filter (!·.isNotification)

/-- The peers whose connections are over. -/
def gone (s : Peers μ) : List Peer := s.all.filter fun p => s.system.isOver p.socket

/-- Every peer looks at what it has received. -/
def look (s : Peers μ) : Peers μ :=
  { s with
    all := (s.all.filter fun p => !s.system.isOver p.socket).map fun p =>
      { p with seen := p.seen + (s.news p).length } }

variable [Device.DeviceModule μ]

/-- Makes moves, and lets the threads move until all of them wait. -/
def move (env : Environment) (moves : List Move) : Action (Peers μ) Unit :=
  onSystem do
    Running.run (moves.map (env, ·))
    Running.settle env

/-- A peer connects. Whoever had its name before hangs up. -/
def connect (env : Environment) (name : String) : Action (Peers μ) Unit := do
  let earlier := (← Action.get).find? name
  match ← onSystem Running.connect with
  | none => return ()
  | some socket =>
    Action.modify fun s =>
      { s with all := s.all.filter (·.name != name) ++ [⟨name, socket, 0⟩] }
    move env []
    move env (earlier.map fun p => Move.hangUp p.socket).toList

/-- A peer sends bytes, after which it may hang up. Returns whether there is such a peer. -/
def send (env : Environment) (name : String) (bytes : List UInt8) (hangsUp : Bool) :
    Action (Peers μ) Bool := do
  match (← Action.get).find? name with
  | none => return false
  | some p =>
    let ending := if hangsUp then [Move.hangUp p.socket] else []
    move env (if bytes.isEmpty then ending else .send p.socket bytes :: ending)
    return true

end Peers

end ManagementServer.Server
