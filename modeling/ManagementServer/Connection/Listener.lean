import ManagementServer.Device.Module
import ManagementServer.Files.Tree
import ManagementServer.Settings.Endpoint

/-!
# Listening

A server listens on a Unix socket or on a TCP port of its host. The file of a socket that nobody
serves any more is cleared away; a socket that is served, and whatever is no socket, stays as it is.

Main definitions: `Host.bind`, `Host.release`.
-/

namespace ManagementServer.Connection

/-- What a host lends to a server: its files, and the TCP addresses on which somebody listens. -/
structure Host where
  files : Files.Tree
  ports : List (Net.IpAddress × Nat)
  deriving Repr, Inhabited

/-- A socket on which a server listens. A TCP socket has an address. -/
structure Listener where
  endpoint : Settings.Endpoint
  address : Option (Net.IpAddress × Nat)
  deriving Repr, Inhabited

/-- Why a server does not listen, or why it stopped. -/
inductive ListenerError where
  | resolve (host : String) (port : Nat) (detail : String)
  | resolveEmpty (host : String) (port : Nat)
  | bindTcp (address : Net.IpAddress) (port : Nat)
  | bindUnix (path : String)
  | unixInUse (path : String)
  | unixNotSocket (path : String)
  | unixConnect (path : String)
  | spawn (detail : String)
  | threadPanic
  deriving DecidableEq, Repr

/-- An address with a port. -/
def addressText (address : Net.IpAddress) (port : Nat) : String :=
  match address with
  | .v4 _ => s!"{address.text}:{port}"
  | .v6 _ => s!"[{address.text}]:{port}"

/-- The wording of an error; what the system has to say is left out. -/
def ListenerError.message : ListenerError → String
  | .resolve host port detail => s!"failed to resolve TCP address {host}:{port}: {detail}"
  | .resolveEmpty host port => s!"no TCP addresses resolved for {host}:{port}"
  | .bindTcp address port =>
    s!"failed to bind TCP listener at {addressText address port}: <detail>"
  | .bindUnix path => s!"failed to bind unix listener at {path}: <detail>"
  | .unixInUse path => s!"existing unix socket {path} is already in use"
  | .unixNotSocket path => s!"unix socket path {path} is not a socket"
  | .unixConnect path => s!"failed to connect to existing unix socket {path}: <detail>"
  | .spawn detail => s!"failed to spawn listener thread: {detail}"
  | .threadPanic => "listener thread panicked"

namespace Host

/-- A host with the given files on which nobody listens. -/
def ofFiles (files : Files.Tree) : Host := ⟨files, []⟩

/-- The first port that is picked for those who do not care. -/
def firstFreePort : Nat := 32768

/-- A port on which nobody listens. -/
def freePort (h : Host) (address : Net.IpAddress) : Nat :=
  ((List.range (h.ports.length + 1)).map (firstFreePort + ·)).find?
    (fun port => !h.ports.contains (address, port)) |>.getD firstFreePort

/-- Whether an address is one of the host's own. -/
def isLocal : Net.IpAddress → Bool
  | .v4 address => address.a == 127 || address == ⟨0, 0, 0, 0⟩
  | .v6 address => address.groups.dropLast.all (· == 0) && address.groups.getLast?.any (· ≤ 1)

/-- Listens on a TCP port. For port zero a free one is picked. -/
def bindTcp (env : Environment) (host : String) (port : Nat) (h : Host) :
    Except ListenerError (Listener × Host) :=
  match env.addresses host with
  | .error detail => .error (.resolve host port detail)
  | .ok [] => .error (.resolveEmpty host port)
  | .ok (address :: _) =>
    let picked := if port == 0 then h.freePort address else port
    if !isLocal address || h.ports.contains (address, picked) then .error (.bindTcp address port)
    else
      .ok (⟨.tcp host picked, some (address, picked)⟩,
        { h with ports := (address, picked) :: h.ports })

/-- The longest path of a socket, in bytes. -/
def maxSocketPathSize : Nat := 107

/-- Whether a path is too long for a socket. -/
def isTooLong (path : String) : Bool :=
  maxSocketPathSize < Text.Utf8.size path.toList

/-- Makes a socket file. -/
def createSocket (path : String) (h : Host) : Except ListenerError (Listener × Host) :=
  match h.files.locate false (Files.Path.steps path) with
  | .error _ => .error (.bindUnix path)
  | .ok place =>
    if isTooLong path || (h.files.at? place).isSome then .error (.bindUnix path)
    else
      .ok (⟨.unix path, none⟩, { h with files := h.files.put place (.socket true) })

/-- Clears a place. -/
def clear (path : String) (h : Host) : Host :=
  match h.files.locate false (Files.Path.steps path) with
  | .error _ => h
  | .ok place =>
    match h.files.at? place with
    | some (.directory _) => h
    | _ => { h with files := h.files.erase place }

/-- Listens on a Unix socket. -/
def bindUnix (path : String) (h : Host) : Except ListenerError (Listener × Host) :=
  let steps := Files.Path.steps path
  if (h.files.find? true steps).isNone then createSocket path h
  else
    match h.files.find? false steps with
    | some (.socket isLive) =>
      if isTooLong path then .error (.unixConnect path)
      else if isLive then .error (.unixInUse path)
      else createSocket path (h.clear path)
    | _ => .error (.unixNotSocket path)

/-- Listens. -/
def bind (env : Environment) (endpoint : Settings.Endpoint) (h : Host) :
    Except ListenerError (Listener × Host) :=
  match endpoint with
  | .tcp host port => h.bindTcp env host port
  | .unix path => h.bindUnix path

/-- Ends a listener, whose socket file is left behind without anybody to serve it. -/
def abandon (l : Listener) (h : Host) : Host :=
  match l.endpoint, l.address with
  | _, some address => { h with ports := h.ports.filter (· != address) }
  | .unix path, none =>
    match h.files.locate false (Files.Path.steps path) with
    | .error _ => h
    | .ok place =>
      match h.files.at? place with
      | some (.socket _) => { h with files := h.files.put place (.socket false) }
      | _ => h
  | .tcp _ _, none => h

/-- Clears the socket file of a listener away. -/
def clean (l : Listener) (h : Host) : Host :=
  match l.endpoint with
  | .unix path => h.clear path
  | .tcp _ _ => h

/-- Ends a listener and clears its socket file away. -/
def release (l : Listener) (h : Host) : Host :=
  (h.clean l).abandon l

/-- Whether something stands at a path, be it a link that leads nowhere. -/
def exists? (h : Host) (path : String) : Bool :=
  (h.files.find? false (Files.Path.steps path)).isSome

end Host

end ManagementServer.Connection
