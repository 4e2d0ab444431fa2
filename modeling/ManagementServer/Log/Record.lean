import ManagementServer.Json.Basic

/-!
# Log records

What the server writes to its log: a level, the part of the server that speaks, a text, and named
fields.
-/

namespace ManagementServer.Log

/-- How much a record matters, the most important first. -/
inductive Level where
  | error
  | warn
  | info
  | debug
  | trace
  deriving DecidableEq, Repr, Inhabited

namespace Level

/-- The name of a level in a record. -/
def name : Level → String
  | .error => "ERROR"
  | .warn => "WARN"
  | .info => "INFO"
  | .debug => "DEBUG"
  | .trace => "TRACE"

/-- How far a level lies from the most important. -/
def rank : Level → Nat
  | .error => 1
  | .warn => 2
  | .info => 3
  | .debug => 4
  | .trace => 5

end Level

/-- A part of the server that writes records. -/
inductive Target where
  | moduleRegistry
  | systemModule
  | sessions
  | dispatch
  | catalog
  | server
  | health
  | process
  deriving DecidableEq, Repr, Inhabited

/-- The name of a target in a record. -/
def Target.name : Target → String
  | .moduleRegistry => "netconfd-modules::registry"
  | .systemModule => "netconfd-modules::system"
  | .sessions => "netconfd::sessions"
  | .dispatch => "netconfd::dispatch"
  | .catalog => "netconfd::catalog"
  | .server => "netconfd::server"
  | .health => "netconfd::health"
  | .process => "netconfd::process"

/-- A record. -/
structure Record where
  level : Level
  target : Target
  message : String
  fields : List (String × Json)
  deriving Repr, Inhabited

/-- The written form. -/
def Record.encode (r : Record) : Json :=
  Json.ofMembers
    ([("level", .string r.level.name), ("target", .string r.target.name),
      ("message", .string r.message)] ++ r.fields)

end ManagementServer.Log
