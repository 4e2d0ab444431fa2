/-!
# Signals

What a server does when the system sends it a signal. The first signal to end begins an orderly
shutdown, and a second one ends the server at once. Until then a hang-up signal has the manifest
read again.
-/

namespace ManagementServer.Daemon

/-- A signal that a server listens to. -/
inductive Signal where
  | hangUp
  | interrupt
  | quit
  | terminate
  deriving DecidableEq, Repr, Inhabited

namespace Signal

/-- The number of a signal. -/
def number : Signal → Nat
  | .hangUp => 1
  | .interrupt => 2
  | .quit => 3
  | .terminate => 15

/-- The signals. -/
def all : List Signal := [.hangUp, .interrupt, .quit, .terminate]

/-- The signal of a number. -/
def ofNumber? (n : Int) : Option Signal :=
  all.find? fun s => (s.number : Int) == n

/-- The short name of a signal. -/
def name : Signal → String
  | .hangUp => "HUP"
  | .interrupt => "INT"
  | .quit => "QUIT"
  | .terminate => "TERM"

/-- The signal of a short name. -/
def ofName? (name : String) : Option Signal :=
  all.find? (·.name == name)

/-- Whether a signal asks a server to end. -/
def isTermination (s : Signal) : Bool :=
  s != .hangUp

end Signal

/-- What a server does when it gets a signal. -/
inductive SignalAction where
  | shutdown
  | forceExit
  | reload
  | ignore
  deriving DecidableEq, Repr, Inhabited

/-- What a server does when it gets a signal, and whether it is being shut down from then on. -/
def onSignal (isShuttingDown : Bool) (number : Int) : SignalAction × Bool :=
  match Signal.ofNumber? number with
  | none => (.ignore, isShuttingDown)
  | some signal =>
    match signal.isTermination, isShuttingDown with
    | true, true => (.forceExit, true)
    | true, false => (.shutdown, true)
    | false, true => (.ignore, true)
    | false, false => (.reload, false)

/-- What a server does when it gets one signal after the other. -/
def onSignals (isShuttingDown : Bool) : List Int → List SignalAction
  | [] => []
  | number :: rest =>
    let (action, isShuttingDown) := onSignal isShuttingDown number
    action :: onSignals isShuttingDown rest

end ManagementServer.Daemon
