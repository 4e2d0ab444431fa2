import ManagementServer.Device.Module
import ManagementServer.Json.Member

/-!
# Scripted modules

Modules that do what a script says: what to answer to an operation, what to publish before, what
state to report, and where to fail or crash. They stand in for the modules of a device.
-/

namespace ManagementServer.Device

/-- What a scripted module answers to an operation. -/
inductive ScriptedAnswer where
  | reply (reply : Rpc.Reply)
  | echo
  | crash
  deriving Repr, Inhabited

/-- What a scripted module reports as its state. -/
inductive ScriptedState where
  | data (value : Json)
  | failure (message : String)
  | crash
  deriving Repr, Inhabited

/-- What a scripted module does. Operations for which it says nothing are answered with ok. -/
structure Script where
  initFault : Option String
  publications : List (String × String × Json)
  answers : List (String × ScriptedAnswer)
  state : ScriptedState
  deriving Repr, Inhabited

namespace Script

/-- Reads what to answer to an operation. -/
def answerOfJson : Json → ScriptedAnswer
  | .string "echo" => .echo
  | .string _ => .crash
  | other => .reply ((Rpc.Reply.decode.fromText other.chars).toOption.getD .ok)

/-- Reads what to report as the state. -/
def stateOfJson : Json → ScriptedState
  | .null => .data .null
  | .string _ => .crash
  | other =>
    match other.textField? "fails" with
    | some message => .failure message
    | none => .data (other.field "data")

/-- Reads a script: an object, of which every member can be left out. -/
def ofJson (j : Json) : Script where
  initFault := j.textField? "init_fails"
  publications := (j.field "publish").members.map fun (operation, p) =>
    (operation, p.textField "event", p.field "body")
  answers := (j.field "replies").members.map fun (operation, r) => (operation, answerOfJson r)
  state := stateOfJson (j.field "state")

end Script

/-- A scripted module, and how often it was asked to execute an operation. -/
structure ScriptedModule where
  script : Script
  calls : Nat
  deriving Repr, Inhabited

namespace ScriptedModule

/-- A module that was not called yet. -/
def ofScript (script : Script) : ScriptedModule := ⟨script, 0⟩

/-- What a module publishes when it executes an operation. -/
def publications (m : ScriptedModule) (operation : String) : List Effect :=
  match m.script.publications.lookup operation with
  | some (event, body) => [.publish event body]
  | none => []

/-- The request as the module has seen it. -/
def echo (m : ScriptedModule) (session : SessionContext) (operation : String) (payload : Json) :
    Json :=
  .ofMembers
    [("calls", .ofNat m.calls), ("capabilities", session.capabilities.encode),
      ("operation", .string operation), ("payload", payload),
      ("session", .string session.sessionId), ("username", .string session.username)]

/-- Answers an operation. -/
def answer (m : ScriptedModule) (session : SessionContext) (operation : String) (payload : Json) :
    Outcome Rpc.Reply :=
  match m.script.answers.lookup operation with
  | none => .returned .ok
  | some (.reply reply) => .returned reply
  | some .echo => .returned (.data (m.echo session operation payload))
  | some .crash => .crashed

instance : SteadyModule ScriptedModule where
  init _ _ m :=
    match m.script.initFault with
    | some message => ⟨.returned (.error message), m, []⟩
    | none => ⟨.returned (.ok .null), m, []⟩
  execute _ session operation payload m :=
    let m := { m with calls := m.calls + 1 }
    ⟨m.answer session operation payload, m, m.publications operation⟩
  state _ m :=
    match m.script.state with
    | .data value => ⟨.returned (.ok value), m, []⟩
    | .failure message => ⟨.returned (.error message), m, []⟩
    | .crash => ⟨.crashed, m, []⟩
  close m := ⟨.returned (), m, []⟩
  close_returns _ := rfl

end ScriptedModule

end ManagementServer.Device
