import ManagementServer.Health

/-!
# The journal

Everything that a run of the server lets the outside see, beside its answers, in the order in which
it happens; and actions, which change a state and write to the journal (`Action`).
-/

namespace ManagementServer

namespace Device

/-- A call that the registry makes on a module. -/
inductive Call where
  | initialised (handle : Handle) (name : String) (repository : Option Repository)
    (succeeded : Bool)
  | executed (handle : Handle) (name operation : String)
  | stateRead (handle : Handle) (name : String)
  | closed (handle : Handle) (name : String)
  deriving DecidableEq, Repr

/-- The module that is called. -/
def Call.handle : Call → Handle
  | .initialised h _ _ _ => h
  | .executed h _ _ => h
  | .stateRead h _ => h
  | .closed h _ => h

/-- A call as an array: what is done, with which module, and with what. -/
def Call.encode : Call → Json
  | .initialised handle name repository _ =>
    .array [.string "init", .string name, .ofNat handle.number,
      .optional (repository.map (·.name))]
  | .executed _ name operation => .array [.string "execute", .string name, .string operation]
  | .stateRead _ name => .array [.string "state", .string name]
  | .closed _ name => .array [.string "close", .string name]

end Device

/-- When a connection that is told to close does so. -/
inductive CloseMode where
  | afterReply
  | immediate
  deriving DecidableEq, Repr, Inhabited

/-- The name of a mode. -/
def CloseMode.name : CloseMode → String
  | .afterReply => "AfterReply"
  | .immediate => "Immediate"

/-- One thing that happens. -/
inductive Occurrence where
  | called (call : Device.Call)
  | logged (record : Log.Record)
  | reported (event : HealthEvent)
  | closeRequested (connection : ConnectionId) (mode : CloseMode)
  deriving Repr

namespace Occurrence

/-- The log record of an occurrence. -/
def record? : Occurrence → Option Log.Record
  | .logged r => some r
  | .reported e => some e.record
  | _ => none

/-- The report of an occurrence. -/
def report? : Occurrence → Option HealthEvent
  | .reported e => some e
  | _ => none

/-- The module call of an occurrence. -/
def call? : Occurrence → Option Device.Call
  | .called c => some c
  | _ => none

end Occurrence

/-- What an action comes to: its value, the state behind it, and what happened. -/
structure Result (σ α : Type) where
  value : α
  state : σ
  journal : List Occurrence

/-- A change of a state during which things happen. -/
def Action (σ α : Type) := σ → Result σ α

namespace Action

variable {σ τ α β : Type}

instance : Monad (Action σ) where
  pure a := fun s => ⟨a, s, []⟩
  bind x f := fun s =>
    let first := x s
    let second := f first.value first.state
    ⟨second.value, second.state, first.journal ++ second.journal⟩

/-- The state. -/
def get : Action σ σ := fun s => ⟨s, s, []⟩

/-- Looks something up in the state. -/
def view (f : σ → α) : Action σ α := fun s => ⟨f s, s, []⟩

/-- Changes the state. -/
def modify (f : σ → σ) : Action σ Unit := fun s => ⟨(), f s, []⟩

/-- Lets something happen. -/
def emit (o : Occurrence) : Action σ Unit := fun s => ⟨(), s, [o]⟩

/-- Writes a log record. -/
def log (level : Log.Level) (target : Log.Target) (message : String)
    (fields : List (String × Json)) : Action σ Unit :=
  emit (.logged ⟨level, target, message, fields⟩)

/-- Acts on a part of a larger state. -/
def zoom (part : τ → σ) (put : σ → τ → τ) (x : Action σ α) : Action τ α := fun t =>
  let r := x (part t)
  ⟨r.value, put r.state t, r.journal⟩

end Action

end ManagementServer
