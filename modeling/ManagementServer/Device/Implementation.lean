import ManagementServer.Device.Error
import ManagementServer.Device.Scripted
import ManagementServer.Device.System

/-!
# Implementations

The modules that a server can build, by the key of their implementation.
-/

namespace ManagementServer.Device

/-- A module of one of the kinds that there are. -/
inductive AnyModule where
  | system (module : SystemModule)
  | scripted (module : ScriptedModule)
  deriving Repr, Inhabited

namespace AnyModule

/-- A response of a module of one kind. -/
def lift {μ α : Type} (wrap : μ → AnyModule) (r : Response μ α) : Response AnyModule α :=
  ⟨r.outcome, wrap r.module, r.effects⟩

instance : SteadyModule AnyModule where
  init env identity
    | .system m => lift .system (DeviceModule.init env identity m)
    | .scripted m => lift .scripted (DeviceModule.init env identity m)
  execute env session operation payload
    | .system m => lift .system (DeviceModule.execute env session operation payload m)
    | .scripted m => lift .scripted (DeviceModule.execute env session operation payload m)
  state env
    | .system m => lift .system (DeviceModule.state env m)
    | .scripted m => lift .scripted (DeviceModule.state env m)
  close
    | .system m => lift .system (DeviceModule.close m)
    | .scripted m => lift .scripted (DeviceModule.close m)
  close_returns
    | .system m => SteadyModule.close_returns m
    | .scripted m => SteadyModule.close_returns m

/-- Whether a module does what a script says. -/
def isScripted : AnyModule → Bool
  | .system _ => false
  | .scripted _ => true

end AnyModule

/-- The modules that can be built, sorted by their keys. Each is built anew whenever it is asked
for. -/
structure Implementations (μ : Type) where
  entries : List (String × μ)

namespace Implementations

/-- Nothing can be built. -/
def empty {μ : Type} : Implementations μ := ⟨[]⟩

/-- The key of the system module. -/
def systemKey : String := "system"

/-- Only the system module can be built. -/
def builtin : Implementations AnyModule :=
  ⟨[(systemKey, .system (.ofHostname "localhost"))]⟩

/-- Adds an entry in key order. -/
def insertSorted {μ : Type} (key : String) (module : μ) :
    List (String × μ) → List (String × μ)
  | [] => [(key, module)]
  | (k, m) :: rest =>
    if key < k then (key, module) :: (k, m) :: rest
    else (k, m) :: insertSorted key module rest

/-- Adds an implementation under a key that is free. -/
def register {μ : Type} (f : Implementations μ) (key : String) (module : μ) :
    Except ModuleError (Implementations μ) :=
  if f.entries.any (·.1 == key) then .error (.duplicateImplementation key)
  else .ok ⟨insertSorted key module f.entries⟩

/-- A new module of an implementation. -/
def instantiate {μ : Type} (f : Implementations μ) (key : String) : Except ModuleError μ :=
  match f.entries.lookup key with
  | some module => .ok module
  | none => .error (.unknownImplementation key)

/-- The keys. -/
def keys {μ : Type} (f : Implementations μ) : List String :=
  f.entries.map (·.1)

/-- How implementations are shown in debugging texts. -/
def debugText {μ : Type} (f : Implementations μ) : String :=
  "ModuleFactory \x7b implementations: " ++ Text.Quoted.quoteAll f.keys ++ " \x7d"

end Implementations

end ManagementServer.Device
