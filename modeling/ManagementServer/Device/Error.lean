import ManagementServer.Device.Descriptor

/-!
# Module errors

Why a module could not be found, registered, asked or built.
-/

namespace ManagementServer.Device

/-- What a module was looked up by. -/
inductive Key where
  | handle (handle : Handle)
  | name (name : String)
  | repository (name : String)
  deriving DecidableEq, Repr

/-- How a key is shown. -/
def Key.text : Key → String
  | .handle h => s!"with handle {h.text}"
  | .name n => s!"'{n}'"
  | .repository r => s!"owning repository '{r}'"

/-- Why something could not be done with a module. -/
inductive ModuleError where
  | notFound (key : Key)
  | duplicateModule (name : String)
  | repositoryInUse (repository : String) (owner : String)
  | initFailed (name message : String)
  | stateData (name message : String)
  | unavailable (name : String)
  | unknownImplementation (implementation : String)
  | duplicateImplementation (implementation : String)
  | descriptor (fault : Descriptor.Fault)
  | handlesExhausted
  deriving DecidableEq, Repr

/-- The wording of an error. -/
def ModuleError.message : ModuleError → String
  | .notFound key => s!"module {key.text} not found in registry"
  | .duplicateModule name => s!"module '{name}' is already registered"
  | .repositoryInUse repository owner =>
    s!"repository '{repository}' is already owned by module '{owner}'"
  | .initFailed name message => s!"module '{name}' failed to initialise: {message}"
  | .stateData name message => s!"module '{name}' failed to report state data: {message}"
  | .unavailable name => s!"module '{name}' is unavailable after a panic"
  | .unknownImplementation key => s!"no module implementation named '{key}'"
  | .duplicateImplementation key => s!"module implementation '{key}' is already registered"
  | .descriptor fault => "invalid module descriptor: " ++ fault.message
  | .handlesExhausted => "module handles exhausted"

end ManagementServer.Device
