import ManagementServer.Device.Implementation
import ManagementServer.Device.Registry
import ManagementServer.Manifest.Basic

/-!
# The catalog

How the loaded modules follow a manifest (`Catalog.sync`). Modules that the manifest does not list
are removed, those whose entry has changed are replaced, and where an entry differs only in whether
requests may reach the module, just that is changed. Then the entries that are not registered are
loaded, in the order of the manifest.
-/

namespace ManagementServer.Catalog

open Device (DeviceModule Descriptor Implementations Outcome)

/-- The repository of the system module. -/
def systemRepository : String := "ietf-system"

/-- The descriptor that an entry asks for. -/
def descriptorFor (e : Manifest.Entry) : Descriptor :=
  { Descriptor.ofOperations e.name (.ofList e.capabilities) e.operations with
    repository := e.repository.map Device.Repository.mk
    allowed := e.allowed }

/-- The manifest of a server that is given none: the system module alone. -/
def defaultManifest : Manifest :=
  ⟨[{ name := Implementations.systemKey
      implementation := none
      capabilities := [Device.systemCapability]
      operations := Device.systemOperations
      allowed := true
      repository := some systemRepository }]⟩

/-- What became of the modules, by their names. -/
structure Summary where
  added : List String
  removed : List String
  updated : List String
  failed : List String
  deriving DecidableEq, Repr, Inhabited

namespace Summary

/-- Nothing happened. -/
def empty : Summary := ⟨[], [], [], []⟩

/-- Whether nothing happened. -/
def isUnchanged (s : Summary) : Bool :=
  s == empty

/-- The written form. -/
def encode (s : Summary) : Json :=
  .ofMembers
    [("added", .texts s.added), ("removed", .texts s.removed), ("updated", .texts s.updated),
      ("failed", .texts s.failed), ("unchanged", .bool s.isUnchanged)]

end Summary

/-- What a manifest means for a registered module. -/
inductive Fate where
  | keep
  | allow (allowed : Bool)
  | replace
  | remove
  deriving DecidableEq, Repr, Inhabited

/-- What a manifest means for a module with a descriptor. -/
def fate (m : Manifest) (current : Descriptor) : Fate :=
  match m.get? current.name with
  | none => .remove
  | some entry =>
    let desired := descriptorFor entry
    if { current with allowed := desired.allowed } != desired then .replace
    else if current.allowed != desired.allowed then .allow desired.allowed
    else .keep

/-- The summary so far, and the names of the modules that were removed to be replaced. -/
structure Progress where
  summary : Summary
  replaced : List String
  deriving DecidableEq, Repr, Inhabited

namespace Progress

/-- Nothing has happened yet. -/
def start : Progress := ⟨.empty, []⟩

/-- A module was removed. -/
def remove (p : Progress) (name : String) : Progress :=
  { p with summary := { p.summary with removed := p.summary.removed ++ [name] } }

/-- A module was removed to be replaced. -/
def replace (p : Progress) (name : String) : Progress :=
  { p with replaced := p.replaced ++ [name] }

/-- The permission of a module was changed. -/
def update (p : Progress) (name : String) : Progress :=
  { p with summary := { p.summary with updated := p.summary.updated ++ [name] } }

/-- An entry could not be carried out. -/
def fail (p : Progress) (name : String) : Progress :=
  { p with summary := { p.summary with failed := p.summary.failed ++ [name] } }

/-- A module was loaded, for the first time or again. -/
def load (p : Progress) (name : String) : Progress :=
  if p.replaced.contains name then p.update name
  else { p with summary := { p.summary with added := p.summary.added ++ [name] } }

end Progress

variable {μ : Type} [DeviceModule μ]

/-- Removes a module and reports it. One that is gone already is as good as removed. -/
def remove (env : Environment) (e : Device.Entry) : Action (Device.Registry μ) (Outcome Unit) := do
  match ← Device.Registry.unload env e.handle with
  | .crashed => return .crashed
  | .returned (.ok ()) =>
    Action.emit (.reported (.moduleRemoved e.name))
    return .returned ()
  | .returned (.error _) =>
    Action.log .debug .catalog "module already removed" [("module", .string e.name)]
    return .returned ()

/-- Removes a module, with what has been done by then. -/
def dismiss (env : Environment) (p : Progress) (e : Device.Entry) :
    Action (Device.Registry μ) (Outcome Progress) := do
  match ← remove env e with
  | .crashed => return .crashed
  | .returned () => return .returned p

/-- Does with a registered module as the manifest wants it. -/
def revise (env : Environment) (m : Manifest) (p : Progress) (e : Device.Entry) :
    Action (Device.Registry μ) (Outcome Progress) := do
  match fate m e.descriptor with
  | .keep => return .returned p
  | .remove => dismiss env (p.remove e.name) e
  | .replace => dismiss env (p.replace e.name) e
  | .allow allowed =>
    match ← Device.Registry.setAllowed e.name allowed with
    | .ok () => return .returned (p.update e.name)
    | .error error =>
      Action.emit (.reported (.moduleFailed e.name error))
      return .returned (p.fail e.name)

/-- Does with registered modules as the manifest wants it. A module that crashes when it is closed
ends the whole. -/
def reviseAll (env : Environment) (m : Manifest) (p : Progress) :
    List Device.Entry → Action (Device.Registry μ) (Outcome Progress)
  | [] => return .returned p
  | e :: rest => do
    match ← revise env m p e with
    | .crashed => return .crashed
    | .returned p => reviseAll env m p rest

/-- Builds the module of an entry and registers it. -/
def add (env : Environment) (f : Implementations μ) (entry : Manifest.Entry) :
    Action (Device.Registry μ) (Outcome (Except Device.ModuleError Device.Handle)) := do
  match f.instantiate entry.resolved with
  | .error error => return .returned (.error error)
  | .ok module => Device.Registry.add env (descriptorFor entry) module

/-- Loads the module of an entry and reports what came of it. -/
def load (env : Environment) (f : Implementations μ) (p : Progress) (entry : Manifest.Entry) :
    Action (Device.Registry μ) (Outcome Progress) := do
  match ← add env f entry with
  | .crashed => return .crashed
  | .returned (.ok handle) =>
    Action.emit (.reported (.moduleLoaded entry.name handle entry.allowed))
    return .returned (p.load entry.name)
  | .returned (.error error) =>
    Action.emit (.reported (.moduleFailed entry.name error))
    return .returned (p.fail entry.name)

/-- Loads the entries that are not registered. A module that crashes in its initialisation ends the
whole. -/
def loadAll (env : Environment) (f : Implementations μ) (p : Progress) :
    List Manifest.Entry → Action (Device.Registry μ) (Outcome Progress)
  | [] => return .returned p
  | entry :: rest => do
    match (← Action.get).getByName entry.name with
    | .ok _ => loadAll env f p rest
    | .error _ =>
      match ← load env f p entry with
      | .crashed => return .crashed
      | .returned p => loadAll env f p rest

/-- Makes the loaded modules follow a manifest. -/
def sync (env : Environment) (f : Implementations μ) (m : Manifest) :
    Action (Device.Registry μ) (Outcome Summary) := do
  match ← reviseAll env m .start (← Action.get).entries with
  | .crashed => return .crashed
  | .returned p =>
    match ← loadAll env f p m.modules with
    | .crashed => return .crashed
    | .returned p =>
      let count (names : List String) : Json := .ofNat names.length
      Action.log .info .catalog "module manifest applied"
        [("added", count p.summary.added), ("removed", count p.summary.removed),
          ("updated", count p.summary.updated), ("failed", count p.summary.failed)]
      return .returned p.summary

end ManagementServer.Catalog
