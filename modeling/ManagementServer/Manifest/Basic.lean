import ManagementServer.Json.Member
import ManagementServer.Text.Blank

/-!
# Module manifests

Which modules a server is to load, one entry a module. Main definition: `Manifest.fault?`, what is
wrong with a manifest; a valid one names every module and every repository at most once.
-/

namespace ManagementServer

namespace Manifest

/-- A module to load. -/
structure Entry where
  name : String
  implementation : Option String
  capabilities : List String
  operations : List String
  allowed : Bool
  repository : Option String
  deriving DecidableEq, Repr, Inhabited

/-- The implementation that an entry asks for: the one it names, or else the one of its own name. -/
def Entry.resolved (e : Entry) : String :=
  e.implementation.getD e.name

/-- The written form. -/
def Entry.encode (e : Entry) : Json :=
  .ofMembers
    [("name", .string e.name), ("implementation", .optional e.implementation),
      ("capabilities", .texts e.capabilities), ("operations", .texts e.operations),
      ("allowed", .bool e.allowed), ("repository", .optional e.repository)]

/-- Reads an entry; what is missing has its default. -/
def Entry.ofJson (j : Json) : Entry where
  name := j.textField "name"
  implementation := j.textField? "implementation"
  capabilities := j.textsField "capabilities"
  operations := j.textsField "operations"
  allowed := (j.field "allowed").bool?.getD true
  repository := j.textField? "repository"

/-- What is wrong with a manifest. -/
inductive Fault where
  | blankName
  | blankItem (name item : String)
  | emptyRepository (name : String)
  | repeatedName (name : String)
  | repeatedRepository (repository : String)
  deriving DecidableEq, Repr

/-- The wording of a fault. -/
def Fault.message : Fault → String
  | .blankName => "module name must not be empty"
  | .blankItem name item => s!"module '{name}' declares a blank capability or operation '{item}'"
  | .emptyRepository name => s!"module '{name}' declares an empty repository"
  | .repeatedName name => s!"module '{name}' is listed more than once"
  | .repeatedRepository repository =>
    s!"repository '{repository}' is claimed by more than one module"

/-- What is wrong with an entry by itself. -/
def Entry.fault? (e : Entry) : Option Fault :=
  if Text.isBlank e.name then some .blankName
  else match (e.capabilities ++ e.operations).find? Text.isBlank with
    | some item => some (.blankItem e.name item)
    | none =>
      if e.repository.any Text.isBlank then some (.emptyRepository e.name) else none

/-- The first fault in a list of entries, given the names and the repositories of those before. -/
def faultBehind? (names repositories : List String) : List Entry → Option Fault
  | [] => none
  | e :: rest =>
    match e.fault? with
    | some fault => some fault
    | none =>
      if names.contains e.name then some (.repeatedName e.name)
      else match e.repository with
        | none => faultBehind? (e.name :: names) repositories rest
        | some r =>
          if repositories.contains r then some (.repeatedRepository r)
          else faultBehind? (e.name :: names) (r :: repositories) rest

end Manifest

/-- The modules to load, in order. -/
structure Manifest where
  modules : List Manifest.Entry
  deriving DecidableEq, Repr, Inhabited

namespace Manifest

/-- The first fault of a manifest. -/
def fault? (m : Manifest) : Option Fault :=
  faultBehind? [] [] m.modules

/-- The entry of a name. -/
def get? (m : Manifest) (name : String) : Option Entry :=
  m.modules.find? (·.name == name)

end Manifest

end ManagementServer
