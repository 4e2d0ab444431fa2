import ManagementServer.Capability

/-!
# Module descriptors

What a device module is called, which capabilities it takes part in, which operations it runs, and
whether requests may reach it.
-/

namespace ManagementServer.Device

/-- The number under which a module is registered. -/
structure Handle where
  number : Nat
  deriving DecidableEq, Repr, Inhabited

namespace Handle

/-- The first number that is no handle. -/
def bound : Nat := 0x100000000

/-- How a handle is shown. -/
def text (h : Handle) : String := s!"#{h.number}"

/-- Reads a handle. -/
def decode : Decoder Handle := fun d =>
  Handle.mk <$> Decoder.natBelow bound d

end Handle

/-- The data store that a module owns. -/
structure Repository where
  name : String
  deriving DecidableEq, Repr, Inhabited

/-- Adds an operation to a sorted list without repetition. -/
def insertSorted (operation : String) : List String → List String
  | [] => [operation]
  | first :: rest =>
    if operation < first then operation :: first :: rest
    else if operation == first then first :: rest
    else first :: insertSorted operation rest

/-- Operations sorted and without repetition. -/
def sortOperations (operations : List String) : List String :=
  operations.foldl (fun acc operation => insertSorted operation acc) []

/-- What a module declares. The operations are sorted and distinct. -/
structure Descriptor where
  name : String
  capabilities : CapabilitySet
  operations : List String
  repository : Option Repository
  allowed : Bool
  deriving DecidableEq, Repr, Inhabited

namespace Descriptor

/-- A module that owns nothing and may be asked. -/
def ofOperations (name : String) (capabilities : CapabilitySet) (operations : List String) :
    Descriptor :=
  ⟨name, capabilities, sortOperations operations, none, true⟩

/-- Whether a module runs an operation. -/
def implements (d : Descriptor) (operation : String) : Bool :=
  d.operations.contains operation

/-- What is wrong with a descriptor. -/
inductive Fault where
  | blankName
  | blankOperation (name : String)
  | emptyRepository (name : String)
  deriving DecidableEq, Repr

/-- The wording of a fault. -/
def Fault.message : Fault → String
  | .blankName => "module name must not be empty"
  | .blankOperation name => s!"module '{name}' declares a blank operation"
  | .emptyRepository name => s!"module '{name}' declares an empty repository"

/-- The first thing wrong with a descriptor. -/
def fault? (d : Descriptor) : Option Fault :=
  if Text.isBlank d.name then some .blankName
  else if d.operations.any Text.isBlank then some (.blankOperation d.name)
  else if d.repository.any fun r => Text.isBlank r.name then some (.emptyRepository d.name)
  else none

/-- The written form. -/
def encode (d : Descriptor) : Json :=
  .object (
    [("name", .string d.name), ("capabilities", d.capabilities.encode),
      ("operations", Json.texts d.operations)] ++
    (d.repository.map fun r => ("repository", Json.string r.name)).toList ++
    [("allowed", .bool d.allowed)])

/-- The fields to read a descriptor from. -/
def fields : Record Descriptor :=
  Descriptor.mk <$> Record.required "name" Decoder.text
    <*> Record.required "capabilities" CapabilitySet.decode
    <*> Record.required "operations" (fun d => sortOperations <$> Decoder.list Decoder.text d)
    <*> Record.optional "repository" (fun d => Repository.mk <$> Decoder.text d)
    <*> Record.required "allowed" Decoder.bool

/-- Reads the written form. -/
def decode : Decoder Descriptor := fields.read .malformed

end Descriptor

end ManagementServer.Device
