import ManagementServer.Manifest.Basic
import ManagementServer.Yaml.Document

/-!
# Reading manifests

A manifest is a YAML document. Unknown keys are passed over, a key may stand only once in a mapping,
and where a text is wanted every scalar but null will do.
-/

namespace ManagementServer.Manifest

/-- Why there is no manifest. -/
inductive Error where
  | read (path : String)
  | parse
  | invalid (fault : Fault)
  deriving DecidableEq, Repr

/-- The wording of an error; what the file system or the parser has to say is left out. -/
def Error.message : Error → String
  | .read _ => "failed to read module manifest <detail>"
  | .parse => "failed to parse module manifest: <detail>"
  | .invalid fault => "invalid module manifest: " ++ fault.message

/-- Whether a key is the one under which a mapping takes over the entries of other mappings. -/
def isMergeKey : Yaml.Node → Bool
  | .scalar .plain "<<" => true
  | _ => false

/-- Entries under text keys; `none` if a key is no text or stands twice. -/
def ownMembers? (seen : List (String × Yaml.Node)) :
    List (Yaml.Node × Yaml.Node) → Option (List (String × Yaml.Node))
  | [] => some seen.reverse
  | (key, value) :: rest => do
    let name ← key.text?
    if seen.any (·.1 == name) then none
    ownMembers? ((name, value) :: seen) rest

/-- The entries of a mapping with those that it takes over, whose keys it does not have itself.
At most `fuel` mappings are looked into. -/
def members? : Nat → List (Yaml.Node × Yaml.Node) → Option (List (String × Yaml.Node))
  | 0, _ => none
  | fuel + 1, entries => do
    let own ← ownMembers? [] (entries.filter fun e => !isMergeKey e.1)
    let sources := (entries.filter fun e => isMergeKey e.1).flatMap fun e =>
      match e.2 with
      | .sequence items => items
      | other => [other]
    let taken ← sources.mapM fun source =>
      match source with
      | .mapping inner => members? fuel inner
      | other => if other.isNull then some [] else none
    return taken.flatten.foldl
      (fun acc m => if acc.any (·.1 == m.1) then acc else acc ++ [m]) own

/-- How deeply mappings may take over from each other. -/
def maxMergeDepth : Nat := 64

/-- The members of a node that is wanted as a mapping. -/
def mapping? : Yaml.Node → Option (List (String × Yaml.Node))
  | .mapping entries => members? maxMergeDepth entries
  | node => if node.isNull then some [] else none

/-- The items of a node that is wanted as a list. -/
def items? : Yaml.Node → Option (List Yaml.Node)
  | .sequence items => some items
  | node => if node.isNull then some [] else none

/-- A node that is wanted as a text. -/
def text? (node : Yaml.Node) : Option String :=
  if node.isNull then none else node.text?

/-- A node that is wanted as a text or as nothing. -/
def optionalText? (node : Yaml.Node) : Option (Option String) :=
  if node.isAbsent then some none else some <$> node.text?

/-- A node that is wanted as a truth value. -/
def bool? (node : Yaml.Node) : Option Bool := do
  let word := String.ofList (Text.lowerAscii (Text.trim (← node.text?)).toList)
  if ["true", "yes", "y", "on"].contains word then some true
  else if ["false", "no", "n", "off"].contains word then some false
  else none

/-- Reads the value under a key; `absent` is what it stands for when it is left out. -/
def field? {α : Type} (read : Yaml.Node → Option α) (absent : Option α) (key : String)
    (members : List (String × Yaml.Node)) : Option α :=
  match members.lookup key with
  | some node => read node
  | none => absent

/-- A node that is wanted as a list of texts. -/
def texts? (node : Yaml.Node) : Option (List String) := do
  (← items? node).mapM text?

mutual

/-- Whether no mapping in a node has a key twice. -/
def hasDistinctKeys : Yaml.Node → Bool
  | .scalar _ _ => true
  | .sequence items => itemsHaveDistinctKeys items
  | .mapping entries =>
    (ownMembers? [] (entries.filter fun e => !isMergeKey e.1)).isSome &&
      entriesHaveDistinctKeys entries

/-- Whether no mapping in a list of nodes has a key twice. -/
def itemsHaveDistinctKeys : List Yaml.Node → Bool
  | [] => true
  | node :: rest => hasDistinctKeys node && itemsHaveDistinctKeys rest

/-- Whether no mapping among the values of a mapping has a key twice. -/
def entriesHaveDistinctKeys : List (Yaml.Node × Yaml.Node) → Bool
  | [] => true
  | (_, value) :: rest => hasDistinctKeys value && entriesHaveDistinctKeys rest

end

/-- Reads an entry. -/
def Entry.ofNode? (node : Yaml.Node) : Option Entry := do
  let members ← mapping? node
  let name ← field? text? none "name" members
  let implementation ← field? optionalText? (some none) "implementation" members
  let capabilities ← field? texts? (some []) "capabilities" members
  let operations ← field? texts? (some []) "operations" members
  let allowed ← field? bool? (some true) "allowed" members
  let repository ← field? optionalText? (some none) "repository" members
  return { name, implementation, capabilities, operations, allowed, repository }

/-- Reads the entries of a document. -/
def ofNode? (node : Yaml.Node) : Option Manifest := do
  if !hasDistinctKeys node then none
  let members ← mapping? node
  let entries ← field? items? (some []) "modules" members
  return ⟨← entries.mapM Entry.ofNode?⟩

/-- Reads a valid manifest. -/
def parse (text : String) : Except Error Manifest :=
  match Yaml.parse? text.toList >>= ofNode? with
  | none => .error .parse
  | some manifest =>
    match manifest.fault? with
    | some fault => .error (.invalid fault)
    | none => .ok manifest

end ManagementServer.Manifest
