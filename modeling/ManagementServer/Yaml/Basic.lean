/-!
# YAML documents

The nodes of a YAML document, with aliases already replaced by what they stand for.
-/

namespace ManagementServer.Yaml

/-- How a scalar is written. -/
inductive Style where
  | plain
  | quoted
  | block
  deriving DecidableEq, Repr, Inhabited

/-- A node of a document. -/
inductive Node where
  | scalar (style : Style) (text : String)
  | sequence (items : List Node)
  | mapping (entries : List (Node × Node))
  deriving Repr, Inhabited

namespace Node

/-- The node that stands where nothing is written. -/
def empty : Node := .scalar .plain ""

/-- Whether a node is null: an unquoted scalar of nothing, a tilde or the word. -/
def isNull : Node → Bool
  | .scalar .plain text => text == "" || text == "~" || text.toLower == "null"
  | _ => false

/-- Whether a node leaves out a value that may be left out: null does, and so does an empty block
scalar. -/
def isAbsent (node : Node) : Bool :=
  node.isNull || node matches .scalar .block ""

/-- The text of a scalar. -/
def text? : Node → Option String
  | .scalar _ text => some text
  | _ => none

end Node

end ManagementServer.Yaml
