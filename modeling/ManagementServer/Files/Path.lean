import ManagementServer.Text.Blank
import ManagementServer.Text.Utf8

/-!
# File paths

A path is text between slashes. `Path.steps` says which way it leads, `Path.parent?` cuts its last
part off.
-/

namespace ManagementServer.Files

/-- The way a path leads: from the root or from the working directory, and then name by name. -/
structure Steps where
  isAbsolute : Bool
  names : List String
  deriving DecidableEq, Repr, Inhabited

namespace Path

/-- The texts between the slashes of a path. -/
def segments (path : String) : List String :=
  (Text.splitOn '/' path.toList).map String.ofList

/-- Whether a path begins at the root. -/
def isAbsolute (path : String) : Bool :=
  path.toList.head? == some '/'

/-- Whether a segment leads nowhere. -/
def isIdle (segment : String) : Bool :=
  segment == "" || segment == "."

/-- The way a path leads. A dot leads nowhere, two dots lead up. A dot is left at the end of a path
that can only be a directory. -/
def steps (path : String) : Steps :=
  let names := (segments path).filter (!isIdle ·)
  let last := if !names.isEmpty && (segments path).getLast?.any isIdle then ["."] else []
  ⟨isAbsolute path, names ++ last⟩

/-- Drops empty segments and dots from the end; a dot that begins the path stays. -/
def dropIdle (segments : List String) : List String :=
  (go segments.reverse).reverse
where
  /-- The same from the front of the reversed segments. -/
  go : List String → List String
    | [] => []
    | ["."] => ["."]
    | s :: rest => if isIdle s then go rest else s :: rest

/-- The text of the given segments. -/
def ofSegments (isAbsolute : Bool) (segments : List String) : String :=
  if isAbsolute && segments.isEmpty then "/" else "/".intercalate segments

/-- The path without its last part; `none` for the root and for the empty path. -/
def parent? (path : String) : Option String :=
  match dropIdle (segments path) with
  | [] => none
  | used => some (ofSegments (isAbsolute path) (dropIdle used.dropLast))

/-- One path behind another, as the file system reads them. -/
def join (base name : String) : String :=
  if base == "" || base.toList.getLast? == some '/' then base ++ name else base ++ "/" ++ name

end Path

end ManagementServer.Files
