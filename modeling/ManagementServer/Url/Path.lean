import ManagementServer.Url.Host

/-!
# Paths in URLs

A path is cut at its slashes, characters that a path may not hold are percent-encoded, and the
segments `.` and `..`, also in their percent-encoded spellings, are resolved (`Path.normalize`).
-/

namespace ManagementServer.Url.Path

/-- Characters that are percent-encoded in a path. -/
def isEncoded (c : Char) : Bool :=
  isControl c || " \"<>`#?\x7b\x7d".toList.contains c

/-- A dot, as itself or percent-encoded, at the start of a segment. -/
def dropDot : List Char → Option (List Char)
  | '.' :: rest => some rest
  | '%' :: '2' :: 'e' :: rest => some rest
  | '%' :: '2' :: 'E' :: rest => some rest
  | _ => none

/-- Whether a segment is a single dot. -/
def isSingleDot (segment : List Char) : Bool :=
  dropDot segment == some []

/-- Whether a segment is two dots. -/
def isDoubleDot (segment : List Char) : Bool :=
  (dropDot segment >>= dropDot) == some []

/-- Whether a segment is a drive letter, behind which two dots do not lead back. -/
def isDrive : List Char → Bool
  | [c, d] => c.isAlpha && (d == ':' || d == '|')
  | _ => false

/-- The segments behind one more segment, the latest first. -/
def push (done : List (List Char)) (segment : List Char) (isLast : Bool) : List (List Char) :=
  if isDoubleDot segment then
    let done :=
      match done with
      | previous :: rest => if isDrive previous then previous :: rest else rest
      | [] => []
    if isLast then [] :: done else done
  else if isSingleDot segment then if isLast then [] :: done else done
  else segment :: done

/-- Pushes segments one after the other. -/
def pushAll (done : List (List Char)) : List (List Char) → List (List Char)
  | [] => done
  | [segment] => push done segment true
  | segment :: rest => pushAll (push done segment false) rest

/-- The path behind its first slash, resolved and encoded. -/
def normalize (cs : List Char) : List Char :=
  let segments := pushAll [] (Text.splitOn '/' (percentEncode isEncoded cs))
  segments.reverse.flatMap ('/' :: ·)

end ManagementServer.Url.Path
