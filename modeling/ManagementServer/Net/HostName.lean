import ManagementServer.Text.Blank
import ManagementServer.Text.Utf8

/-!
# Host names

The rules for a host name: labels of letters, digits and hyphens between dots.
-/

namespace ManagementServer.Net.HostName

/-- What is wrong with a host name. -/
inductive Fault where
  | length
  | labelLength
  | hyphen
  | character
  deriving DecidableEq, Repr

/-- The wording of a fault. -/
def Fault.reason : Fault → String
  | .length => "length must be 1 to 253 characters"
  | .labelLength => "labels must be 1 to 63 characters"
  | .hyphen => "labels must not start or end with '-'"
  | .character => "only letters, digits and '-' are allowed"

/-- What is wrong with a label; lengths are in bytes. -/
def labelFault? (label : List Char) : Option Fault :=
  if label.isEmpty || 63 < Text.Utf8.size label then some .labelLength
  else if label.head? == some '-' || label.getLast? == some '-' then some .hyphen
  else if label.all fun c => Text.isAlphanumeric c || c == '-' then none
  else some .character

/-- What is wrong with a host name, its first faulty label deciding. -/
def fault? (cs : List Char) : Option Fault :=
  if cs.isEmpty || 253 < Text.Utf8.size cs then some .length
  else (Text.splitOn '.' cs).findSome? labelFault?

/-- Whether a text is a host name. -/
def isValid (cs : List Char) : Bool :=
  (fault? cs).isNone

end ManagementServer.Net.HostName
