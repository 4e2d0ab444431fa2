import ManagementServer.Json.Basic

/-!
# Members with a fallback

Looking members of an object up where one that is missing, or that is of another type, counts as
empty.
-/

namespace ManagementServer.Json

/-- A member. -/
def field (key : String) (j : Json) : Json := (j.get? key).getD .null

/-- A text, if there is one. -/
def textField? (key : String) (j : Json) : Option String := j.get? key >>= Json.text?

/-- A text. -/
def textField (key : String) (j : Json) : String := (j.textField? key).getD ""

/-- A truth value. -/
def flagField (key : String) (j : Json) : Bool := (j.field key).bool?.getD false

/-- The items of an array. -/
def listField (key : String) (j : Json) : List Json := (j.field key).items

/-- The texts in an array. -/
def textsField (key : String) (j : Json) : List String :=
  (j.listField key).filterMap Json.text?

/-- A natural number, if there is one; numbers below zero count as zero. -/
def natField? (key : String) (j : Json) : Option Nat :=
  match j.field key with
  | .number (.integer n) => some n.toNat
  | _ => none

/-- A natural number. -/
def natField (key : String) (j : Json) : Nat := (j.natField? key).getD 0

end ManagementServer.Json
