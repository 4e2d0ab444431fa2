import ManagementServer.Numeric.Binary64

/-!
# JSON values

Values as the server holds them: objects are lists of members with strictly increasing keys, so
that a value has one form. `Json.insert` and `Json.object` keep that order.
-/

namespace ManagementServer

/-- A JSON number: an integer that fits in 64 bits, signed or unsigned, or else a double. -/
inductive Number where
  | integer (value : Int)
  | double (value : Numeric.Binary64)
  deriving DecidableEq, Repr, Inhabited

/-- Whether an integer is held exactly. -/
def Number.isExact (n : Int) : Bool :=
  -0x8000000000000000 ≤ n && n < 0x10000000000000000

/-- A JSON value. -/
inductive Json where
  | null
  | bool (value : Bool)
  | number (value : Number)
  | string (value : String)
  | array (items : List Json)
  | object (members : List (String × Json))
  deriving Repr, Inhabited

namespace Json

mutual

/-- Whether two values are the same. -/
def same : Json → Json → Bool
  | .null, .null => true
  | .bool a, .bool b => a == b
  | .number a, .number b => a == b
  | .string a, .string b => a == b
  | .array a, .array b => sameItems a b
  | .object a, .object b => sameMembers a b
  | _, _ => false

/-- Whether two lists of values are the same. -/
def sameItems : List Json → List Json → Bool
  | [], [] => true
  | a :: as, b :: bs => same a b && sameItems as bs
  | _, _ => false

/-- Whether two lists of members are the same. -/
def sameMembers : List (String × Json) → List (String × Json) → Bool
  | [], [] => true
  | (k, a) :: as, (l, b) :: bs => k == l && same a b && sameMembers as bs
  | _, _ => false

end

instance : BEq Json := ⟨same⟩

/-- Members with `key` set to `value`, in key order. -/
def insertMember (key : String) (value : Json) : List (String × Json) → List (String × Json)
  | [] => [(key, value)]
  | (k, v) :: rest =>
    if key < k then (key, value) :: (k, v) :: rest
    else if key == k then (key, value) :: rest
    else (k, v) :: insertMember key value rest

/-- The value of a member. -/
def member? (key : String) : List (String × Json) → Option Json
  | [] => none
  | (k, v) :: rest => if k == key then some v else member? key rest

/-- An object with the given members; of two with one key the later counts. -/
def ofMembers (members : List (String × Json)) : Json :=
  .object (members.foldl (fun acc m => insertMember m.1 m.2 acc) [])

/-- The object with one member. -/
def single (key : String) (value : Json) : Json :=
  .object [(key, value)]

/-- A member of an object; `none` for other values. -/
def get? (key : String) : Json → Option Json
  | .object members => member? key members
  | _ => none

/-- The members of an object; of other values there are none. -/
def members : Json → List (String × Json)
  | .object members => members
  | _ => []

/-- The items of an array; of other values there are none. -/
def items : Json → List Json
  | .array items => items
  | _ => []

/-- The text of a string. -/
def text? : Json → Option String
  | .string s => some s
  | _ => none

/-- The truth value of a boolean. -/
def bool? : Json → Option Bool
  | .bool b => some b
  | _ => none

/-- The integer that a number is, if it fits in 64 signed bits. -/
def int64? : Json → Option Int
  | .number (.integer n) =>
    if -0x8000000000000000 ≤ n && n < 0x8000000000000000 then some n else none
  | _ => none

/-- A natural number. -/
def ofNat (n : Nat) : Json :=
  .number (.integer n)

/-- A list of texts. -/
def texts (items : List String) : Json :=
  .array (items.map .string)

/-- A text, or null. -/
def optional : Option String → Json
  | some s => .string s
  | none => .null

end Json

end ManagementServer
