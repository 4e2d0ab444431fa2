import ManagementServer.Json.Draft
import ManagementServer.Json.Printer

/-!
# Decoding records and tagged messages

How a draft is read as a value of a type. A record is an object whose fields may come in any order,
each at most once, or an array of its fields in order; a tagged message names its case in one field,
or in the first item of an array. The draft is walked from left to right and the first fault wins
(`Record.read`, `Tagged.read`).
-/

namespace ManagementServer

/-- Why a text is not a value of the wanted type. -/
inductive DecodeError where
  | malformed
  | invalidType
  | invalidValue
  | invalidLength
  | missingField (name : String)
  | duplicateField (name : String)
  | unknownVariant (name : String) (expected : List String)
  deriving DecidableEq, Repr, Inhabited

/-- The names of the cases as a message lists them. -/
def DecodeError.expectation : List String → String
  | [a, b] => s!"`{a}` or `{b}`"
  | names => "one of " ++ ", ".intercalate (names.map fun n => "`" ++ n ++ "`")

/-- The wording of a decoding error; a fault of the grammar has none of its own. -/
def DecodeError.message : DecodeError → String
  | .malformed => "<syntax>"
  | .invalidType => "invalid type"
  | .invalidValue => "invalid value"
  | .invalidLength => "invalid length"
  | .missingField name => "missing field `" ++ name ++ "`"
  | .duplicateField name => "duplicate field `" ++ name ++ "`"
  | .unknownVariant name expected =>
    "unknown variant `" ++ name ++ "`, expected " ++ expectation expected

/-- Reads a draft as a value of a type. -/
abbrev Decoder (α : Type) := Draft → Except DecodeError α

namespace Decoder

/-- The error at a draft of the wrong type. A scalar is read to its end before its type is looked
at; a container is not. -/
def mismatch : Draft → DecodeError
  | .faulty => .malformed
  | .number none => .malformed
  | .string none => .malformed
  | _ => .invalidType

/-- A text. -/
def text : Decoder String
  | .string (some s) => .ok s
  | d => .error (mismatch d)

/-- A truth value. -/
def bool : Decoder Bool
  | .bool b => .ok b
  | d => .error (mismatch d)

/-- A natural number below `bound`. -/
def natBelow (bound : Nat) : Decoder Nat
  | .number (some (.integer n)) =>
    if 0 ≤ n ∧ n < bound then .ok n.toNat else .error .invalidValue
  | d => .error (mismatch d)

/-- Any value. -/
def value : Decoder Json := fun d =>
  match d.toJson? with
  | some v => .ok v
  | none => .error .malformed

/-- A value or null. -/
def optional {α : Type} (decode : Decoder α) : Decoder (Option α)
  | .null => .ok none
  | d => some <$> decode d

/-- The items of an array, in order. -/
def items {α : Type} (decode : Decoder α) : List Draft → Except DecodeError (List α)
  | [] => .ok []
  | d :: rest => do
    let first ← decode d
    let others ← items decode rest
    return first :: others

/-- An array. -/
def list {α : Type} (decode : Decoder α) : Decoder (List α)
  | .array ds => items decode ds
  | d => .error (mismatch d)

/-- The case with a name. -/
def named {α : Type} (cases : List (String × α)) (name : String) : Except DecodeError α :=
  match cases.lookup name with
  | some a => .ok a
  | none => .error (.unknownVariant name (cases.map (·.1)))

/-- A case without content: its name, or an object with the name as its one key and null behind
it. -/
def oneOf {α : Type} (cases : List (String × α)) : Decoder α
  | .string (some s) => named cases s
  | .object [(s, d)] => do
    let a ← named cases s
    match d with
    | .null => return a
    | d => throw (mismatch d)
  | .object _ => .error .invalidValue
  | d => .error (mismatch d)

/-- A case without content as a field of a tagged message, where an empty object behind the name is
as good as null. -/
def withinMessage {α : Type} (decode : Decoder α) : Decoder α
  | .object [(s, .object [])] => decode (.object [(s, .null)])
  | d => decode d

/-- A draft whose grammar and values are checked before it is looked into. -/
def whole (d : Draft) : Except DecodeError Unit :=
  match d.toJson? with
  | some _ => .ok ()
  | none => .error .malformed

end Decoder

/-- A way to read a record: what to check of a field when it is met, how to build the record from
its members, and how to build it from items in order. -/
structure Record (α : Type) where
  fields : List (String × (Draft → Except DecodeError Unit))
  ofMembers : List (String × Draft) → Except DecodeError α
  ofItems : List Draft → Except DecodeError (α × List Draft)

namespace Record

/-- The value of the first member with a key. -/
def lookup? (key : String) : List (String × Draft) → Option Draft
  | [] => none
  | (k, d) :: rest => if k == key then some d else lookup? key rest

/-- One field; `absent` is what it stands for when it is left out. -/
def field {α : Type} (name : String) (decode : Decoder α) (absent : Option α) : Record α where
  fields := [(name, fun d => (fun _ => ()) <$> decode d)]
  ofMembers ms :=
    match lookup? name ms, absent with
    | some d, _ => decode d
    | none, some a => .ok a
    | none, none => .error (.missingField name)
  ofItems
    | d :: rest => (·, rest) <$> decode d
    | [] =>
      match absent with
      | some a => .ok (a, [])
      | none => .error .invalidLength

/-- A field that must be there. -/
def required {α : Type} (name : String) (decode : Decoder α) : Record α :=
  field name decode none

/-- A field that may be left out. -/
def defaulted {α : Type} (name : String) (decode : Decoder α) (absent : α) : Record α :=
  field name decode (some absent)

/-- A field that may be left out or null. -/
def optional {α : Type} (name : String) (decode : Decoder α) : Record (Option α) :=
  defaulted name (Decoder.optional decode) none

instance : Applicative Record where
  pure a := ⟨[], fun _ => .ok a, fun ds => .ok (a, ds)⟩
  seq f x :=
    let x := x ()
    { fields := f.fields ++ x.fields
      ofMembers := fun ms => do
        let g ← f.ofMembers ms
        let a ← x.ofMembers ms
        return g a
      ofItems := fun ds => do
        let (g, ds) ← f.ofItems ds
        let (a, ds) ← x.ofItems ds
        return (g a, ds) }

/-- Checks the members in order: a known field at most once and with a value of its type, any other
with a value that follows the grammar. -/
def checkMembers {α : Type} (r : Record α) (seen : List String) :
    List (String × Draft) → Except DecodeError Unit
  | [] => .ok ()
  | (key, d) :: rest => do
    match r.fields.find? (·.1 == key) with
    | some (_, check) =>
      if seen.contains key then throw (.duplicateField key)
      check d
      checkMembers r (key :: seen) rest
    | none =>
      unless d.isGrammatical do throw .malformed
      checkMembers r seen rest

/-- Reads a record; `excess` is the error for items left over. -/
def read {α : Type} (r : Record α) (excess : DecodeError) : Decoder α
  | .object members => do
    r.checkMembers [] members
    r.ofMembers members
  | .array ds => do
    let (a, rest) ← r.ofItems ds
    if rest.isEmpty then return a else throw excess
  | d => .error (Decoder.mismatch d)

end Record

/-- A way to read a tagged message: the field that names the case, and how each case is read from
the members or items that remain. -/
structure Tagged (α : Type) where
  tag : String
  cases : List (String × Record α)

namespace Tagged

/-- The case with the given name. -/
def case? {α : Type} (t : Tagged α) : Decoder (Record α)
  | .string (some s) => Decoder.named t.cases s
  | d => .error (Decoder.mismatch d)

/-- Walks the members: the case, once its tag has been met, and the other members. -/
def splitMembers {α : Type} (t : Tagged α) (found : Option (Record α))
    (others : List (String × Draft)) :
    List (String × Draft) → Except DecodeError (Option (Record α) × List (String × Draft))
  | [] => .ok (found, others.reverse)
  | (key, d) :: rest =>
    if key == t.tag then
      match found with
      | some _ => .error (.duplicateField key)
      | none => do
        let r ← t.case? d
        splitMembers t (some r) others rest
    else do
      Decoder.whole d
      splitMembers t found ((key, d) :: others) rest

/-- Reads a tagged message. -/
def read {α : Type} (t : Tagged α) : Decoder α
  | .object members => do
    let (found, others) ← t.splitMembers none [] members
    match found with
    | some r => r.read .invalidLength (.object others)
    | none => throw (.missingField t.tag)
  | .array [] => .error (.missingField t.tag)
  | .array (d :: rest) => do
    let r ← t.case? d
    Decoder.whole (.array rest)
    r.read .invalidLength (.array rest)
  | d => .error (Decoder.mismatch d)

end Tagged

/-- Reads a text that is one value of the wanted type and nothing else. -/
def Decoder.fromOutcome {α : Type} (decode : Decoder α) (outcome : Reader.Outcome) :
    Except DecodeError α := do
  let a ← decode outcome.value
  if outcome.trailing then throw .malformed else return a

/-- Reads a text as a value of a type. -/
def Decoder.fromText {α : Type} (decode : Decoder α) (cs : List Char) : Except DecodeError α :=
  decode.fromOutcome (Draft.read cs)

/-- Reads a value as a value of another type. -/
def Decoder.fromJson {α : Type} (decode : Decoder α) (value : Json) : Except DecodeError α :=
  decode (.ofJson value)

end ManagementServer
