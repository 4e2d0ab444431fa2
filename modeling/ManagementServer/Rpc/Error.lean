import ManagementServer.Json.Decode

/-!
# Errors in replies

The kinds of error that a request can be answered with, each with its error tag.
-/

namespace ManagementServer.Rpc

/-- What kind of error a request met. -/
inductive ErrorKind where
  | duplicateSession
  | duplicateModule
  | notFound
  | missingParameter
  | invalidValue
  | operationNotSupported
  | operationFailed
  | alreadySubscribed
  deriving DecidableEq, Repr, Inhabited

namespace ErrorKind

/-- Every kind. -/
def all : List ErrorKind :=
  [.duplicateSession, .duplicateModule, .notFound, .missingParameter, .invalidValue,
    .operationNotSupported, .operationFailed, .alreadySubscribed]

/-- The name of a kind in a message. -/
def name : ErrorKind → String
  | .duplicateSession => "duplicate-session"
  | .duplicateModule => "duplicate-module"
  | .notFound => "not-found"
  | .missingParameter => "missing-parameter"
  | .invalidValue => "invalid-value"
  | .operationNotSupported => "operation-not-supported"
  | .operationFailed => "operation-failed"
  | .alreadySubscribed => "already-subscribed"

/-- The protocol's error tag for a kind. -/
def tag : ErrorKind → String
  | .missingParameter => "missing-element"
  | .invalidValue | .notFound => "invalid-value"
  | .operationNotSupported => "operation-not-supported"
  | .duplicateSession | .duplicateModule | .operationFailed | .alreadySubscribed =>
    "operation-failed"

/-- Reads the name of a kind. -/
def decode : Decoder ErrorKind :=
  Decoder.oneOf (all.map fun k => (k.name, k))

end ErrorKind

/-- An error in a reply; it may name the element at fault. -/
structure Error where
  kind : ErrorKind
  message : String
  badElement : Option String
  deriving DecidableEq, Repr, Inhabited

namespace Error

/-- An error that names no element. -/
def plain (kind : ErrorKind) (message : String) : Error := ⟨kind, message, none⟩

/-- An element is not there. -/
def missingParameter (element : String) : Error :=
  ⟨.missingParameter, s!"missing required element '{element}'", some element⟩

/-- An element has a value that it must not have. -/
def invalidValue (element message : String) : Error :=
  ⟨.invalidValue, message, some element⟩

/-- Nobody can do what is asked. -/
def notSupported (message : String) : Error := plain .operationNotSupported message

/-- What is asked could not be done. -/
def failed (message : String) : Error := plain .operationFailed message

/-- The members of the written form. -/
def members (e : Error) : List (String × Json) :=
  [("kind", .string e.kind.name), ("message", .string e.message)] ++
    (e.badElement.map fun element => ("bad_element", Json.string element)).toList

/-- The fields to read an error from. -/
def fields : Record Error :=
  Error.mk <$> Record.required "kind" ErrorKind.decode.withinMessage
    <*> Record.required "message" Decoder.text <*> Record.optional "bad_element" Decoder.text

/-- The written form, members in their fixed order. -/
def encode (e : Error) : Json := .object e.members

/-- Reads the written form. -/
def decode : Decoder Error := fields.read .malformed

end Error

end ManagementServer.Rpc
