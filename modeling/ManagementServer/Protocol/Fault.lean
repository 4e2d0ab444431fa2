import ManagementServer.Json.Decode

/-!
# Faults on a connection

What can go wrong between a peer's bytes and an answer. After some faults the connection goes on
(`Fault.isRecoverable`).
-/

namespace ManagementServer.Protocol

/-- Why a line was not read as a message. -/
inductive Malformation where
  | emptyLine
  | json (error : DecodeError)
  | other (message : String)
  deriving DecidableEq, Repr, Inhabited

/-- The wording of a malformation. -/
def Malformation.message : Malformation → String
  | .emptyLine => "empty request line"
  | .json error => error.message
  | .other message => message

/-- What went wrong on a connection. -/
inductive Fault where
  | malformedJsonl (cause : Malformation)
  | invalidStructure (message : String)
  | noSession
  | tooLarge (size limit : Nat)
  | io (message : String)
  | serialize
  | internal (message : String)
  deriving DecidableEq, Repr, Inhabited

namespace Fault

/-- The wording of a fault. -/
def message : Fault → String
  | .malformedJsonl cause => "malformed JSONL: " ++ cause.message
  | .invalidStructure text => "invalid request structure: " ++ text
  | .noSession => "no session is registered on this connection"
  | .tooLarge size limit => s!"request too large: {size} bytes exceeds {limit} byte limit"
  | .io text => "IO error: " ++ text
  | .serialize => "failed to serialize response: <detail>"
  | .internal text => "internal error: " ++ text

/-- Whether the connection goes on after the fault. -/
def isRecoverable : Fault → Bool
  | .malformedJsonl _ | .invalidStructure _ | .noSession => true
  | .tooLarge _ _ | .io _ | .serialize | .internal _ => false

end Fault

end ManagementServer.Protocol
