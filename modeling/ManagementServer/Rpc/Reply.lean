import ManagementServer.Json.Merge
import ManagementServer.Rpc.Error

/-!
# Replies

What a request is answered with, and how the answers of several modules become one: the first error
wins, an answer without data adds nothing, and data are merged (`Reply.merge`).
-/

namespace ManagementServer.Rpc

/-- The answer to a request. -/
inductive Reply where
  | ok
  | data (value : Json)
  | error (error : Error)
  deriving Repr, Inhabited

namespace Reply

/-- Whether two replies are the same. -/
def same : Reply → Reply → Bool
  | .ok, .ok => true
  | .data a, .data b => a == b
  | .error a, .error b => a == b
  | _, _ => false

instance : BEq Reply := ⟨same⟩

/-- The error of a reply. -/
def error? : Reply → Option Error
  | .error e => some e
  | _ => none

/-- Whether a reply is an error. -/
def isError (r : Reply) : Bool :=
  r.error?.isSome

/-- One reply out of two, the later one's data winning. -/
def merge : Reply → Reply → Reply
  | .error e, _ => .error e
  | _, .error e => .error e
  | .ok, later => later
  | earlier, .ok => earlier
  | .data earlier, .data later => .data (Json.merge earlier later)

/-- One reply out of many. -/
def mergeAll (replies : List Reply) : Reply :=
  replies.foldl merge .ok

/-- The written form, members in their fixed order. -/
def encode : Reply → Json
  | .ok => .object [("status", .string "ok")]
  | .data value => .object [("status", .string "data"), ("data", value)]
  | .error e => .object (("status", .string "error") :: e.members)

/-- How each kind of reply is read. -/
def tagged : Tagged Reply where
  tag := "status"
  cases :=
    [("ok", pure .ok), ("data", Reply.data <$> Record.required "data" Decoder.value),
      ("error", Reply.error <$> Error.fields)]

/-- Reads the written form. -/
def decode : Decoder Reply := tagged.read

end Reply

end ManagementServer.Rpc
