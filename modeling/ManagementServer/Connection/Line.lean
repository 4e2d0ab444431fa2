import ManagementServer.Protocol.Fault

/-!
# Lines out of bytes

A peer's bytes come in pieces of any size; `LineReader.next` puts lines together from them, however
they are cut, and refuses a line that grows too long.
-/

namespace ManagementServer.Connection

/-- What reading from a connection can come to. -/
inductive Reading where
  | bytes (chunk : List UInt8)
  | endOfInput
  | timeout
  | interrupted
  | failed (message : String)
  deriving DecidableEq, Repr, Inhabited

/-- What a line reader has to say. The bytes of a line include its line feed, if it has one. -/
inductive ReadEvent where
  | line (bytes : List UInt8)
  | timeout
  | hangUp
  deriving DecidableEq, Repr, Inhabited

/-- The most bytes that a line may have, its line feed not counted. -/
def maxLineSize : Nat := 1024 * 1024

/-- The most bytes that are read at once. -/
def readSize : Nat := 1024

/-- The line feed. -/
def lineFeed : UInt8 := 0x0A

/-- The bytes that were read and not yet handed on. -/
structure LineReader where
  buffer : List UInt8
  deriving DecidableEq, Repr, Inhabited

namespace LineReader

/-- A reader that has read nothing. -/
def empty : LineReader := ⟨[]⟩

/-- Cuts a line off the front of bytes: what it consists of before its line feed, and what comes
behind it. -/
def cut (done : List UInt8) : List UInt8 → Option (List UInt8 × List UInt8)
  | [] => none
  | b :: rest => if b == lineFeed then some (done.reverse, rest) else cut (b :: done) rest

/-- What can be said without reading: a line, or that the line at hand is too long. -/
def ready? (r : LineReader) : Option (Except Protocol.Fault (List UInt8 × LineReader)) :=
  match cut [] r.buffer with
  | some (line, rest) =>
    if maxLineSize < line.length then some (.error (.tooLarge line.length maxLineSize))
    else some (.ok (line ++ [lineFeed], ⟨rest⟩))
  | none =>
    if maxLineSize < r.buffer.length then
      some (.error (.tooLarge r.buffer.length maxLineSize))
    else none

/-- What comes of reading once, when nothing could be said without; `none` means to read on. -/
def take (r : LineReader) : Reading → Option (Except Protocol.Fault ReadEvent) × LineReader
  | .bytes chunk => (none, ⟨r.buffer ++ chunk⟩)
  | .endOfInput =>
    if r.buffer.isEmpty then (some (.ok .hangUp), r) else (some (.ok (.line r.buffer)), empty)
  | .timeout => (some (.ok .timeout), r)
  | .interrupted => (none, r)
  | .failed message => (some (.error (.io message)), r)

/-- The next event, given what reading comes to from now on; when that runs out, the input is at its
end. Returns the reader and the readings that are left. -/
def next (r : LineReader) :
    List Reading → Except Protocol.Fault ReadEvent × LineReader × List Reading
  | [] =>
    match r.ready? with
    | some (.ok (line, r)) => (.ok (.line line), r, [])
    | some (.error fault) => (.error fault, r, [])
    | none =>
      match r.take .endOfInput with
      | (some outcome, r) => (outcome, r, [])
      | (none, r) => (.ok .hangUp, r, [])
  | reading :: rest =>
    match r.ready? with
    | some (.ok (line, r)) => (.ok (.line line), r, reading :: rest)
    | some (.error fault) => (.error fault, r, reading :: rest)
    | none =>
      match r.take reading with
      | (some outcome, r) => (outcome, r, rest)
      | (none, r) => next r rest

end LineReader

end ManagementServer.Connection
