import ManagementServer.Json.Basic
import ManagementServer.Numeric.Reading

/-!
# Reading JSON

A text is read one character at a time by a machine with a stack of open containers
(`Reader.step`), so reading is a left fold and a text cut in two is read in two. The result is a
`Draft`: the value as far as it could be read, with repeated keys kept and the place of the first
fault marked. Decoders walk a draft from left to right and so meet a wrong type and a fault in the
order in which they stand in the text. Main entry points: `Draft.read` and `Json.parse?`.
-/

namespace ManagementServer

/-- A value as read from a text. `number none` is a numeral out of range and `string none` a string
with an unpaired surrogate; `faulty` stands where the text breaks off or breaks the grammar, and is
then the last item of its array, or the value of the last member of its object. -/
inductive Draft where
  | null
  | bool (value : Bool)
  | number (value : Option Number)
  | string (value : Option String)
  | array (items : List Draft)
  | object (members : List (String × Draft))
  | faulty
  deriving Repr, Inhabited

namespace Reader

/-- A container that is still open, with what it holds so far, the latest first. -/
inductive Frame where
  | items (done : List Draft)
  | members (done : List (String × Draft)) (key : String)
  deriving Repr

/-- Where in an escape a string stands. -/
inductive Escape where
  | none
  | opened
  | hex (value left : Nat)
  deriving Repr, DecidableEq

/-- A string being read: its characters, the latest first, whether it is well formed, and a high
surrogate that waits for its partner. -/
structure Quote where
  chars : List Char
  valid : Bool
  high : Option Nat
  escape : Escape
  deriving Repr

/-- Where in a numeral the reader stands. -/
inductive Part where
  | minus
  | zero
  | whole
  | point
  | fraction
  | mark
  | sign
  | exponent
  deriving Repr, DecidableEq

/-- A numeral being read; digits are kept with the latest first. -/
structure Numeral where
  negative : Bool
  whole : List Char
  fraction : List Char
  marked : Bool
  exponentNegative : Bool
  exponent : List Char
  part : Part
  deriving Repr

/-- What is being read. -/
inductive Mode where
  /-- A value must follow. -/
  | value
  /-- Behind an opening bracket: a value or the closing bracket. -/
  | firstItem
  /-- Behind an opening brace: a key or the closing brace. -/
  | firstKey
  /-- Behind a comma in an object: a key. -/
  | nextKey
  /-- Behind a key: the colon. -/
  | colon
  /-- Behind a value: a comma or the end of the container. -/
  | after
  | keyText (quote : Quote)
  | text (quote : Quote)
  | numeral (numeral : Numeral)
  /-- Inside a literal name, with the letters to come. -/
  | word (rest : List Char) (value : Draft)
  /-- Behind the complete value. -/
  | finished (value : Draft)
  /-- Behind the first fault. -/
  | broken
  deriving Repr

/-- The reader: how many more containers may be opened, the open ones, the innermost first, and
what is being read. -/
structure State where
  room : Nat
  stack : List Frame
  mode : Mode
  deriving Repr

/-- White space between tokens. -/
def isSpace (c : Char) : Bool :=
  c == ' ' || c == '\t' || c == '\n' || c == '\r'

/-- An empty string being read. -/
def Quote.start : Quote := ⟨[], true, none, .none⟩

/-- Adds a character that was written as itself or by a short escape. -/
def Quote.push (q : Quote) (c : Char) : Quote :=
  ⟨c :: q.chars, q.valid && q.high.isNone, none, .none⟩

/-- Adds the code unit of a hexadecimal escape. -/
def Quote.pushUnit (q : Quote) (n : Nat) : Quote :=
  match q.high with
  | some high =>
    if 0xDC00 ≤ n && n ≤ 0xDFFF then
      let c := Char.ofNat (0x10000 + (high - 0xD800) * 0x400 + (n - 0xDC00))
      ⟨c :: q.chars, q.valid, none, .none⟩
    else ⟨q.chars, false, none, .none⟩
  | none =>
    if 0xD800 ≤ n && n ≤ 0xDBFF then ⟨q.chars, q.valid, some n, .none⟩
    else if 0xDC00 ≤ n && n ≤ 0xDFFF then ⟨q.chars, false, none, .none⟩
    else ⟨Char.ofNat n :: q.chars, q.valid, none, .none⟩

/-- The character that a short escape stands for. -/
def shortEscape? (c : Char) : Option Char :=
  if c == '"' then some '"'
  else if c == '\\' then some '\\'
  else if c == '/' then some '/'
  else if c == 'b' then some (Char.ofNat 8)
  else if c == 'f' then some (Char.ofNat 12)
  else if c == 'n' then some '\n'
  else if c == 'r' then some '\r'
  else if c == 't' then some '\t'
  else none

/-- What a character does to a string being read: the string goes on, ends, or is at fault. -/
inductive QuoteStep where
  | more (quote : Quote)
  | closed (text : Option String)
  | fault

/-- The text of a complete string, unless a surrogate is left alone. -/
def Quote.finish (q : Quote) : Option String :=
  if q.valid && q.high.isNone then some (String.ofList q.chars.reverse) else none

/-- Reads one character of a string. -/
def Quote.step (q : Quote) (c : Char) : QuoteStep :=
  match q.escape with
  | .none =>
    if c == '"' then .closed q.finish
    else if c == '\\' then .more { q with escape := .opened }
    else if c.toNat < 0x20 then .fault
    else .more (q.push c)
  | .opened =>
    if c == 'u' then .more { q with escape := .hex 0 4 }
    else match shortEscape? c with
      | some c => .more (q.push c)
      | none => .fault
  | .hex value left =>
    match Text.Digits.hexValue? c with
    | none => .fault
    | some d =>
      let value := value * 16 + d
      if left ≤ 1 then .more (q.pushUnit value)
      else .more { q with escape := .hex value (left - 1) }

/-- A numeral that begins with the given character. -/
def Numeral.start? (c : Char) : Option Numeral :=
  if c == '-' then some ⟨true, [], [], false, false, [], .minus⟩
  else if c == '0' then some ⟨false, [c], [], false, false, [], .zero⟩
  else if c.isDigit then some ⟨false, [c], [], false, false, [], .whole⟩
  else none

/-- The numeral with one more character; `none` when the character does not belong to it. -/
def Numeral.push? (n : Numeral) (c : Char) : Option Numeral :=
  let isMark := c == 'e' || c == 'E'
  match n.part with
  | .minus =>
    if c == '0' then some { n with whole := [c], part := .zero }
    else if c.isDigit then some { n with whole := [c], part := .whole }
    else none
  | .zero =>
    if c == '.' then some { n with part := .point }
    else if isMark then some { n with part := .mark, marked := true }
    else none
  | .whole =>
    if c.isDigit then some { n with whole := c :: n.whole }
    else if c == '.' then some { n with part := .point }
    else if isMark then some { n with part := .mark, marked := true }
    else none
  | .point => if c.isDigit then some { n with fraction := [c], part := .fraction } else none
  | .fraction =>
    if c.isDigit then some { n with fraction := c :: n.fraction }
    else if isMark then some { n with part := .mark, marked := true }
    else none
  | .mark =>
    if c == '+' then some { n with part := .sign }
    else if c == '-' then some { n with part := .sign, exponentNegative := true }
    else if c.isDigit then some { n with exponent := [c], part := .exponent }
    else none
  | .sign => if c.isDigit then some { n with exponent := [c], part := .exponent } else none
  | .exponent => if c.isDigit then some { n with exponent := c :: n.exponent } else none

/-- Whether a numeral may end here. -/
def Numeral.isComplete (n : Numeral) : Bool :=
  n.part == .zero || n.part == .whole || n.part == .fraction || n.part == .exponent

/-- The size of a numeral's exponent. Past twelve digits it is too large for its value to matter. -/
def Numeral.exponentSize (n : Numeral) : Nat :=
  Text.Digits.decimal ((n.exponent.reverse.dropWhile (· == '0')).take 12)

/-- The integer that a complete numeral spells, if it is one of 64 bits; of more than twenty digits
none is. A negative zero is no integer. -/
def Numeral.integer? (n : Numeral) : Option Int :=
  if n.fraction.isEmpty && !n.marked && n.whole.length ≤ 20 then
    let size := Text.Digits.decimal n.whole.reverse
    if n.negative && size == 0 then none
    else (some (if n.negative then -(size : Int) else size)).filter Number.isExact
  else none

/-- The number that a complete numeral spells: an integer of 64 bits, or else a double; `none` when
it is out of range. -/
def Numeral.value (n : Numeral) : Option Number :=
  match n.integer? with
  | some integer => some (.integer integer)
  | none =>
    let exponent : Int := if n.exponentNegative then -n.exponentSize else n.exponentSize
    (Numeric.Binary64.ofDigits n.negative n.whole.reverse n.fraction.reverse exponent).map .double

/-- The reader behind a complete value. -/
def State.put (s : State) (value : Draft) : State :=
  match s.stack with
  | [] => { s with mode := .finished value }
  | .items done :: rest => { s with stack := .items (value :: done) :: rest, mode := .after }
  | .members done key :: rest =>
    { s with stack := .members ((key, value) :: done) "" :: rest, mode := .after }

/-- The reader at a fault. -/
def State.fail (s : State) : State :=
  { s with mode := .broken }

/-- Opens a container, if there is room for one more. -/
def State.openWith (s : State) (frame : Frame) (mode : Mode) : State :=
  match s.room with
  | 0 => s.fail
  | room + 1 => ⟨room, frame :: s.stack, mode⟩

/-- Closes the innermost container. -/
def State.close (s : State) : State :=
  match s.stack with
  | [] => s.fail
  | .items done :: rest => State.put ⟨s.room + 1, rest, .after⟩ (.array done.reverse)
  | .members done _ :: rest => State.put ⟨s.room + 1, rest, .after⟩ (.object done.reverse)

/-- Begins a value. -/
def State.beginValue (s : State) (c : Char) : State :=
  if c == '[' then s.openWith (.items []) .firstItem
  else if c == '{' then s.openWith (.members [] "") .firstKey
  else if c == '"' then { s with mode := .text .start }
  else if c == 'n' then { s with mode := .word ['u', 'l', 'l'] .null }
  else if c == 't' then { s with mode := .word ['r', 'u', 'e'] (.bool true) }
  else if c == 'f' then { s with mode := .word ['a', 'l', 's', 'e'] (.bool false) }
  else match Numeral.start? c with
    | some n => { s with mode := .numeral n }
    | none => s.fail

/-- Reads one character behind a value inside a container, or behind the whole value. -/
def State.stepAfter (s : State) (c : Char) : State :=
  if isSpace c then s
  else match s.mode, s.stack with
    | .finished _, _ => s.fail
    | _, .items _ :: _ =>
      if c == ',' then { s with mode := .value } else if c == ']' then s.close else s.fail
    | _, .members _ _ :: _ =>
      if c == ',' then { s with mode := .nextKey } else if c == '}' then s.close else s.fail
    | _, [] => s.fail

/-- The reader with the key of the member that is being read. -/
def State.putKey (s : State) (key : String) : State :=
  match s.stack with
  | .members done _ :: rest => { s with stack := .members done key :: rest, mode := .colon }
  | _ => s.fail

/-- A value behind which something else than white space and the end follows is kept apart, so a
decoder can look at the value before it looks at the rest. -/
structure Outcome where
  value : Draft
  trailing : Bool
  deriving Repr

end Reader

/-- A reader together with the complete value, if something followed it. -/
structure Reader where
  state : Reader.State
  excess : Option Draft
  deriving Repr

namespace Reader

/-- A reader at the start of a text in which at most `room` containers are open at once. -/
def start (room : Nat) : Reader := ⟨⟨room, [], .value⟩, none⟩

/-- Reads one character of a value. -/
def State.step (s : State) (c : Char) : State :=
  match s.mode with
  | .value => if isSpace c then s else s.beginValue c
  | .firstItem => if isSpace c then s else if c == ']' then s.close else s.beginValue c
  | .firstKey =>
    if isSpace c then s
    else if c == '}' then s.close
    else if c == '"' then { s with mode := .keyText .start }
    else s.fail
  | .nextKey =>
    if isSpace c then s else if c == '"' then { s with mode := .keyText .start } else s.fail
  | .colon => if isSpace c then s else if c == ':' then { s with mode := .value } else s.fail
  | .after => s.stepAfter c
  | .keyText q =>
    match q.step c with
    | .more q => { s with mode := .keyText q }
    | .closed (some key) => s.putKey key
    | .closed none => s.fail
    | .fault => s.fail
  | .text q =>
    match q.step c with
    | .more q => { s with mode := .text q }
    | .closed text => s.put (.string text)
    | .fault => s.fail
  | .numeral n =>
    match n.push? c with
    | some n => { s with mode := .numeral n }
    | none =>
      if n.isComplete then
        let s := s.put (.number n.value)
        s.stepAfter c
      else s.fail
  | .word [] value => (s.put value).stepAfter c
  | .word [last] value => if c == last then s.put value else s.fail
  | .word (next :: rest) value => if c == next then { s with mode := .word rest value } else s.fail
  | .finished _ => s.stepAfter c
  | .broken => s

/-- The complete value that a reader holds. -/
def State.finished? (s : State) : Option Draft :=
  match s.mode with
  | .finished value => some value
  | .numeral n => if n.isComplete && s.stack.isEmpty then some (.number n.value) else none
  | _ => none

/-- Reads one character; when it follows the complete value, that value is set aside. -/
def step (r : Reader) (c : Char) : Reader :=
  match r.excess with
  | some _ => r
  | none =>
    let next := r.state.step c
    match next.mode, r.state.finished? with
    | .broken, some value => ⟨next, some value⟩
    | _, _ => ⟨next, none⟩

/-- A container whose last part is at fault. -/
def Frame.breakOff (frame : Frame) (inner : Draft) : Draft :=
  match frame with
  | .items done => .array (inner :: done).reverse
  | .members done key => .object ((key, inner) :: done).reverse

/-- What was read of a text that ended too early or at a fault. -/
def State.breakOff (s : State) : Draft :=
  s.stack.foldl (fun inner frame => frame.breakOff inner) .faulty

/-- The value read at the end of the text. -/
def finish (r : Reader) : Outcome :=
  match r.excess, r.state.finished? with
  | some value, _ => ⟨value, true⟩
  | none, some value => ⟨value, false⟩
  | none, none => ⟨r.state.breakOff, false⟩

end Reader

namespace Draft

/-- How deeply containers may be nested in a value. -/
def maxDepth : Nat := 127

/-- Reads a text in which at most `room` containers are open at once. -/
def readWithin (room : Nat) (cs : List Char) : Reader.Outcome :=
  (cs.foldl Reader.step (Reader.start room)).finish

/-- Reads a text. -/
def read (cs : List Char) : Reader.Outcome :=
  readWithin maxDepth cs

mutual

/-- The value that a draft without a fault stands for; of two members with one key the later
counts. -/
def toJson? : Draft → Option Json
  | .null => some .null
  | .bool b => some (.bool b)
  | .number n => n.map .number
  | .string s => s.map .string
  | .array items => (itemsToJson? items).map .array
  | .object members => (membersToJson? members).map Json.ofMembers
  | .faulty => none

/-- The values that drafts stand for. -/
def itemsToJson? : List Draft → Option (List Json)
  | [] => some []
  | item :: rest => do
    let value ← toJson? item
    let values ← itemsToJson? rest
    return value :: values

/-- The members that drafts stand for. -/
def membersToJson? : List (String × Draft) → Option (List (String × Json))
  | [] => some []
  | (key, item) :: rest => do
    let value ← toJson? item
    let values ← membersToJson? rest
    return (key, value) :: values

end

mutual

/-- Whether a draft follows the grammar. An unpaired surrogate or a number out of range does not
break it. -/
def isGrammatical : Draft → Bool
  | .array items => itemsAreGrammatical items
  | .object members => membersAreGrammatical members
  | .faulty => false
  | _ => true

/-- Whether all drafts follow the grammar. -/
def itemsAreGrammatical : List Draft → Bool
  | [] => true
  | item :: rest => isGrammatical item && itemsAreGrammatical rest

/-- Whether the drafts of all members follow the grammar. -/
def membersAreGrammatical : List (String × Draft) → Bool
  | [] => true
  | (_, item) :: rest => isGrammatical item && membersAreGrammatical rest

end

mutual

/-- The draft of a value. -/
def ofJson : Json → Draft
  | .null => .null
  | .bool b => .bool b
  | .number n => .number (some n)
  | .string s => .string (some s)
  | .array items => .array (ofItems items)
  | .object members => .object (ofMembers members)

/-- The drafts of values. -/
def ofItems : List Json → List Draft
  | [] => []
  | item :: rest => ofJson item :: ofItems rest

/-- The drafts of members. -/
def ofMembers : List (String × Json) → List (String × Draft)
  | [] => []
  | (key, item) :: rest => (key, ofJson item) :: ofMembers rest

end

end Draft

/-- Reads a text that is one value. -/
def Json.parse? (s : String) : Option Json :=
  let outcome := Draft.read s.toList
  if outcome.trailing then none else outcome.value.toJson?

end ManagementServer
