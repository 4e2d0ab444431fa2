import ManagementServer.Yaml.Basic
import ManagementServer.Text.Blank
import ManagementServer.Text.Digits

/-!
# Characters and scalars of YAML

A scanner walks the characters of one document and knows the column it is in. This module reads the
space between nodes and the five kinds of scalar: plain, in single or double quotes, literal and
folded.
-/

namespace ManagementServer.Yaml

/-- The position in a document: the characters to come, the column, and whether the character
before was a space or the start of a line. -/
structure Position where
  rest : List Char
  column : Nat
  behindSpace : Bool
  deriving Repr

/-- The scanner's state: a position, and the nodes that have been given names. -/
structure ScanState where
  position : Position
  anchors : List (String × Node)

/-- A step of the scanner; `none` when the document is not YAML. -/
abbrev Scan (α : Type) := StateT ScanState Option α

/-- The position behind one character. -/
def Position.next (p : Position) : Position :=
  match p.rest with
  | [] => p
  | '\n' :: rest => ⟨rest, 0, true⟩
  | c :: rest => ⟨rest, p.column + 1, c == ' ' || c == '\t'⟩

/-- The position behind `count` characters. -/
def Position.drop (p : Position) : Nat → Position
  | 0 => p
  | count + 1 => p.next.drop count

namespace Scan

/-- Gives up. -/
def fail {α : Type} : Scan α := StateT.lift none

/-- The current position. -/
def position : Scan Position := return (← get).position

/-- Moves to a position. -/
def moveTo (p : Position) : Scan Unit := modify fun s => { s with position := p }

/-- The characters to come. -/
def rest : Scan (List Char) := return (← position).rest

/-- The next character. -/
def peek : Scan (Option Char) := return (← rest).head?

/-- The current column. -/
def column : Scan Nat := return (← position).column

/-- Moves behind `count` characters. -/
def skip (count : Nat) : Scan Unit := do moveTo ((← position).drop count)

/-- Gives up unless a condition holds. -/
def require (condition : Bool) : Scan Unit := if condition then pure () else fail

end Scan

/-- Whether a character ends a word: a space, a line end or the end of the document. -/
def isGap : Option Char → Bool
  | none => true
  | some c => c == ' ' || c == '\t' || c == '\n'

/-- Characters that structure a flow collection. -/
def isFlowIndicator (c : Char) : Bool :=
  c == ',' || c == '[' || c == ']' || c == '{' || c == '}'

/-- The number of spaces and tabs, and of the comment behind them, up to the end of the line. -/
def inlineGap (p : Position) : Nat :=
  let blanks := (p.rest.takeWhile fun c => c == ' ' || c == '\t').length
  let behind := p.rest.drop blanks
  if behind.head? == some '#' && (0 < blanks || p.behindSpace) then
    blanks + (behind.takeWhile (· != '\n')).length
  else blanks

namespace Scan

/-- Skips spaces and a comment within the line. -/
def skipInline : Scan Unit := do
  let p ← position
  moveTo (p.drop (inlineGap p))

/-- Whether the line ends here. -/
def atLineEnd : Scan Bool := do
  let c ← peek
  return c == none || c == some '\n'

/-- Skips spaces, comments and line ends; says whether a line ended. In a block no tab may stand in
the indentation of a line with content. -/
def skipGap (isBlock : Bool) : Nat → Scan Bool
  | 0 => fail
  | fuel + 1 => do
    let before ← position
    skipInline
    match ← peek with
    | some '\n' =>
      skip 1
      let _ ← skipGap isBlock fuel
      return true
    | none => return false
    | some _ =>
      let indentation := before.rest.takeWhile fun c => c == ' ' || c == '\t'
      if isBlock && before.column == 0 && indentation.contains '\t' then fail
      return false

end Scan

namespace Scalar

/-- Lines joined as YAML folds them: one line end becomes a space, and of several the first is
dropped. -/
def fold : List (List Char) → List Char
  | [] => []
  | [line] => line
  | line :: rest =>
    let blanks := rest.takeWhile (·.isEmpty)
    let others := rest.drop blanks.length
    if others.isEmpty then line ++ List.replicate blanks.length '\n'
    else
      line ++ (if blanks.isEmpty then [' '] else List.replicate blanks.length '\n') ++ fold others
termination_by lines => lines.length
decreasing_by
  simp only [List.length_drop, List.length_cons]
  omega

/-- A line without blanks at its end. -/
def trimRight (line : List Char) : List Char :=
  (line.reverse.dropWhile fun c => c == ' ' || c == '\t').reverse

/-- A line without blanks at its start. -/
def trimLeft (line : List Char) : List Char :=
  line.dropWhile fun c => c == ' ' || c == '\t'

/-- The plain text at the start of a line: up to a comment, a colon that ends a key, or, inside a
flow collection, an indicator. -/
def plainRun (isFlow : Bool) (behindSpace : Bool) : List Char → List Char
  | [] => []
  | c :: rest =>
    if c == '\n' || (c == '#' && behindSpace) then []
    else if isFlow && isFlowIndicator c then []
    else if c == ':' &&
        (isGap rest.head? || (isFlow && (rest.head?.map isFlowIndicator).getD false)) then []
    else c :: plainRun isFlow (c == ' ' || c == '\t') rest

/-- Whether a plain scalar may begin with these characters. -/
def startsPlain (isFlow : Bool) : List Char → Bool
  | [] => false
  | c :: rest =>
    if c == '-' || c == '?' || c == ':' then
      !isGap rest.head? && !(isFlow && (rest.head?.map isFlowIndicator).getD false)
    else !(c == '\n' || c == ' ' || c == '\t' || ",[]\x7b\x7d#&*!|>'\"%@`".toList.contains c)

/-- The character for an escape letter in double quotes. -/
def escape? (c : Char) : Option Char :=
  match c with
  | '0' => some (Char.ofNat 0)
  | 'a' => some (Char.ofNat 7)
  | 'b' => some (Char.ofNat 8)
  | 't' => some '\t'
  | '\t' => some '\t'
  | 'n' => some '\n'
  | 'v' => some (Char.ofNat 11)
  | 'f' => some (Char.ofNat 12)
  | 'r' => some '\r'
  | 'e' => some (Char.ofNat 27)
  | ' ' => some ' '
  | '"' => some '"'
  | '/' => some '/'
  | '\\' => some '\\'
  | 'N' => some (Char.ofNat 0x85)
  | '_' => some (Char.ofNat 0xA0)
  | 'L' => some (Char.ofNat 0x2028)
  | 'P' => some (Char.ofNat 0x2029)
  | _ => none

/-- How many digits an escape by number has. -/
def escapeWidth? (c : Char) : Option Nat :=
  match c with
  | 'x' => some 2
  | 'u' => some 4
  | 'U' => some 8
  | _ => none

/-- The character with a given number. -/
def scalarValue? (n : Nat) : Option Char :=
  if n < 0xD800 || (0xDFFF < n && n < 0x110000) then some (Char.ofNat n) else none

/-- What stands for a line end inside quotes, and the characters behind it: the blanks around the
line end are dropped. -/
def foldBreak (cs : List Char) : List Char × List Char :=
  let lead := cs.takeWhile fun c => c == ' ' || c == '\t' || c == '\n'
  let breaks := (lead.filter (· == '\n')).length
  (if breaks ≤ 1 then [' '] else List.replicate (breaks - 1) '\n', cs.drop lead.length)

/-- Whether only blanks stand before the end of the line. -/
def isLineEndAhead (cs : List Char) : Bool :=
  (cs.dropWhile fun c => c == ' ' || c == '\t').head? == some '\n'

/-- Reads a text in single quotes behind the opening one: the text, the latest character first, and
what is left. -/
def singleQuoted (done : List Char) : Nat → List Char → Option (List Char × List Char)
  | 0, _ => none
  | fuel + 1, cs =>
    match cs with
    | [] => none
    | '\'' :: '\'' :: rest => singleQuoted ('\'' :: done) fuel rest
    | '\'' :: rest => some (done, rest)
    | c :: rest =>
      if isLineEndAhead (c :: rest) then
        let (folded, rest) := foldBreak (c :: rest)
        singleQuoted (folded.reverse ++ done) fuel rest
      else singleQuoted (c :: done) fuel rest

/-- Reads a text in double quotes behind the opening one: the text, the latest character first, and
what is left. -/
def doubleQuoted (done : List Char) : Nat → List Char → Option (List Char × List Char)
  | 0, _ => none
  | fuel + 1, cs =>
    match cs with
    | [] => none
    | '"' :: rest => some (done, rest)
    | '\\' :: '\n' :: rest =>
      let lead := rest.takeWhile fun c => c == ' ' || c == '\t' || c == '\n'
      let breaks := (lead.filter (· == '\n')).length
      doubleQuoted (List.replicate breaks '\n' ++ done) fuel (rest.drop lead.length)
    | '\\' :: c :: rest =>
      match escape? c, escapeWidth? c with
      | some e, _ => doubleQuoted (e :: done) fuel rest
      | none, some width =>
        let digits := rest.take width
        if digits.length == width then
          match Text.Digits.parse? 16 digits >>= scalarValue? with
          | some e => doubleQuoted (e :: done) fuel (rest.drop width)
          | none => none
        else none
      | none, none => none
    | c :: rest =>
      if isLineEndAhead (c :: rest) then
        let (folded, rest) := foldBreak (c :: rest)
        doubleQuoted (folded.reverse ++ done) fuel rest
      else doubleQuoted (c :: done) fuel rest

/-- What becomes of the line ends at the end of a block scalar. -/
inductive Chomping where
  | strip
  | clip
  | keep
  deriving DecidableEq, Repr

/-- The header of a block scalar behind its indicator: an indentation and a chomping, each at most
once, in either order. -/
def header? (cs : List Char) : Option (Option Nat × Chomping) :=
  let chomping? := fun (c : Char) =>
    if c == '-' then some Chomping.strip else if c == '+' then some Chomping.keep else none
  let digit? := fun (c : Char) =>
    if '1' ≤ c ∧ c ≤ '9' then some (c.toNat - '0'.toNat) else none
  match cs with
  | [] => some (none, .clip)
  | [a] =>
    match chomping? a, digit? a with
    | some c, _ => some (none, c)
    | _, some d => some (some d, .clip)
    | _, _ => none
  | [a, b] =>
    match chomping? a, digit? b, digit? a, chomping? b with
    | some c, some d, _, _ => some (some d, c)
    | _, _, some d, some c => some (some d, c)
    | _, _, _, _ => none
  | _ => none

/-- The lines of a text. -/
def lines (cs : List Char) : List (List Char) :=
  Text.splitOn '\n' cs

/-- How many spaces a line begins with. -/
def indentOf (line : List Char) : Nat :=
  (line.takeWhile (· == ' ')).length

/-- Whether a line holds nothing but spaces. -/
def isEmptyLine (line : List Char) : Bool :=
  line.all (· == ' ')

/-- The lines of a folded scalar joined: a line end between two lines that begin with no blank
becomes a space. -/
def foldBlock : List (List Char) → List Char
  | [] => []
  | [line] => line
  | line :: rest =>
    let startsBlank := fun (l : List Char) => l.head? == some ' ' || l.head? == some '\t'
    let blanks := rest.takeWhile (·.isEmpty)
    let others := rest.drop blanks.length
    let nextBlank := (others.head?.map startsBlank).getD true
    let kept :=
      if line.isEmpty || startsBlank line || nextBlank then blanks.length + 1 else blanks.length
    let gap := if kept == 0 then [' '] else List.replicate kept '\n'
    if others.isEmpty then line ++ List.replicate blanks.length '\n'
    else line ++ gap ++ foldBlock others
termination_by lines => lines.length
decreasing_by
  simp only [List.length_drop, List.length_cons]
  omega

/-- The text of a block scalar from its lines with the indentation taken off. -/
def blockText (isFolded : Bool) (chomping : Chomping) (ls : List (List Char)) : List Char :=
  let trailing := (ls.reverse.takeWhile (·.isEmpty)).length
  let body := ls.take (ls.length - trailing)
  let joined :=
    if isFolded then foldBlock body else ['\n'].intercalate body
  match chomping with
  | .strip => joined
  | .clip => if body.isEmpty then [] else joined ++ ['\n']
  | .keep =>
    if body.isEmpty then List.replicate trailing '\n'
    else joined ++ List.replicate (trailing + 1) '\n'

end Scalar

namespace Scan

/-- Reads a quoted scalar at its opening quote. -/
def quoted : Scan String := do
  let cs ← rest
  let read :=
    match cs with
    | '\'' :: body => Scalar.singleQuoted [] cs.length body
    | '"' :: body => Scalar.doubleQuoted [] cs.length body
    | _ => none
  match read with
  | some (text, left) =>
    skip (cs.length - left.length)
    return String.ofList text.reverse
  | none => fail

/-- Reads the further lines of a plain scalar: those indented by more than `parent`. -/
def plainLines (isFlow : Bool) (parent : Int) (done : List (List Char)) :
    Nat → Scan (List (List Char))
  | 0 => fail
  | fuel + 1 => do
    let before ← position
    let cs := before.rest
    if cs.head? != some '\n' then return done
    let ahead := cs.takeWhile fun c => c == '\n' || c == ' ' || c == '\t'
    let p := before.drop ahead.length
    let run := Scalar.plainRun isFlow true p.rest
    if p.rest.isEmpty || (p.column : Int) ≤ parent || run.isEmpty then return done
    let breaks := (ahead.filter (· == '\n')).length
    moveTo (p.drop run.length)
    let blanks := List.replicate (breaks - 1) []
    plainLines isFlow parent (Scalar.trimRight run :: blanks ++ done) fuel

/-- Reads a plain scalar; `parent` is the indentation that its further lines must exceed. -/
def plain (isFlow : Bool) (parent : Int) : Scan String := do
  let p ← position
  require (Scalar.startsPlain isFlow p.rest)
  let run := Scalar.plainRun isFlow p.behindSpace p.rest
  skip run.length
  let done ← plainLines isFlow parent [Scalar.trimRight run] p.rest.length
  return String.ofList (Scalar.fold done.reverse)

/-- Reads a literal or folded scalar at its indicator. -/
def block (parent : Int) : Scan String := do
  let isFolded := (← peek) == some '>'
  skip 1
  let header := (← rest).takeWhile fun c => !isGap (some c)
  let (indent?, chomping) ← StateT.lift (Scalar.header? header)
  skip header.length
  skipInline
  require (← atLineEnd)
  skip 1
  let ls := Scalar.lines (← rest)
  -- The indentation is that of the first line with content, and more than the parent's.
  let least := (parent + 1).toNat
  let indent :=
    match indent? with
    | some n => parent.toNat + n
    | none =>
      match ls.find? (!Scalar.isEmptyLine ·) with
      | some l => max least (Scalar.indentOf l)
      | none => max least ((ls.map Scalar.indentOf).foldl max 0)
  let belongs := fun (l : List Char) => Scalar.isEmptyLine l || indent ≤ Scalar.indentOf l
  let own := ls.takeWhile belongs
  let isWhole := own.length == ls.length
  -- Behind the last line end of the document no further line begins.
  let own := if isWhole && own.getLast? == some [] then own.dropLast else own
  let taken := (own.map (·.length + 1)).foldl (· + ·) 0
  skip (min taken (← rest).length)
  return String.ofList (Scalar.blockText isFolded chomping (own.map (·.drop indent)))

/-- Reads a name behind `&` or `*`. -/
def name : Scan String := do
  skip 1
  let cs := (← rest).takeWhile fun c => !isGap (some c) && !isFlowIndicator c
  require (!cs.isEmpty)
  skip cs.length
  return String.ofList cs

/-- Reads an alias and gives the node it stands for. -/
def aliased : Scan Node := do
  let key ← name
  match (← get).anchors.find? (·.1 == key) with
  | some (_, node) => return node
  | none => fail

/-- Gives a name to a node. -/
def define (anchor : Option String) (node : Node) : Scan Node := do
  match anchor with
  | some key => modify fun s => { s with anchors := (key, node) :: s.anchors }
  | none => pure ()
  return node

/-- Reads the tag and the anchor in front of a node, each at most once; tags are not kept. -/
def properties : Nat → Scan (Option String)
  | 0 => return none
  | fuel + 1 => do
    match ← peek with
    | some '&' =>
      let key ← name
      require (isGap (← peek) || ((← peek).map isFlowIndicator).getD false)
      skipInline
      let _ ← properties fuel
      return some key
    | some '!' =>
      let cs := (← rest).takeWhile fun c => !isGap (some c) && !isFlowIndicator c
      skip cs.length
      skipInline
      properties fuel
    | _ => return none

end Scan

end ManagementServer.Yaml
