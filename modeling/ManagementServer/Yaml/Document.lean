import ManagementServer.Yaml.Scan

/-!
# Reading YAML documents

Collections in flow and block form, and the one document of a text. Main definition: `parse?`, the
node that a text stands for; `none` when it is not YAML or holds more than one document.
-/

namespace ManagementServer.Yaml

namespace Scan

/-- Whether a key ends here: a colon with a gap behind it. -/
def atColon : Scan Bool := do
  match ← rest with
  | ':' :: behind => return isGap behind.head?
  | _ => return false

/-- Whether a character belongs to words. -/
def isWordChar (c : Char) : Bool := c.isAlphanum || c == '_' || c == '-'

/-- Moves behind the colon of a key. Tabs alone do not part a word from it. -/
def skipColon : Scan Unit := do
  skip 1
  let blanks := (← rest).takeWhile fun c => c == ' ' || c == '\t'
  let next := ((← rest).drop blanks.length).head?
  require !(blanks.head? == some '\t' && !blanks.contains ' ' && next.any isWordChar)

/-- Whether an item of a block sequence, or an explicit key, begins here. -/
def atMark (mark : Char) : Scan Bool := do
  match ← rest with
  | c :: behind => return c == mark && isGap behind.head?
  | [] => return false

/-- The remaining length, a bound for every loop. -/
def bound : Scan Nat := return (← rest).length + 1

mutual

/-- Reads a node inside a flow collection. -/
def flowNode (parent : Int) : Nat → Scan Node
  | 0 => fail
  | fuel + 1 => do
    let anchor ← properties 2
    let _ ← skipGap false (← bound)
    match ← peek with
    | some '[' => define anchor (← flowSequence parent fuel)
    | some '{' => define anchor (← flowMapping parent fuel)
    | some '*' => aliased
    | some '"' => define anchor (.scalar .quoted (← quoted))
    | some '\'' => define anchor (.scalar .quoted (← quoted))
    | some ',' => define anchor .empty
    | some ']' => define anchor .empty
    | some '}' => define anchor .empty
    | some ':' =>
      let p ← position
      if Scalar.startsPlain true p.rest then
        define anchor (.scalar .plain (← plain true parent))
      else define anchor .empty
    | _ => define anchor (.scalar .plain (← plain true parent))

/-- Reads a sequence in brackets. -/
def flowSequence (parent : Int) : Nat → Scan Node
  | 0 => fail
  | fuel + 1 => do
    skip 1
    return .sequence (← flowItems parent [] fuel)

/-- Reads items up to the closing bracket. -/
def flowItems (parent : Int) (done : List Node) : Nat → Scan (List Node)
  | 0 => fail
  | fuel + 1 => do
    let _ ← skipGap false (← bound)
    match ← peek with
    | some ']' =>
      skip 1
      return done.reverse
    | some ',' => fail
    | none => fail
    | _ =>
      let isExplicit ← atMark '?'
      if isExplicit then skip 1
      let isJson := (← peek) == some '"' || (← peek) == some '\''
      let node ← flowNode parent fuel
      let _ ← skipGap false (← bound)
      let item ←
        if (← atColon) || (isJson && (← peek) == some ':') || (← flowColon) then do
          skipColon
          let value ← flowNode parent fuel
          pure (Node.mapping [(node, value)])
        else if isExplicit then pure (Node.mapping [(node, .empty)])
        else pure node
      let _ ← skipGap false (← bound)
      match ← peek with
      | some ',' =>
        skip 1
        flowItems parent (item :: done) fuel
      | some ']' => flowItems parent (item :: done) fuel
      | _ => fail

/-- Whether a colon in front of an indicator ends a key. -/
def flowColon : Scan Bool := do
  match ← rest with
  | ':' :: c :: _ => return isFlowIndicator c
  | _ => return false

/-- Reads a mapping in braces. -/
def flowMapping (parent : Int) : Nat → Scan Node
  | 0 => fail
  | fuel + 1 => do
    skip 1
    return .mapping (← flowEntries parent [] fuel)

/-- Reads entries up to the closing brace. -/
def flowEntries (parent : Int) (done : List (Node × Node)) : Nat → Scan (List (Node × Node))
  | 0 => fail
  | fuel + 1 => do
    let _ ← skipGap false (← bound)
    match ← peek with
    | some '}' =>
      skip 1
      return done.reverse
    | some ',' => fail
    | none => fail
    | _ =>
      if ← atMark '?' then skip 1
      let start ← peek
      let isJson := start.any "\"'[\x7b".toList.contains
      let key ← flowNode parent fuel
      let _ ← skipGap false (← bound)
      let value ←
        if (← atColon) || (isJson && (← peek) == some ':') || (← flowColon) then do
          skipColon
          let _ ← skipGap false (← bound)
          flowNode parent fuel
        else pure .empty
      let _ ← skipGap false (← bound)
      match ← peek with
      | some ',' =>
        skip 1
        flowEntries parent ((key, value) :: done) fuel
      | some '}' => flowEntries parent ((key, value) :: done) fuel
      | _ => fail

end

/-- Reads a node that is not a block collection and does not begin with properties; says whether it
lies within one line. -/
def inlineNode (parent : Int) : Scan (Node × Bool) := do
  let before ← rest
  let node ←
    match before with
    | '[' :: _ => flowSequence parent (before.length + 1)
    | '{' :: _ => flowMapping parent (before.length + 1)
    | '*' :: _ => aliased
    | '"' :: _ => do pure (Node.scalar .quoted (← quoted))
    | '\'' :: _ => do pure (Node.scalar .quoted (← quoted))
    | _ => do pure (Node.scalar .plain (← plain false parent))
  let taken := before.take (before.length - (← rest).length)
  return (node, !taken.contains '\n')

/-- Reads the simple key of a block mapping, up to its colon. -/
def simpleKey (parent : Int) : Scan Node := do
  let anchor ← properties 2
  if ← atColon then define anchor .empty
  else
    let (key, isSingleLine) ← inlineNode parent
    skipInline
    require (isSingleLine && (← atColon))
    define anchor key

/-- Whether a simple key and its colon stand here. The state is left as it was. -/
def atSimpleKey : Scan Bool := do
  let s ← get
  match (simpleKey s.position.column).run s with
  | some _ => return true
  | none => return false

mutual

/-- Reads a node in a block, at its first character, which is indented by more than `parent`.
`isCompact` says whether a collection may begin in this line. -/
def blockNode (parent : Int) (isCompact : Bool) : Nat → Scan Node
  | 0 => fail
  | fuel + 1 => do
    let column ← column
    if isCompact && (← atMark '-') then blockSequence column [] fuel
    else if isCompact && (← atMark '?') then blockMapping column [] fuel
    else if isCompact && (← atSimpleKey) then blockMapping column [] fuel
    else
      let anchor ← properties 2
      if ← atLineEnd then
        let _ ← skipGap true (← bound)
        if (← rest).isEmpty || ((← Scan.column) : Int) ≤ parent then define anchor .empty
        else
          let node ← blockNode parent true fuel
          define anchor node
      else
        match ← peek with
        | some '|' => define anchor (.scalar .block (← block parent))
        | some '>' => define anchor (.scalar .block (← block parent))
        | _ =>
          let (node, _) ← inlineNode parent
          skipInline
          require (← atLineEnd)
          define anchor node

/-- Reads the items of a block sequence in a column. -/
def blockSequence (home : Nat) (done : List Node) : Nat → Scan Node
  | 0 => fail
  | fuel + 1 => do
    skip 1
    let _ ← skipGap true (← bound)
    let item ←
      if (← rest).isEmpty || (← column) ≤ home then pure Node.empty
      else blockNode home true fuel
    let _ ← skipGap true (← bound)
    if (← rest).isEmpty || (← column) < home then return .sequence (item :: done).reverse
    require ((← column) == home)
    if ← atMark '-' then blockSequence home (item :: done) fuel
    else return .sequence (item :: done).reverse

/-- Reads the entries of a block mapping in a column. -/
def blockMapping (home : Nat) (done : List (Node × Node)) : Nat → Scan Node
  | 0 => fail
  | fuel + 1 => do
    let key ←
      if ← atMark '?' then do
        skip 1
        let _ ← skipGap true (← bound)
        let key ←
          if (← rest).isEmpty || (← column) ≤ home then pure Node.empty
          else blockNode home true fuel
        let _ ← skipGap true (← bound)
        pure key
      else simpleKey home
    let value ←
      if ← atColon then do
        skipColon
        blockValue home fuel
      else pure .empty
    let _ ← skipGap true (← bound)
    let done := (key, value) :: done
    if (← rest).isEmpty || (← column) < home then return .mapping done.reverse
    require ((← column) == home)
    blockMapping home done fuel

/-- Reads the value behind the colon of an entry. A sequence may stand in the column of the key. -/
def blockValue (home : Nat) : Nat → Scan Node
  | 0 => fail
  | fuel + 1 => do
    let isNextLine ← skipGap true (← bound)
    if (← rest).isEmpty then return .empty
    else if isNextLine then
      if (← column) == home && (← atMark '-') then blockSequence home [] fuel
      else if (← column) ≤ home then return .empty
      else blockNode home true fuel
    else
      let anchor ← properties 2
      if ← atLineEnd then
        let _ ← skipGap true (← bound)
        if (← column) == home && (← atMark '-') then
          define anchor (← blockSequence home [] fuel)
        else if (← rest).isEmpty || (← column) ≤ home then define anchor .empty
        else define anchor (← blockNode home true fuel)
      else define anchor (← blockNode home false fuel)

end

end Scan

/-- Line ends in their one form, without a byte order mark in front. -/
def normalizeLines : List Char → List Char
  | '\r' :: '\n' :: rest => '\n' :: normalizeLines rest
  | '\r' :: rest => '\n' :: normalizeLines rest
  | c :: rest => c :: normalizeLines rest
  | [] => []

/-- Whether a line begins with a marker such as `---`. -/
def isMarker (mark : Char) (line : List Char) : Bool :=
  line.take 3 == [mark, mark, mark] && isGap (line.drop 3).head?

/-- Whether a line holds nothing but blanks and a comment. -/
def isBlankLine (line : List Char) : Bool :=
  let body := Scalar.trimLeft line
  body.isEmpty || body.head? == some '#'

/-- The lines of the document in front: directives and the opening marker are taken off, and the
lines behind its end are given apart. -/
def splitDocument (ls : List (List Char)) : List (List Char) × List (List Char) :=
  let preamble := ls.takeWhile fun l => isBlankLine l || l.head? == some '%'
  let isDirected := preamble.any (·.head? == some '%')
  let behind := ls.drop preamble.length
  let body :=
    match behind with
    | l :: rest =>
      if isMarker '-' l then ("   ".toList ++ l.drop 3) :: rest
      else if isDirected then preamble ++ behind
      else ls
    | [] => ls
  let own := body.takeWhile fun l => !(isMarker '-' l || isMarker '.' l)
  (own, body.drop own.length)

/-- Whether nothing but the end of the document, comments and blank lines follows. -/
def endsThere (ls : List (List Char)) : Bool :=
  ls.all fun l => isBlankLine l || isMarker '.' l

/-- The node that a text stands for. -/
def parse? (text : List Char) : Option Node := do
  let text := if text.head? == some (Char.ofNat 0xFEFF) then text.drop 1 else text
  let (own, behind) := splitDocument (Scalar.lines (normalizeLines text))
  if !endsThere behind then none
  let cs := ['\n'].intercalate own
  let reading : Scan Node := do
    let _ ← Scan.skipGap true (← Scan.bound)
    if (← Scan.rest).isEmpty then return .empty
    let node ← Scan.blockNode (-1) true (2 * cs.length + 10)
    let _ ← Scan.skipGap true (← Scan.bound)
    Scan.require (← Scan.rest).isEmpty
    return node
  let (node, _) ← reading.run ⟨⟨cs, 0, true⟩, []⟩
  return node

end ManagementServer.Yaml
