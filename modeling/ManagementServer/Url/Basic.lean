import ManagementServer.Url.Path

/-!
# URLs

The parts of a URL that name a socket: scheme, host, port and path. `Url.parse?` follows the URL
standard; of the special schemes, which name no socket, only the scheme is kept.
-/

namespace ManagementServer

/-- A parsed URL. -/
structure Url where
  scheme : String
  host : Option String
  port : Option Nat
  path : String
  deriving DecidableEq, Repr, Inhabited

namespace Url

/-- Schemes whose URLs have hosts and paths of a form of their own. -/
def specialSchemes : List String := ["http", "https", "ws", "wss", "ftp", "file"]

/-- Characters of a scheme behind the first. -/
def isSchemeChar (c : Char) : Bool :=
  Text.isAlphanumeric c || c == '+' || c == '-' || c == '.'

/-- Reads the scheme and its colon. -/
def scheme? (cs : List Char) : Option (String × List Char) :=
  let name := cs.takeWhile isSchemeChar
  match name, cs.drop name.length with
  | c :: _, ':' :: rest =>
    if c.isAlpha then some (String.ofList (Text.lowerAscii name), rest) else none
  | _, _ => none

/-- The text as a URL is read: without controls and spaces around it, and without tabs and line
ends anywhere. -/
def cleaned (cs : List Char) : List Char :=
  (Text.trimChars (fun c => c.toNat ≤ 0x20) cs).filter
    fun c => !(c == '\t' || c == '\n' || c == '\r')

/-- The characters up to the first that ends an authority, and the rest. -/
def splitAuthority (isSpecial : Bool) (cs : List Char) : List Char × List Char :=
  let goesOn := fun c => !(c == '/' || c == '?' || c == '#' || (isSpecial && c == '\\'))
  (cs.takeWhile goesOn, cs.dropWhile goesOn)

/-- The characters behind the last `@`, and those before it if there is one. -/
def splitUser (authority : List Char) : Option (List Char) × List Char :=
  let back := authority.reverse.takeWhile (· != '@')
  if back.length == authority.length then (none, authority)
  else (some (authority.take (authority.length - back.length - 1)), back.reverse)

/-- Cuts a host from what follows its first colon outside brackets. -/
def splitHost (isInside : Bool) : List Char → List Char × Option (List Char)
  | [] => ([], none)
  | c :: rest =>
    if c == ':' && !isInside then ([], some rest)
    else
      let isInside := if c == '[' then true else if c == ']' then false else isInside
      let (host, port) := splitHost isInside rest
      (c :: host, port)

/-- Reads a port: no digits at all, or a number below 65536. A backslash ends it too. -/
def port? (cs : List Char) : Option (Option Nat) :=
  let ds := cs.takeWhile (· != '\\')
  if !ds.all Char.isDigit then none
  else if ds.isEmpty then some none
  else
    let digits := ds.dropWhile (· == '0')
    let n := Text.Digits.decimal (digits.take 6)
    if n ≤ 65535 then some (some n) else none

/-- Whether a user part shows in the URL: a name, or a colon with a password behind it. -/
def userShows (user : List Char) : Bool :=
  !user.isEmpty && user != [':']

/-- Reads host and port of a URL whose scheme is not special, out of its authority. -/
def authority? (authority rest : List Char) : Option (Option String × Option Nat) := do
  let (user, hostAndPort) := splitUser authority
  if user == some [] && hostAndPort.isEmpty && !rest.isEmpty then none
  let (hostPart, portPart) := splitHost false hostAndPort
  let host ← Host.opaque? hostPart
  if host.isEmpty && (portPart.isSome || (user.map userShows).getD false) then none
  let port ←
    match portPart with
    | some cs => port? cs
    | none => some none
  return (if host.isEmpty then none else some (String.ofList host), port)

/-- Whether the text behind the scheme makes a URL of a special scheme other than `file`. -/
def isSpecialUrl (cs : List Char) : Bool :=
  let body := cs.dropWhile fun c => c == '/' || c == '\\'
  let (authority, _) := splitAuthority true body
  let (_, hostAndPort) := splitUser authority
  let (hostPart, portPart) := splitHost false hostAndPort
  Host.isSpecialHost hostPart && ((portPart.map fun cs => (port? cs).isSome).getD true)

/-- Whether the text behind the scheme makes a `file` URL. -/
def isFileUrl (cs : List Char) : Bool :=
  let isSlash := fun c => c == '/' || c == '\\'
  match cs with
  | a :: b :: rest =>
    if isSlash a && isSlash b then
      let (host, _) := splitAuthority true rest
      host.isEmpty || Path.isDrive host || Host.isSpecialHost host
    else true
  | _ => true

/-- The characters before a query or a fragment. -/
def beforeQuery (cs : List Char) : List Char :=
  cs.takeWhile fun c => !(c == '?' || c == '#')

/-- Reads the path behind an authority. -/
def pathBehindAuthority (cs : List Char) : List Char :=
  match beforeQuery cs with
  | [] => []
  | '/' :: rest => Path.normalize rest
  | rest => Path.normalize rest

/-- Reads a text as a URL. -/
def parse? (text : List Char) : Option Url := do
  let (scheme, rest) ← scheme? (cleaned text)
  if specialSchemes.contains scheme then
    let isUrl := if scheme == "file" then isFileUrl rest else isSpecialUrl rest
    if isUrl then return ⟨scheme, none, none, ""⟩ else none
  else match rest with
    | '/' :: '/' :: rest => do
      let (authority, rest) := splitAuthority false rest
      let (host, port) ← authority? authority rest
      -- A port ends at a backslash, and what follows belongs to the path.
      let behindPort :=
        match (splitHost false (splitUser authority).2).2 with
        | some cs => cs.dropWhile (· != '\\')
        | none => []
      return ⟨scheme, host, port, String.ofList (pathBehindAuthority (behindPort ++ rest))⟩
    | '/' :: rest =>
      return ⟨scheme, none, none, String.ofList (Path.normalize (beforeQuery rest))⟩
    | rest =>
      return ⟨scheme, none, none, String.ofList (percentEncode isControl (beforeQuery rest))⟩

end Url

end ManagementServer
