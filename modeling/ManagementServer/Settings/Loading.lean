import ManagementServer.Settings.Basic

/-!
# Loading settings

Settings come from the command line, and where it is silent from the environment. Both give texts by
the name of a setting (`Layer`); the command line wins.
-/

namespace ManagementServer.Settings

/-- The settings that one source gives. -/
structure Layer where
  endpoint : Option Endpoint
  logFilter : Option String
  logFormat : Option LogFormat
  pollIntervalMs : Option Nat
  modulesFile : Option String
  deriving Repr, Inhabited

/-- Why settings could not be loaded. -/
inductive LoadError where
  | arguments
  | environment
  | validation (key message : String)
  deriving DecidableEq, Repr

/-- The wording of an error. -/
def LoadError.message : LoadError → String
  | .validation key message => s!"Validation failed for '{key}': {message}"
  | .arguments | .environment => "<detail>"

namespace Layer

/-- The source that says nothing. -/
def empty : Layer := ⟨none, none, none, none, none⟩

/-- The settings of two sources, the first winning. -/
def above (upper lower : Layer) : Layer where
  endpoint := upper.endpoint <|> lower.endpoint
  logFilter := upper.logFilter <|> lower.logFilter
  logFormat := upper.logFormat <|> lower.logFormat
  pollIntervalMs := upper.pollIntervalMs <|> lower.pollIntervalMs
  modulesFile := upper.modulesFile <|> lower.modulesFile

/-- The settings with a default for each that is not given. -/
def complete (l : Layer) (standard : Config) : Config where
  endpoint := l.endpoint.getD standard.endpoint
  logFilter := l.logFilter.getD standard.logFilter
  logFormat := l.logFormat.getD standard.logFormat
  pollIntervalMs := l.pollIntervalMs.getD standard.pollIntervalMs
  modulesFile := l.modulesFile <|> standard.modulesFile

end Layer

/-- The first number that a poll interval cannot be. -/
def pollIntervalBound : Nat := 0x10000000000000000

/-- The natural number that a text spells, with or without a plus sign. -/
def natural? (cs : List Char) : Option Nat :=
  Text.Digits.parse? 10 (if cs.head? == some '+' then cs.drop 1 else cs)

/-- The number of milliseconds that a text spells. -/
def milliseconds? (cs : List Char) : Option Nat :=
  (natural? cs).filter (· < pollIntervalBound)

namespace Arguments

/-- A flag with its value. -/
structure Given where
  flag : String
  value : String
  deriving DecidableEq, Repr

/-- The flags. -/
def flags : List String :=
  ["daemon-socket", "log-filter", "log-format", "poll-interval-ms", "modules-file"]

/-- The part of an argument before an equals sign, and the part behind it. -/
def cut (argument : List Char) : List Char × Option (List Char) :=
  match argument.span (· != '=') with
  | (name, '=' :: value) => (name, some value)
  | (name, _) => (name, none)

/-- Whether an argument can be a value by itself. A single hyphen can. -/
def isValue (argument : String) : Bool :=
  argument == "-" || argument.toList.head? != some '-'

/-- Flags and their values, in order. Nothing else may stand on the command line but one pair of
hyphens at its end. -/
def read? : List String → Option (List Given)
  | [] => some []
  | argument :: rest =>
    match argument.toList with
    | ['-', '-'] => if rest.isEmpty then some [] else none
    | '-' :: '-' :: body =>
      match cut body with
      | (name, some value) => do
        return ⟨String.ofList name, String.ofList value⟩ :: (← read? rest)
      | (name, none) =>
        match rest with
        | value :: rest =>
          if isValue value then do
            return ⟨String.ofList name, value⟩ :: (← read? rest)
          else none
        | [] => none
    | _ => none

/-- What a flag says. -/
def layer? (given : Given) : Option Layer :=
  match given.flag with
  | "daemon-socket" =>
    match Endpoint.parse given.value with
    | .ok endpoint => some { Layer.empty with endpoint := some endpoint }
    | .error _ => none
  | "log-filter" => some { Layer.empty with logFilter := some given.value }
  | "log-format" =>
    (LogFormat.parse? given.value).map fun f => { Layer.empty with logFormat := some f }
  | "poll-interval-ms" =>
    (milliseconds? given.value.toList).map fun n => { Layer.empty with pollIntervalMs := some n }
  | "modules-file" => some { Layer.empty with modulesFile := some given.value }
  | _ => none

/-- What the command line says; a flag may be given once. -/
def load? (arguments : List String) : Option Layer := do
  let given ← read? arguments
  let names := given.map (·.flag)
  if names.eraseDups.length != names.length then none
  let layers ← given.mapM layer?
  return layers.foldl Layer.above Layer.empty

end Arguments

namespace Variables

/-- A value as a variable spells it. -/
inductive Value where
  | bool
  | natural (value : Nat)
  | number
  | text (value : String)
  | compound
  deriving DecidableEq, Repr

/-- Whether a text is a numeral with a sign, a fraction or an exponent. -/
def isNumeral (cs : List Char) : Bool :=
  let body := if cs.head? == some '-' || cs.head? == some '+' then cs.drop 1 else cs
  let (whole, rest) := body.span Char.isDigit
  let (fraction, rest) :=
    match rest with
    | '.' :: rest => rest.span Char.isDigit
    | rest => ([], rest)
  let exponentOk :=
    match rest with
    | [] => true
    | c :: rest =>
      let digits := if rest.head? == some '-' || rest.head? == some '+' then rest.drop 1 else rest
      (c == 'e' || c == 'E') && !digits.isEmpty && digits.all Char.isDigit
  !(whole.isEmpty && fraction.isEmpty) && exponentOk

/-- Reads a value: truth values and numerals are not texts, and commas make a list. -/
def value (raw : String) : Value :=
  let cs := Text.trimChars Text.isBlankChar raw.toList
  let trimmed := String.ofList cs
  match cs with
  | '[' :: _ => .compound
  | '{' :: _ => .compound
  | '"' :: rest =>
    if rest.getLast? == some '"' then .text (String.ofList rest.dropLast) else .text raw
  | _ =>
    if cs.contains ',' then .compound
    else if trimmed == "true" || trimmed == "false" then .bool
    else match natural? cs with
      | some n => .natural n
      | none => if isNumeral cs then .number else .text trimmed

/-- The name of the variable for a setting. -/
def nameFor (flag : String) : String :=
  "netconfd_" ++ String.ofList (flag.toList.map fun c => if c == '-' then '_' else c)

/-- The value of a setting's variable; the case of the variable's name does not matter. -/
def find? (vars : List (String × String)) (flag : String) : Option Value :=
  (vars.find? fun v => String.ofList (Text.lowerAscii v.1.toList) == nameFor flag).map
    fun v => value v.2

/-- A value that is wanted as a text. -/
def text? : Value → Option String
  | .text s => some s
  | _ => none

/-- A value that is wanted as a number of milliseconds. -/
def count? : Value → Option Nat
  | .natural n => (some n).filter (· < pollIntervalBound)
  | _ => none

/-- Reads the variable of a setting, if there is one. -/
def read? {α : Type} (vars : List (String × String)) (flag : String)
    (convert : Value → Option α) : Option (Option α) :=
  match find? vars flag with
  | none => some none
  | some v => some <$> convert v

/-- What the environment says. A URL is no endpoint here. -/
def load? (vars : List (String × String)) : Option Layer := do
  let endpoint ← read? vars "daemon-socket" fun _ => (none : Option Endpoint)
  let logFilter ← read? vars "log-filter" text?
  let logFormat ← read? vars "log-format" fun v => text? v >>= LogFormat.ofName?
  let pollIntervalMs ← read? vars "poll-interval-ms" count?
  let modulesFile ← read? vars "modules-file" text?
  return { endpoint, logFilter, logFormat, pollIntervalMs, modulesFile }

end Variables

/-- Loads settings. -/
def load (s : Surroundings) (arguments : List String) (vars : List (String × String)) :
    Except LoadError Config :=
  match Arguments.load? arguments, Variables.load? vars with
  | none, _ => .error .arguments
  | _, none => .error .environment
  | some upper, some lower => .ok ((upper.above lower).complete (Config.standard s))

end ManagementServer.Settings
