import ManagementServer.Log.Record
import ManagementServer.Text.Blank

/-!
# Log filters

Which records are written. A filter is a list of directives between commas: a level by itself holds
for every target, and `target=level` for the targets that begin with the given text. Of the
directives for a target the longest decides, and of two alike the last.
-/

namespace ManagementServer.Log

/-- How much of a target is written: records up to a rank. -/
structure Directive where
  target : String
  rank : Nat
  deriving DecidableEq, Repr, Inhabited

/-- Directives, no two of them for the same text. -/
structure Filter where
  directives : List Directive
  deriving DecidableEq, Repr, Inhabited

namespace Filter

/-- The names of the ranks, from nothing to everything. -/
def rankNames : List String := ["off", "error", "warn", "info", "debug", "trace"]

/-- The highest rank. -/
def topRank : Nat := Level.trace.rank

/-- The rank that a text names, in letters of either case or by its number. -/
def rank? (cs : List Char) : Option Nat :=
  match cs with
  | ['0'] => some 0
  | ['1'] => some 1
  | ['2'] => some 2
  | ['3'] => some 3
  | ['4'] => some 4
  | ['5'] => some 5
  | _ => rankNames.findIdx? fun name => name.toList == Text.lowerAscii cs

/-- Whether a character can stand in a target. -/
def isTargetChar (c : Char) : Bool :=
  Text.isAlphanumeric c || c == '_' || c == ':' || c == '-'

/-- Whether a text can be a target. -/
def isTarget (cs : List Char) : Bool :=
  !cs.isEmpty && cs.all isTargetChar

/-- Reads a directive. A target without a level lets everything through. -/
def directive? (cs : List Char) : Option Directive :=
  match rank? cs with
  | some rank => some ⟨"", rank⟩
  | none =>
    match Text.splitOn '=' cs with
    | [target] => if isTarget target then some ⟨String.ofList target, topRank⟩ else none
    | [target, level] =>
      if !isTarget target then none
      else if level.isEmpty then some ⟨String.ofList target, topRank⟩
      else (rank? level).map (⟨String.ofList target, ·⟩)
    | _ => none

/-- The directives with one more, which takes the place of an earlier one for the same text. -/
def add (directives : List Directive) (d : Directive) : List Directive :=
  directives.filter (·.target != d.target) ++ [d]

/-- The filter of a text that gives no directive: errors are written. -/
def standard : Filter := ⟨[⟨"", Level.error.rank⟩]⟩

/-- Reads a filter. -/
def parse? (text : String) : Option Filter := do
  let parts := (Text.splitOn ',' text.toList).filter (!·.isEmpty)
  let directives ← parts.mapM directive?
  if directives.isEmpty then return standard else return ⟨directives.foldl add []⟩

/-- Of two directives the one for the longer text. -/
def longer (best : Option Directive) (d : Directive) : Option Directive :=
  match best with
  | none => some d
  | some b => if b.target.length < d.target.length then some d else some b

/-- The directive that decides about a target. -/
def deciding? (f : Filter) (target : String) : Option Directive :=
  (f.directives.filter fun d => d.target.toList.isPrefixOf target.toList).foldl longer none

/-- Whether a record is written. -/
def admits (f : Filter) (r : Record) : Bool :=
  (f.deciding? r.target.name).any fun d => r.level.rank ≤ d.rank

end Filter

end ManagementServer.Log
