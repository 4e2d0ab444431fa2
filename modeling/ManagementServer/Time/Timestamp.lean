import ManagementServer.Time.Calendar
import ManagementServer.Text.Digits

/-!
# Timestamps

Points in time as RFC 3339 writes them: an instant, and the offset from UTC in which it is shown.
Two timestamps are compared by their instants alone. Main definitions: `Timestamp.parse?`,
`Timestamp.format?`, and `Instant.plus?` for the range of dates that can be held.
-/

namespace ManagementServer.Time

/-- Nanoseconds since 1970-01-01T00:00:00Z. -/
abbrev Instant := Int

/-- An instant shown at an offset of so many minutes east of UTC. -/
structure Timestamp where
  instant : Instant
  offset : Int
  deriving DecidableEq, Repr, Inhabited

/-- Nanoseconds in a second. -/
def nanosPerSecond : Int := 1000000000

/-- Nanoseconds in a day. -/
def nanosPerDay : Int := 86400 * nanosPerSecond

/-- The first instant that a date can hold, at the start of year -9999. -/
def firstInstant : Instant := Date.toDays ⟨-9999, 1, 1⟩ * nanosPerDay

/-- The end of the last year that a date can hold. -/
def endOfTime : Instant := Date.toDays ⟨10000, 1, 1⟩ * nanosPerDay

/-- The instant so many nanoseconds later; `none` outside the dates that can be held. -/
def Instant.plus? (t : Instant) (nanos : Int) : Option Instant :=
  let sum := t + nanos
  if firstInstant ≤ sum ∧ sum < endOfTime then some sum else none

namespace Timestamp

/-- A timestamp shown in UTC. -/
def utc (t : Instant) : Timestamp := ⟨t, 0⟩

/-- The date and the nanoseconds of the day in the offset shown. -/
def localParts (t : Timestamp) : Date × Int :=
  let shown := t.instant + t.offset * 60 * nanosPerSecond
  (Date.ofDays (shown / nanosPerDay), shown % nanosPerDay)

/-- The fraction of a second, without zeros at its end and without a point when it is zero. -/
def fractionChars (nanos : Nat) : List Char :=
  let digits := ((Text.Digits.padded 10 9 nanos).reverse.dropWhile (· == '0')).reverse
  if digits.isEmpty then [] else '.' :: digits

/-- The offset. -/
def offsetChars (offset : Int) : List Char :=
  if offset == 0 then ['Z']
  else
    let minutes := offset.natAbs
    (if offset < 0 then '-' else '+') :: Text.Digits.padded 10 2 (minutes / 60) ++
      ':' :: Text.Digits.padded 10 2 (minutes % 60)

/-- The RFC 3339 text; `none` for years that it cannot write. -/
def format? (t : Timestamp) : Option String :=
  let (date, nanos) := t.localParts
  if 0 ≤ date.year ∧ date.year ≤ 9999 then
    let two := Text.Digits.padded 10 2
    let seconds := (nanos / nanosPerSecond).toNat
    some (String.ofList (
      Text.Digits.padded 10 4 date.year.toNat ++ '-' :: two date.month ++ '-' :: two date.day ++
      'T' :: two (seconds / 3600) ++ ':' :: two (seconds / 60 % 60) ++ ':' :: two (seconds % 60) ++
      fractionChars (nanos % nanosPerSecond).toNat ++ offsetChars t.offset))
  else none

/-- Reads exactly `count` digits. -/
def digits? (count : Nat) (cs : List Char) : Option (Nat × List Char) :=
  let ds := cs.take count
  if ds.length == count && ds.all Char.isDigit then
    some (Text.Digits.decimal ds, cs.drop count)
  else none

/-- Reads one given character. -/
def literal? (c : Char) : List Char → Option (List Char)
  | d :: rest => if d == c then some rest else none
  | [] => none

/-- Reads an optional fraction of a second, in nanoseconds; digits behind the ninth are dropped. -/
def fraction? : List Char → Option (Nat × List Char)
  | '.' :: rest =>
    let ds := rest.takeWhile Char.isDigit
    if ds.isEmpty then none
    else some (Text.Digits.decimal ((ds ++ List.replicate 9 '0').take 9), rest.drop ds.length)
  | cs => some (0, cs)

/-- Reads an offset that ends the text, in minutes. -/
def offset? : List Char → Option Int
  | ['Z'] => some 0
  | ['z'] => some 0
  | sign :: rest => do
    if sign != '+' && sign != '-' then none
    let (hours, rest) ← digits? 2 rest
    let rest ← literal? ':' rest
    let (minutes, rest) ← digits? 2 rest
    if 23 < hours || 59 < minutes || !rest.isEmpty then none
    let size : Int := hours * 60 + minutes
    return if sign == '-' then -size else size
  | [] => none

/-- Reads an RFC 3339 text. Any one ASCII character may stand between date and time. Second 60 is
the last nanosecond before it, and is accepted only at the end of a month in UTC. -/
def parse? (cs : List Char) : Option Timestamp := do
  let (year, cs) ← digits? 4 cs
  let cs ← literal? '-' cs
  let (month, cs) ← digits? 2 cs
  let cs ← literal? '-' cs
  let (day, cs) ← digits? 2 cs
  let separator ← cs.head?
  if 0x80 ≤ separator.toNat then none
  let (hour, cs) ← digits? 2 (cs.drop 1)
  let cs ← literal? ':' cs
  let (minute, cs) ← digits? 2 cs
  let cs ← literal? ':' cs
  let (second, cs) ← digits? 2 cs
  let (nanos, cs) ← fraction? cs
  let offset ← offset? cs
  let isLeapSecond := second == 60
  let second := if isLeapSecond then 59 else second
  let nanos := if isLeapSecond then 999999999 else nanos
  let date : Date := ⟨year, month, day⟩
  if !date.isValid || 23 < hour || 59 < minute || 59 < second then none
  let clock : Int := (hour * 60 + minute) * 60 + second
  let shown := date.toDays * nanosPerDay + clock * nanosPerSecond + nanos
  let t : Timestamp := ⟨shown - offset * 60 * nanosPerSecond, offset⟩
  if isLeapSecond then
    let (day, inDay) := (utc t.instant).localParts
    if inDay != nanosPerDay - 1 || !day.isLastOfMonth then none
  return t

end Timestamp

end ManagementServer.Time
