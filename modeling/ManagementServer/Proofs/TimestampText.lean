import ManagementServer.Time.Timestamp
import Mathlib.Data.List.TakeWhile

/-!
# The texts of timestamps

Which texts are timestamps, and of which instants. A text spells a date, a time of day and an offset
as RFC 3339 has it, but for the character between the date and the time, which may be any one of
ASCII (`Timestamp.Spells`). The numbers have to be those of a day, a time of day and an offset, and
a second 60 is one that can be a leap second (`Timestamp.Fields.IsValid`). These are the texts that
are read (`Timestamp.parse?_eq_some`).
-/

namespace ManagementServer.Time.Timestamp

open Text.Digits (decimal)

/-! ## The grammar -/

/-- What a timestamp is written with. -/
structure Fields where
  year : Nat
  month : Nat
  day : Nat
  hour : Nat
  minute : Nat
  second : Nat
  nanos : Nat
  offset : Int

/-- So many digits, and the number that they spell. -/
inductive Numeral (count : Nat) : List Char → Nat → Prop
  | digits {ds : List Char} (hlength : ds.length = count) (hdigits : ∀ d ∈ ds, d.isDigit = true) :
    Numeral count ds (decimal ds)

/-- An optional fraction of a second, in nanoseconds; digits behind the ninth do not count. -/
inductive Fraction : List Char → Nat → Prop
  | absent : Fraction [] 0
  | digits {ds : List Char} (hsome : ds ≠ []) (hdigits : ∀ d ∈ ds, d.isDigit = true) :
    Fraction ('.' :: ds) (decimal ((ds ++ List.replicate 9 '0').take 9))

/-- An offset from UTC, in minutes to the east. -/
inductive Zone : List Char → Int → Prop
  | utc {c : Char} (h : c = 'Z' ∨ c = 'z') : Zone [c] 0
  | east {hh mm : List Char} {hours minutes : Nat} (hhours : Numeral 2 hh hours)
    (hminutes : Numeral 2 mm minutes) (hday : hours ≤ 23) (hhour : minutes ≤ 59) :
    Zone ('+' :: (hh ++ ':' :: mm)) (hours * 60 + minutes)
  | west {hh mm : List Char} {hours minutes : Nat} (hhours : Numeral 2 hh hours)
    (hminutes : Numeral 2 mm minutes) (hday : hours ≤ 23) (hhour : minutes ≤ 59) :
    Zone ('-' :: (hh ++ ':' :: mm)) (-(hours * 60 + minutes))

/-- A text has the form of a timestamp. -/
inductive Spells : List Char → Fields → Prop
  | intro {yyyy mo dd hh mi ss fraction zone : List Char} {separator : Char} {f : Fields}
    (hyear : Numeral 4 yyyy f.year) (hmonth : Numeral 2 mo f.month) (hday : Numeral 2 dd f.day)
    (hseparator : separator.toNat < 0x80) (hhour : Numeral 2 hh f.hour)
    (hminute : Numeral 2 mi f.minute) (hsecond : Numeral 2 ss f.second)
    (hfraction : Fraction fraction f.nanos) (hzone : Zone zone f.offset) :
    Spells (yyyy ++ '-' :: (mo ++ '-' :: (dd ++ separator ::
      (hh ++ ':' :: (mi ++ ':' :: (ss ++ (fraction ++ zone))))))) f

namespace Fields

/-- The date. -/
def date (f : Fields) : Date := ⟨f.year, f.month, f.day⟩

/-- The instant. A second 60 stands for the last nanosecond before it. -/
def instant (f : Fields) : Instant :=
  f.date.toDays * nanosPerDay +
    ((f.hour * 60 + f.minute) * 60 + (if f.second == 60 then 59 else f.second : Nat) : Int) *
      nanosPerSecond +
    (if f.second == 60 then 999999999 else f.nanos : Nat) - f.offset * 60 * nanosPerSecond

/-- The timestamp. -/
def timestamp (f : Fields) : Timestamp := ⟨f.instant, f.offset⟩

/-- The numbers are those of a day and of a time of day. A second 60 is at the end of a month in
UTC. -/
structure IsValid (f : Fields) : Prop where
  date : f.date.isValid = true
  hour : f.hour ≤ 23
  minute : f.minute ≤ 59
  second : f.second ≤ 60
  leap : f.second = 60 → (utc f.instant).localParts.2 = nanosPerDay - 1 ∧
    (utc f.instant).localParts.1.isLastOfMonth = true

end Fields

/-- A text is a timestamp. -/
def Rfc3339 (cs : List Char) (t : Timestamp) : Prop :=
  ∃ f : Fields, Spells cs f ∧ f.IsValid ∧ f.timestamp = t

/-! ## The parts of a text -/

section Parts

variable {cs rest : List Char}

lemma digits?_append {count n : Nat} {ds : List Char} (h : Numeral count ds n)
    (rest : List Char) : digits? count (ds ++ rest) = some (n, rest) := by
  obtain ⟨hlength, hdigits⟩ := h
  have htake : (ds ++ rest).take count = ds := by rw [← hlength, List.take_left]
  have hdrop : (ds ++ rest).drop count = rest := by rw [← hlength, List.drop_left]
  have hall : (ds.length == count && ds.all Char.isDigit) = true := by
    simpa [hlength] using hdigits
  rw [digits?, htake, hdrop]
  exact if_pos hall

lemma digits?_eq_some {count n : Nat} :
    digits? count cs = some (n, rest) ↔ ∃ ds, Numeral count ds n ∧ cs = ds ++ rest := by
  refine ⟨fun h => ?_, ?_⟩
  · unfold digits? at h
    dsimp only at h
    split at h
    · rename_i hds
      obtain ⟨hlength, hdigits⟩ : (cs.take count).length = count ∧
          ∀ d ∈ cs.take count, d.isDigit = true := by simpa using hds
      cases h
      exact ⟨_, .digits hlength hdigits, (List.take_append_drop count cs).symm⟩
    · cases h
  · rintro ⟨ds, hds, rfl⟩
    exact digits?_append hds rest

lemma literal?_eq_some {c : Char} : literal? c cs = some rest ↔ cs = c :: rest := by
  cases cs with
  | nil => simp [literal?]
  | cons d cs =>
    rw [literal?]
    split <;> simp_all

/-- A text that is neither a digit nor a point, and begins with none, ends a fraction. -/
def EndsFraction (rest : List Char) : Prop :=
  ∀ c ∈ rest.head?, c ≠ '.' ∧ c.isDigit = false

lemma takeWhile_isDigit_append {ds : List Char} (h : ∀ d ∈ ds, d.isDigit = true)
    (hrest : EndsFraction rest) : (ds ++ rest).takeWhile Char.isDigit = ds := by
  rw [List.takeWhile_append_of_pos h]
  cases rest with
  | nil => rw [List.takeWhile_nil, List.append_nil]
  | cons c rest => rw [List.takeWhile_cons_of_neg (by simp [(hrest c rfl).2]), List.append_nil]

lemma fraction?_append {n : Nat} (h : Fraction cs n) (hrest : EndsFraction rest) :
    fraction? (cs ++ rest) = some (n, rest) := by
  cases h with
  | absent =>
    cases rest with
    | nil => rfl
    | cons c rest =>
      rw [List.nil_append, fraction?]
      rintro rest' hpoint
      exact (hrest c rfl).1 (List.cons.inj hpoint).1
  | @digits ds hsome hdigits =>
    have hempty : ds.isEmpty = false := by simpa using hsome
    rw [List.cons_append, fraction?, takeWhile_isDigit_append hdigits hrest, hempty, List.drop_left]
    rfl

lemma of_fraction? {n : Nat} (h : fraction? cs = some (n, rest)) :
    ∃ text, Fraction text n ∧ cs = text ++ rest := by
  unfold fraction? at h
  split at h
  · rename_i cs
    dsimp only at h
    split at h
    · cases h
    · rename_i hds
      cases h
      refine ⟨'.' :: cs.takeWhile Char.isDigit, .digits (by simpa using hds)
        (fun d hd => List.mem_takeWhile_imp hd), ?_⟩
      have hdrop : cs.drop (cs.takeWhile Char.isDigit).length = cs.dropWhile Char.isDigit := by
        calc cs.drop (cs.takeWhile Char.isDigit).length
            = (cs.takeWhile Char.isDigit ++ cs.dropWhile Char.isDigit).drop
                (cs.takeWhile Char.isDigit).length := by rw [List.takeWhile_append_dropWhile]
          _ = cs.dropWhile Char.isDigit := List.drop_left
      rw [hdrop, List.cons_append, List.takeWhile_append_dropWhile]
  · cases h
    exact ⟨[], .absent, rfl⟩

lemma offset?_of_zone {offset : Int} (h : Zone cs offset) : offset? cs = some offset := by
  have hsigned {sign : Char} {hh mm : List Char} {hours minutes : Nat}
      (hsign : sign = '+' ∨ sign = '-') (hhours : Numeral 2 hh hours)
      (hminutes : Numeral 2 mm minutes) (hday : hours ≤ 23) (hhour : minutes ≤ 59) :
      offset? (sign :: (hh ++ ':' :: mm)) =
        some (if sign == '-' then -(hours * 60 + minutes : Int) else hours * 60 + minutes) := by
    have hmm := digits?_append hminutes []
    rw [List.append_nil] at hmm
    have hcolon : literal? ':' (':' :: mm) = some mm := literal?_eq_some.mpr rfl
    have hfits : ¬(decide (23 < hours) || decide (59 < minutes) ||
        !([] : List Char).isEmpty) = true := by
      simp [hday, hhour]
    have hknown : ¬(sign != '+' && sign != '-') = true := by rcases hsign with rfl | rfl <;> decide
    rw [offset?]
    · simp only [Option.bind_eq_bind, digits?_append hhours, hcolon, hmm, Option.bind_some,
        if_neg hknown, if_neg hfits]
      rfl
    · rintro rfl
      rcases hsign with hs | hs <;> cases hs
    · rintro rfl
      rcases hsign with hs | hs <;> cases hs
  cases h with
  | utc h => rcases h with rfl | rfl <;> rfl
  | east hhours hminutes hday hhour => exact hsigned (.inl rfl) hhours hminutes hday hhour
  | west hhours hminutes hday hhour => exact hsigned (.inr rfl) hhours hminutes hday hhour

lemma zone_of_offset? {offset : Int} (h : offset? cs = some offset) : Zone cs offset := by
  unfold offset? at h
  split at h
  · cases h
    exact .utc (.inl rfl)
  · cases h
    exact .utc (.inr rfl)
  · rename_i sign rest _ _
    dsimp only at h
    by_cases hsign : (sign != '+' && sign != '-') = true
    · rw [if_pos hsign] at h
      cases h
    · rw [if_neg hsign] at h
      simp only [Option.bind_eq_bind, Option.bind_eq_some_iff, Prod.exists] at h
      obtain ⟨hours, rest₁, hread, rest₂, hcolon, minutes, rest₃, hread', h⟩ := h
      split at h
      · cases h
      · rename_i hfits
        obtain ⟨⟨hday, hhour⟩, hend⟩ : (hours ≤ 23 ∧ minutes ≤ 59) ∧ rest₃ = [] := by
          simpa using hfits
        obtain ⟨hh, hhours, rfl⟩ := digits?_eq_some.mp hread
        obtain rfl := literal?_eq_some.mp hcolon
        obtain ⟨mm, hminutes, rfl⟩ := digits?_eq_some.mp hread'
        subst hend
        rw [List.append_nil]
        cases h
        by_cases hwest : sign = '-'
        · subst hwest
          exact .west hhours hminutes hday hhour
        · have heast : sign = '+' := by simpa [hwest] using hsign
          subst heast
          exact .east hhours hminutes hday hhour
  · cases h

lemma offset?_eq_some {offset : Int} : offset? cs = some offset ↔ Zone cs offset :=
  ⟨zone_of_offset?, offset?_of_zone⟩

/-- An offset is neither a digit nor a point at its beginning. -/
lemma Zone.endsFraction {offset : Int} (h : Zone cs offset) : EndsFraction cs := by
  intro c hc
  cases h with
  | utc h =>
    cases hc
    rcases h with rfl | rfl <;> decide
  | east => cases hc; decide
  | west => cases hc; decide

end Parts

/-! ## Whole texts -/

/-- Reads what a text is written with. -/
def fields? (cs : List Char) : Option Fields := do
  let (year, cs) ← digits? 4 cs
  let cs ← literal? '-' cs
  let (month, cs) ← digits? 2 cs
  let cs ← literal? '-' cs
  let (day, cs) ← digits? 2 cs
  let separator ← cs.head?
  if 0x80 ≤ separator.toNat then none
  let (hour, cs) ← digits? 2 (cs.drop 1)
  let cs ← literal? ':' cs
  let (minute, cs) ← digits? 2 cs
  let cs ← literal? ':' cs
  let (second, cs) ← digits? 2 cs
  let (nanos, cs) ← fraction? cs
  let offset ← offset? cs
  return ⟨year, month, day, hour, minute, second, nanos, offset⟩

/-- The timestamp, if the numbers are valid. -/
def Fields.check? (f : Fields) : Option Timestamp :=
  if !f.date.isValid || 23 < f.hour || 59 < f.minute ||
    59 < (if f.second == 60 then 59 else f.second) then none
  else if f.second == 60 then
    if (utc f.instant).localParts.2 != nanosPerDay - 1 ||
      !(utc f.instant).localParts.1.isLastOfMonth then none
    else some f.timestamp
  else some f.timestamp

lemma bind_eq_bind_bind {α β γ : Type} {x : Option α} {f : α → Option γ} {g : α → Option β}
    {k : β → Option γ} (h : ∀ a, f a = (g a).bind k) : (x >>= f) = (x >>= g).bind k := by
  cases x with
  | none => rfl
  | some a => exact h a

lemma parse?_eq (cs : List Char) : parse? cs = (fields? cs).bind Fields.check? := by
  unfold parse? fields?
  refine bind_eq_bind_bind fun ⟨year, cs⟩ => bind_eq_bind_bind fun cs =>
    bind_eq_bind_bind fun ⟨month, cs⟩ => bind_eq_bind_bind fun cs =>
    bind_eq_bind_bind fun ⟨day, cs⟩ => bind_eq_bind_bind fun separator => ?_
  dsimp only
  by_cases hseparator : 0x80 ≤ separator.toNat
  · rw [if_pos hseparator, if_pos hseparator]
    rfl
  · rw [if_neg hseparator, if_neg hseparator]
    exact bind_eq_bind_bind fun ⟨hour, cs⟩ => bind_eq_bind_bind fun cs =>
      bind_eq_bind_bind fun ⟨minute, cs⟩ => bind_eq_bind_bind fun cs =>
      bind_eq_bind_bind fun ⟨second, cs⟩ => bind_eq_bind_bind fun ⟨nanos, cs⟩ =>
      bind_eq_bind_bind fun offset => rfl

lemma Fields.check?_eq_some {f : Fields} {t : Timestamp} :
    f.check? = some t ↔ f.IsValid ∧ f.timestamp = t := by
  have hvalid : f.IsValid ↔ f.date.isValid = true ∧ f.hour ≤ 23 ∧ f.minute ≤ 59 ∧ f.second ≤ 60 ∧
      (f.second = 60 → (utc f.instant).localParts.2 = nanosPerDay - 1 ∧
        (utc f.instant).localParts.1.isLastOfMonth = true) :=
    ⟨fun ⟨date, hour, minute, second, leap⟩ => ⟨date, hour, minute, second, leap⟩,
      fun ⟨date, hour, minute, second, leap⟩ => ⟨date, hour, minute, second, leap⟩⟩
  rw [hvalid, check?]
  generalize (utc f.instant).localParts = parts
  generalize nanosPerDay - 1 = last
  by_cases hleap : f.second = 60
  · simp [hleap, and_assoc]
  · have hsecond : f.second ≤ 59 ↔ f.second ≤ 60 := by omega
    simp [hleap, hsecond, and_assoc]

lemma fields?_eq_some {cs : List Char} {f : Fields} : fields? cs = some f ↔ Spells cs f := by
  refine ⟨fun h => ?_, ?_⟩
  · simp only [fields?, Option.bind_eq_bind, Option.bind_eq_some_iff, Prod.exists] at h
    obtain ⟨year, cs₁, hyyyy, cs₂, hdash, month, cs₃, hmo, cs₄, hdash', day, cs₅, hdd, separator,
      hhead, h⟩ := h
    obtain ⟨yyyy, hyear, rfl⟩ := digits?_eq_some.mp hyyyy
    obtain rfl := literal?_eq_some.mp hdash
    obtain ⟨mo, hmonth, rfl⟩ := digits?_eq_some.mp hmo
    obtain rfl := literal?_eq_some.mp hdash'
    obtain ⟨dd, hday, rfl⟩ := digits?_eq_some.mp hdd
    obtain ⟨cs₆, rfl⟩ := List.head?_eq_some_iff.mp hhead
    split at h
    · cases h
    · rename_i hseparator
      simp only [Option.bind_eq_some_iff, Prod.exists, List.drop_one, List.tail_cons] at h
      obtain ⟨hour, cs₇, hhh, cs₈, hcolon, minute, cs₉, hmi, cs₁₀, hcolon', second, cs₁₁, hss,
        nanos, cs₁₂, hread, offset, hzone, hf⟩ := h
      obtain ⟨hh, hhour, rfl⟩ := digits?_eq_some.mp hhh
      obtain rfl := literal?_eq_some.mp hcolon
      obtain ⟨mi, hminute, rfl⟩ := digits?_eq_some.mp hmi
      obtain rfl := literal?_eq_some.mp hcolon'
      obtain ⟨ss, hsecond, rfl⟩ := digits?_eq_some.mp hss
      obtain ⟨fraction, hfraction, rfl⟩ := of_fraction? hread
      cases hf
      exact .intro hyear hmonth hday (Nat.lt_of_not_le hseparator) hhour hminute hsecond hfraction
        (offset?_eq_some.mp hzone)
  · rintro ⟨hyear, hmonth, hday, hseparator, hhour, hminute, hsecond, hfraction, hzone⟩
    simp only [fields?, Option.bind_eq_bind, digits?_append hyear, digits?_append hmonth,
      digits?_append hday, digits?_append hhour, digits?_append hminute, digits?_append hsecond,
      literal?_eq_some.mpr rfl, Option.bind_some, List.head?_cons, List.drop_one, List.tail_cons,
      if_neg (Nat.not_le_of_lt hseparator), fraction?_append hfraction hzone.endsFraction,
      offset?_eq_some.mpr hzone]
    rfl

/-- The texts that are read are the timestamps. -/
theorem parse?_eq_some {cs : List Char} {t : Timestamp} : parse? cs = some t ↔ Rfc3339 cs t := by
  simp only [parse?_eq, Option.bind_eq_some_iff, fields?_eq_some, Fields.check?_eq_some, Rfc3339]

/-- A leap second stands for the last nanosecond before it. -/
example : parse? "2016-12-31T15:59:60-08:00".toList = some ⟨1483228799999999999, -480⟩ := by
  decide +kernel

end ManagementServer.Time.Timestamp
