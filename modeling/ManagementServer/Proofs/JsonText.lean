import ManagementServer.Proofs.JsonValues
import Mathlib.Data.Nat.Digits.Defs
import Mathlib.Tactic.Common
import Mathlib.Tactic.IntervalCases

/-!
# Reading what was written

The text of a value whose numbers are integers reads as the draft of that value, provided its
containers are not nested too deeply (`Draft.read_chars`). No text of a value holds a line feed
(`Json.newline_not_mem_chars`).
-/

namespace ManagementServer

/-! ## Numerals -/

lemma Text.Digits.ofNat_eq (n : Nat) : ofNat n = Nat.toDigits 10 n := by
  simp [ofNat, toString, Nat.repr]

lemma Text.Digits.decimal_ofNat (n : Nat) : decimal (ofNat n) = n := by
  have h := Nat.ofDigitChars_toDigits (b := 10) (n := n) (by decide) (by decide)
  simp only [Nat.ofDigitChars] at h
  simp only [decimal, ofNat_eq, Nat.mul_comm _ 10]
  exact h

lemma Text.Digits.isDigit_of_mem {n : Nat} {c : Char} (h : c ∈ ofNat n) : c.isDigit :=
  Nat.isDigit_of_mem_toDigits (by decide) (by decide) (ofNat_eq n ▸ h)

lemma Text.Digits.ofNat_cases {n : Nat} (h : n ≠ 0) :
    ∃ first rest, ofNat n = first :: rest ∧ first ≠ '0' := by
  rw [ofNat_eq]
  induction n using Nat.strong_induction_on with
  | _ n ih =>
    rcases Nat.lt_or_ge n 10 with hn | hn
    · refine ⟨n.digitChar, [], Nat.toDigits_of_lt_base hn, ?_⟩
      have hfirst : ∀ k < 10, k ≠ 0 → k.digitChar ≠ '0' := by decide
      exact hfirst n hn h
    · obtain ⟨first, rest, hrest, hfirst⟩ := ih (n / 10) (by omega) (by omega)
      refine ⟨first, rest ++ [(n % 10).digitChar], ?_, hfirst⟩
      rw [Nat.toDigits_of_base_le (by decide) hn, hrest, List.cons_append]

namespace Reader

def Numeral.ofInteger (n : Int) : Numeral where
  negative := n < 0
  whole := (Text.Digits.ofNat n.natAbs).reverse
  fraction := []
  marked := false
  exponentNegative := false
  exponent := []
  part := if n = 0 then .zero else .whole

lemma Numeral.isComplete_ofInteger (n : Int) : (ofInteger n).isComplete = true := by
  by_cases hn : n = 0 <;> simp [isComplete, ofInteger, hn]

lemma Numeral.value_ofInteger {n : Int} (h : Number.isExact n = true) :
    (ofInteger n).value = some (.integer n) := by
  have hbounds : -0x8000000000000000 ≤ n ∧ n < 0x10000000000000000 := by
    simpa [Number.isExact] using h
  have hlength : (Text.Digits.ofNat n.natAbs).length ≤ 20 := by
    rw [Text.Digits.ofNat_eq, Nat.length_toDigits_le_iff (by decide) (by decide)]
    omega
  have hinteger : (ofInteger n).integer? = some n := by
    simp only [integer?, ofInteger, List.isEmpty_nil, Bool.not_false, Bool.and_self, Bool.true_and,
      List.length_reverse, decide_eq_true_eq, hlength, List.reverse_reverse,
      Text.Digits.decimal_ofNat, if_true]
    by_cases hn : n < 0
    · have hsize : (n.natAbs == 0) = false := by simp; omega
      have habs : -(n.natAbs : Int) = n := by omega
      simp only [hn, decide_true, hsize, Bool.and_false, Bool.false_eq_true, if_false, if_true,
        habs, Option.filter_some, h]
    · have habs : (n.natAbs : Int) = n := by omega
      simp [hn, habs, h]
  rw [value, hinteger]

lemma Numeral.foldl_step_digits {s : State} {n : Numeral} (hpart : n.part = .whole)
    {cs : List Char} (hcs : ∀ c ∈ cs, c.isDigit = true) :
    cs.foldl State.step { s with mode := .numeral n } =
      { s with mode := .numeral { n with whole := cs.reverse ++ n.whole } } := by
  induction cs generalizing n with
  | nil => rfl
  | cons c cs ih =>
    have hpush : n.push? c = some { n with whole := c :: n.whole } := by
      simp [push?, hpart, hcs c List.mem_cons_self]
    have hstep : State.step { s with mode := .numeral n } c =
        { s with mode := .numeral { n with whole := c :: n.whole } } := by
      simp only [State.step, hpush]
    rw [List.foldl_cons, hstep, ih (n := { n with whole := c :: n.whole }) hpart
      fun d hd => hcs d (List.mem_cons_of_mem _ hd)]
    simp

/-- A complete numeral ends where a character follows that belongs to no numeral. -/
lemma Numeral.push?_eq_none {n : Numeral} (h : n.isComplete = true) {c : Char}
    (hc : c = ',' ∨ c = ']' ∨ c = '}') : n.push? c = none := by
  rcases hc with rfl | rfl | rfl <;> cases hp : n.part <;> simp [push?, isComplete, hp] at h ⊢

/-! ## Strings -/

/-- The string being read behind further characters, unless one of them ends it. -/
def Quote.lead? (q : Quote) : List Char → Option Quote
  | [] => some q
  | c :: cs =>
    match q.step c with
    | .more next => next.lead? cs
    | _ => none

lemma Quote.lead?_append (q : Quote) (as bs : List Char) :
    q.lead? (as ++ bs) = (q.lead? as).bind fun r => r.lead? bs := by
  induction as generalizing q with
  | nil => rfl
  | cons c cs ih =>
    simp only [List.cons_append, lead?]
    cases q.step c with
    | more next => exact ih next
    | closed text => rfl
    | fault => rfl

/-- A string of which so much has been read. -/
def Quote.holding (cs : List Char) : Quote := ⟨cs.reverse, true, none, .none⟩

lemma Quote.lead?_escapeChar (cs : List Char) (c : Char) :
    (holding cs).lead? (Json.escapeChar c) = some (holding (cs ++ [c])) := by
  have hcs : (holding cs).push c = holding (cs ++ [c]) := by simp [holding, push]
  rw [← hcs]
  unfold Json.escapeChar
  split_ifs with hquote hslash hcontrol
  · obtain rfl : c = '"' := by simpa using hquote
    rfl
  · obtain rfl : c = '\\' := by simpa using hslash
    rfl
  · -- Each of the thirty-two controls has an escape of its own, short or by number.
    have hc : Char.ofNat c.toNat = c := Char.ofNat_toNat c
    rw [← hc]
    generalize c.toNat = n at hcontrol
    interval_cases n <;> rfl
  · simp [lead?, step, holding, hquote, hslash, hcontrol]

lemma Quote.lead?_flatMap (cs done : List Char) :
    (holding done).lead? (cs.flatMap Json.escapeChar) = some (holding (done ++ cs)) := by
  induction cs generalizing done with
  | nil => rw [List.flatMap_nil, List.append_nil]; rfl
  | cons c cs ih =>
    rw [List.flatMap_cons, lead?_append, lead?_escapeChar, Option.bind_some, ih,
      List.append_assoc, List.singleton_append]

lemma Quote.finish_holding (s : String) : (holding s.toList).finish = some s := by
  simp [finish, holding]

/-- The reader inside a string, be it a value or a key. -/
lemma State.foldl_step_lead {s : State} {mode : Quote → Mode}
    (hmode : ∀ q next c, q.step c = .more next →
      State.step { s with mode := mode q } c = { s with mode := mode next })
    {cs : List Char} {q r : Quote} (h : q.lead? cs = some r) :
    cs.foldl State.step { s with mode := mode q } = { s with mode := mode r } := by
  induction cs generalizing q with
  | nil =>
    obtain rfl : q = r := Option.some.inj h
    rfl
  | cons c cs ih =>
    simp only [Quote.lead?] at h
    cases hc : q.step c with
    | more next =>
      rw [hc] at h
      rw [List.foldl_cons, hmode q next c hc, ih h]
    | closed text => simp [hc] at h
    | fault => simp [hc] at h

/-! ## Values -/

/-- The reader behind a value that began where it stood at `s`. A number is behind it only once
another character follows. -/
inductive State.Behind (s : State) (d : Draft) : State → Prop where
  | put : Behind s d (s.put d)
  | numeral {n : Numeral} (hn : n.isComplete = true) (hd : d = .number n.value) :
      Behind s d { s with mode := .numeral n }

lemma State.mode_put {s : State} (hs : s.stack ≠ []) (d : Draft) : (s.put d).mode = .after := by
  unfold put
  cases hstack : s.stack with
  | nil => exact absurd hstack hs
  | cons frame rest => cases frame <;> rfl

lemma State.put_mode (s : State) (m : Mode) (d : Draft) : { s with mode := m }.put d = s.put d := by
  unfold put
  cases s.stack with
  | nil => rfl
  | cons frame rest => cases frame <;> rfl

/-- Inside a container the next character is read behind the value. -/
lemma State.Behind.step {s t : State} {d : Draft} (h : s.Behind d t) (hs : s.stack ≠ []) {c : Char}
    (hc : c = ',' ∨ c = ']' ∨ c = '}') : t.step c = (s.put d).stepAfter c := by
  cases h with
  | put => rw [State.step, mode_put hs]
  | numeral hn hd =>
    simp only [State.step, Numeral.push?_eq_none hn hc, hn, if_true, put_mode, ← hd]

lemma State.step_begin {s : State} (hs : s.mode = .value ∨ s.mode = .firstItem) {c : Char}
    (hspace : isSpace c = false) (hc : c ≠ ']') : s.step c = s.beginValue c := by
  rcases hs with hs | hs <;> simp [State.step, hs, hspace, hc]

lemma State.beginValue_of_isDigit (s : State) {c : Char} (hc : c.isDigit = true) (h0 : c ≠ '0') :
    s.beginValue c = { s with mode := .numeral ⟨false, [c], [], false, false, [], .whole⟩ } := by
  have hne : ∀ d : Char, d.isDigit = false → c ≠ d := by
    rintro d hd rfl
    exact Bool.false_ne_true (hd.symm.trans hc)
  have hstart : Numeral.start? c = some ⟨false, [c], [], false, false, [], .whole⟩ := by
    simp [Numeral.start?, hne '-' rfl, h0, hc]
  simp [beginValue, hne '[' rfl, hne '{' rfl, hne '"' rfl, hne 'n' rfl, hne 't' rfl, hne 'f' rfl,
    hstart]

lemma State.foldl_step_integer {s : State} (hs : s.mode = .value ∨ s.mode = .firstItem) (n : Int) :
    (Number.integerChars n).foldl State.step s =
      { s with mode := .numeral (Numeral.ofInteger n) } := by
  by_cases hzero : n = 0
  · subst hzero
    have hchars : Number.integerChars 0 = ['0'] := rfl
    rw [hchars, List.foldl_cons, List.foldl_nil, step_begin hs rfl (by decide)]
    rfl
  obtain ⟨first, rest, hdigits, hfirst⟩ := Text.Digits.ofNat_cases (Int.natAbs_ne_zero.mpr hzero)
  have hall : ∀ c ∈ first :: rest, c.isDigit = true := fun c hc =>
    Text.Digits.isDigit_of_mem (hdigits ▸ hc)
  have hdigit := hall first List.mem_cons_self
  have hrest : ∀ c ∈ rest, c.isDigit = true := fun c hc => hall c (List.mem_cons_of_mem _ hc)
  unfold Number.integerChars
  rw [hdigits]
  split_ifs with hn
  · have hminus : s.step '-' =
        { s with mode := .numeral ⟨true, [], [], false, false, [], .minus⟩ } :=
      step_begin hs rfl (by decide)
    have hpush : (⟨true, [], [], false, false, [], .minus⟩ : Numeral).push? first =
        some ⟨true, [first], [], false, false, [], .whole⟩ := by
      simp [Numeral.push?, hfirst, hdigit]
    have hstep : State.step { s with mode := .numeral ⟨true, [], [], false, false, [], .minus⟩ }
        first = { s with mode := .numeral ⟨true, [first], [], false, false, [], .whole⟩ } := by
      simp only [step, hpush]
    rw [List.foldl_cons, List.foldl_cons, hminus, hstep, Numeral.foldl_step_digits rfl hrest]
    simp [Numeral.ofInteger, hzero, hn, hdigits]
  · have hspace : isSpace first = false := by
      have hne : ∀ d : Char, d.isDigit = false → first ≠ d := by
        rintro d hd rfl
        exact Bool.false_ne_true (hd.symm.trans hdigit)
      simp [isSpace, hne ' ' rfl, hne '\t' rfl, hne '\n' rfl, hne '\r' rfl]
    have hclose : first ≠ ']' := by
      rintro rfl
      exact Bool.false_ne_true hdigit
    rw [List.foldl_cons, step_begin hs hspace hclose, beginValue_of_isDigit s hdigit hfirst,
      Numeral.foldl_step_digits rfl hrest]
    simp [Numeral.ofInteger, hzero, hn, hdigits]

lemma State.foldl_step_string {s : State} (hs : s.mode = .value ∨ s.mode = .firstItem)
    (text : String) :
    (Json.stringChars text).foldl State.step s = s.put (.string (some text)) := by
  have hquote : s.step '"' = { s with mode := .text (Quote.holding []) } :=
    step_begin hs rfl (by decide)
  have hmode : ∀ q next c, q.step c = .more next →
      State.step { s with mode := .text q } c = { s with mode := .text next } := by
    intro q next c h
    simp only [step, h]
  have hclosed : (Quote.holding text.toList).step '"' = .closed (some text) :=
    congrArg QuoteStep.closed (Quote.finish_holding text)
  have hend : State.step { s with mode := .text (Quote.holding text.toList) } '"' =
      s.put (.string (some text)) := by
    simp only [step, hclosed, put_mode]
  rw [Json.stringChars, List.cons_append, List.foldl_cons, List.foldl_append, hquote,
    foldl_step_lead hmode (Quote.lead?_flatMap text.toList []), List.nil_append, List.foldl_cons,
    List.foldl_nil, hend]

lemma State.foldl_step_key {s : State} (hs : s.mode = .firstKey ∨ s.mode = .nextKey)
    {done : List (String × Draft)} {old : String} {rest : List Frame}
    (hstack : s.stack = .members done old :: rest) (key : String) (cs : List Char) :
    (Json.stringChars key ++ ':' :: cs).foldl State.step s =
      cs.foldl State.step { s with stack := .members done key :: rest, mode := .value } := by
  have hquote : s.step '"' = { s with mode := .keyText (Quote.holding []) } := by
    rcases hs with hs | hs <;> simp [State.step, hs, isSpace] <;> rfl
  have hmode : ∀ q next c, q.step c = .more next →
      State.step { s with mode := .keyText q } c = { s with mode := .keyText next } := by
    intro q next c h
    simp only [step, h]
  have hclosed : (Quote.holding key.toList).step '"' = .closed (some key) :=
    congrArg QuoteStep.closed (Quote.finish_holding key)
  have hend : State.step { s with mode := .keyText (Quote.holding key.toList) } '"' =
      { s with stack := .members done key :: rest, mode := .colon } := by
    simp only [step, hclosed, putKey, hstack]
  have hkey : (Json.stringChars key).foldl State.step s =
      { s with stack := .members done key :: rest, mode := .colon } := by
    rw [Json.stringChars, List.cons_append, List.foldl_cons, List.foldl_append, hquote,
      foldl_step_lead hmode (Quote.lead?_flatMap key.toList []), List.nil_append, List.foldl_cons,
      List.foldl_nil, hend]
  rw [List.foldl_append, hkey, List.foldl_cons]
  rfl

section Containers

variable {s t : State} {d : Draft} {rest : List Frame}

/-- Behind an item: another one is to come, or the array ends. -/
lemma State.Behind.item {done : List Draft} (h : s.Behind d t)
    (hstack : s.stack = .items done :: rest) :
    t.step ',' = { s with stack := .items (d :: done) :: rest, mode := .value } ∧
      t.step ']' = State.put ⟨s.room + 1, rest, .after⟩ (.array (d :: done).reverse) := by
  have hne : s.stack ≠ [] := hstack ▸ List.cons_ne_nil _ _
  have hput : s.put d = { s with stack := .items (d :: done) :: rest, mode := .after } := by
    simp only [State.put, hstack]
  rw [h.step hne (.inl rfl), h.step hne (.inr (.inl rfl)), hput]
  exact ⟨rfl, rfl⟩

/-- Behind a member: another one is to come, or the object ends. -/
lemma State.Behind.member {done : List (String × Draft)} {key : String} (h : s.Behind d t)
    (hstack : s.stack = .members done key :: rest) :
    t.step ',' = { s with stack := .members ((key, d) :: done) "" :: rest, mode := .nextKey } ∧
      t.step '}' = State.put ⟨s.room + 1, rest, .after⟩ (.object ((key, d) :: done).reverse) := by
  have hne : s.stack ≠ [] := hstack ▸ List.cons_ne_nil _ _
  have hput : s.put d =
      { s with stack := .members ((key, d) :: done) "" :: rest, mode := .after } := by
    simp only [State.put, hstack]
  rw [h.step hne (.inl rfl), h.step hne (.inr (.inr rfl)), hput]
  exact ⟨rfl, rfl⟩

end Containers

mutual

/-- The text of a value takes the reader behind that value. -/
theorem State.behind_value : (v : Json) → (s : State) → s.mode = .value ∨ s.mode = .firstItem →
    v.isIntegral = true → v.depth ≤ s.room → s.Behind (.ofJson v) (v.chars.foldl State.step s)
  | .null, s, hs, _, _ => by
    have h : (Json.null.chars).foldl State.step s = s.put .null := by
      rw [Json.chars, List.foldl_cons, step_begin hs rfl (by decide)]
      simp [beginValue, step, put_mode]
    exact h ▸ .put
  | .bool true, s, hs, _, _ => by
    have h : (Json.bool true).chars.foldl State.step s = s.put (.bool true) := by
      rw [Json.chars, List.foldl_cons, step_begin hs rfl (by decide)]
      simp [beginValue, step, put_mode]
    exact h ▸ .put
  | .bool false, s, hs, _, _ => by
    have h : (Json.bool false).chars.foldl State.step s = s.put (.bool false) := by
      rw [Json.chars, List.foldl_cons, step_begin hs rfl (by decide)]
      simp [beginValue, step, put_mode]
    exact h ▸ .put
  | .number (.integer n), s, hs, hi, _ => by
    -- A number has no last character of its own, so it is not put away yet.
    rw [Json.chars, Number.chars, foldl_step_integer hs]
    exact .numeral (Numeral.isComplete_ofInteger n) (by
      rw [Numeral.value_ofInteger (by simpa [Json.isIntegral] using hi), Draft.ofJson])
  | .number (.double _), _, _, hi, _ => by simp [Json.isIntegral] at hi
  | .string text, s, hs, _, _ => by
    rw [Json.chars, foldl_step_string hs, Draft.ofJson]
    exact .put
  | .array items, s, hs, hi, hd => by
    obtain ⟨room, hroom⟩ : ∃ room, s.room = room + 1 :=
      Nat.exists_eq_add_one.mpr (Nat.zero_lt_of_lt hd)
    have hdepth : Json.itemsDepth items ≤ room := by
      rw [Json.depth] at hd
      omega
    have hopen : s.step '[' = ⟨room, .items [] :: s.stack, .firstItem⟩ := by
      rw [step_begin hs rfl (by decide)]
      simp [beginValue, openWith, hroom]
    rw [Json.chars, List.cons_append, List.foldl_cons, hopen,
      reads_items items ⟨room, .items [] :: s.stack, .firstItem⟩ [] s.stack rfl (.inr rfl)
        (fun _ => rfl) (by simpa [Json.isIntegral] using hi) hdepth,
      List.append_nil, List.reverse_reverse, Draft.ofJson, ← hroom]
    exact put_mode s .after _ ▸ .put
  | .object members, s, hs, hi, hd => by
    obtain ⟨room, hroom⟩ : ∃ room, s.room = room + 1 :=
      Nat.exists_eq_add_one.mpr (Nat.zero_lt_of_lt hd)
    have hdepth : Json.membersDepth members ≤ room := by
      rw [Json.depth] at hd
      omega
    have hopen : s.step '{' = ⟨room, .members [] "" :: s.stack, .firstKey⟩ := by
      rw [step_begin hs rfl (by decide)]
      simp [beginValue, openWith, hroom]
    rw [Json.chars, List.cons_append, List.foldl_cons, hopen,
      reads_members members ⟨room, .members [] "" :: s.stack, .firstKey⟩ [] "" s.stack rfl
        (.inl rfl) (fun _ => rfl) (by simpa [Json.isIntegral] using hi) hdepth,
      List.append_nil, List.reverse_reverse, Draft.ofJson, ← hroom]
    exact put_mode s .after _ ▸ .put

/-- The items of an array that is open take the reader behind the array. -/
theorem State.reads_items : (items : List Json) → (s : State) → (done : List Draft) →
    (rest : List Frame) → s.stack = .items done :: rest → s.mode = .value ∨ s.mode = .firstItem →
    (items = [] → s.mode = .firstItem) → Json.itemsAreIntegral items = true →
    Json.itemsDepth items ≤ s.room →
    (Json.itemChars items ++ [']']).foldl State.step s =
      State.put ⟨s.room + 1, rest, .after⟩
        (.array ((Draft.ofItems items).reverse ++ done).reverse)
  | [], s, done, rest, hstack, _, hfirst, _, _ => by
    simp [Json.itemChars, Draft.ofItems, step, hfirst rfl, isSpace, close, hstack]
  | [item], s, done, rest, hstack, hs, _, hi, hd => by
    have hitem := behind_value item s hs (by simpa [Json.itemsAreIntegral] using hi)
      (by simpa [Json.itemsDepth] using hd)
    rw [Json.itemChars, List.foldl_append, List.foldl_cons, List.foldl_nil,
      (hitem.item hstack).2, Draft.ofItems, Draft.ofItems]
    rfl
  | item :: next :: more, s, done, rest, hstack, hs, _, hi, hd => by
    simp only [Json.itemsAreIntegral, Bool.and_eq_true] at hi
    simp only [Json.itemsDepth, Nat.max_le] at hd
    have hitem := behind_value item s hs hi.1 hd.1
    have hmore := reads_items (next :: more)
      { s with stack := .items (.ofJson item :: done) :: rest, mode := .value }
      (.ofJson item :: done) rest rfl (.inl rfl) (fun h => absurd h (List.cons_ne_nil _ _))
      (by simpa [Json.itemsAreIntegral] using hi.2) (by simpa [Json.itemsDepth] using hd.2)
    rw [Json.itemChars, List.append_assoc, List.foldl_append, List.cons_append, List.foldl_cons,
      (hitem.item hstack).1, hmore]
    · simp [Draft.ofItems]
    · exact List.cons_ne_nil _ _

/-- The members of an object that is open take the reader behind the object. -/
theorem State.reads_members : (members : List (String × Json)) → (s : State) →
    (done : List (String × Draft)) → (key : String) → (rest : List Frame) →
    s.stack = .members done key :: rest → s.mode = .firstKey ∨ s.mode = .nextKey →
    (members = [] → s.mode = .firstKey) → Json.membersAreIntegral members = true →
    Json.membersDepth members ≤ s.room →
    (Json.memberChars members ++ ['}']).foldl State.step s =
      State.put ⟨s.room + 1, rest, .after⟩
        (.object ((Draft.ofMembers members).reverse ++ done).reverse)
  | [], s, done, key, rest, hstack, _, hfirst, _, _ => by
    simp [Json.memberChars, Draft.ofMembers, step, hfirst rfl, isSpace, close, hstack]
  | [(name, item)], s, done, key, rest, hstack, hs, _, hi, hd => by
    have hitem := behind_value item { s with stack := .members done name :: rest, mode := .value }
      (.inl rfl) (by simpa [Json.membersAreIntegral] using hi)
      (by simpa [Json.membersDepth] using hd)
    rw [Json.memberChars, List.append_assoc, List.cons_append, foldl_step_key hs hstack,
      List.foldl_append, List.foldl_cons, List.foldl_nil, (hitem.member rfl).2, Draft.ofMembers,
      Draft.ofMembers]
    rfl
  | (name, item) :: next :: more, s, done, key, rest, hstack, hs, _, hi, hd => by
    rw [Json.membersAreIntegral, Bool.and_eq_true] at hi
    rw [Json.membersDepth, Nat.max_le] at hd
    have hitem := behind_value item { s with stack := .members done name :: rest, mode := .value }
      (.inl rfl) hi.1 hd.1
    have hmore := reads_members (next :: more)
      { s with stack := .members ((name, .ofJson item) :: done) "" :: rest, mode := .nextKey }
      ((name, .ofJson item) :: done) "" rest rfl (.inr rfl)
      (fun h => absurd h (List.cons_ne_nil _ _)) hi.2 hd.2
    rw [Json.memberChars, List.append_assoc, List.append_assoc, List.cons_append,
      foldl_step_key hs hstack, List.foldl_append, List.cons_append, List.foldl_cons,
      (hitem.member rfl).1, hmore]
    · simp [Draft.ofMembers]
    · exact List.cons_ne_nil _ _

end

/-! ## Whole texts -/

lemma State.foldl_step_broken {s : State} (hs : s.mode = .broken) (cs : List Char) :
    cs.foldl State.step s = s := by
  induction cs with
  | nil => rfl
  | cons c cs ih =>
    have hstep : s.step c = s := by simp only [State.step, hs]
    rw [List.foldl_cons, hstep, ih]

/-- Nothing is set aside in a text without a fault. -/
lemma foldl_step {cs : List Char} {s : State} (h : (cs.foldl State.step s).mode ≠ .broken) :
    cs.foldl Reader.step ⟨s, none⟩ = ⟨cs.foldl State.step s, none⟩ := by
  induction cs generalizing s with
  | nil => rfl
  | cons c cs ih =>
    rw [List.foldl_cons] at h
    have hc : (s.step c).mode ≠ .broken := by
      intro hbroken
      rw [State.foldl_step_broken hbroken] at h
      exact h hbroken
    have hstep : Reader.step ⟨s, none⟩ c = ⟨s.step c, none⟩ := by
      simp only [Reader.step]
      split
      · next hmode _ => exact absurd hmode hc
      · rfl
    rw [List.foldl_cons, List.foldl_cons, hstep, ih h]

lemma State.Behind.mode_ne {s t : State} {d : Draft} (h : s.Behind d t) : t.mode ≠ .broken := by
  cases h with
  | put =>
    unfold State.put
    cases s.stack with
    | nil => exact Mode.noConfusion
    | cons frame rest => cases frame <;> exact Mode.noConfusion
  | numeral hn hd => exact Mode.noConfusion

/-- Behind a value that stands alone, that value is what was read. -/
lemma State.Behind.finished? {s t : State} {d : Draft} (h : s.Behind d t) (hs : s.stack = []) :
    t.finished? = some d := by
  cases h with
  | put => simp only [State.put, hs, State.finished?]
  | numeral hn hd => simp [State.finished?, hn, hs, hd]

end Reader

theorem Draft.read_chars {v : Json} (hi : v.isIntegral = true) (hd : v.depth ≤ maxDepth) :
    read v.chars = ⟨ofJson v, false⟩ := by
  have hbehind := Reader.State.behind_value v ⟨maxDepth, [], .value⟩ (.inl rfl) hi hd
  rw [read, readWithin, Reader.start, Reader.foldl_step hbehind.mode_ne, Reader.finish]
  simp only [hbehind.finished? rfl]

/-- A decoder that takes the draft of a value takes its text. -/
lemma Decoder.fromText_chars {α : Type} {decode : Decoder α} {v : Json} {a : α}
    (hi : v.isIntegral = true) (hd : v.depth ≤ Draft.maxDepth) (h : decode (.ofJson v) = .ok a) :
    decode.fromText v.chars = .ok a := by
  rw [fromText, Draft.read_chars hi hd, fromOutcome, h]
  rfl

/-! ## Line feeds -/

namespace Json

lemma newline_ne_of_isDigit {c : Char} (h : c.isDigit = true) : c ≠ '\n' := by
  rintro rfl
  exact Bool.false_ne_true h

lemma newline_not_mem_ofNat (n : Nat) : '\n' ∉ Text.Digits.ofNat n :=
  fun h => newline_ne_of_isDigit (Text.Digits.isDigit_of_mem h) rfl

lemma newline_not_mem_decimalChars (digits : Nat) (power : Int) :
    '\n' ∉ Numeric.Binary64.decimalChars digits power := by
  have hdigits := newline_not_mem_ofNat digits
  have htake : ∀ k, '\n' ∉ (Text.Digits.ofNat digits).take k := fun k h =>
    hdigits (List.mem_of_mem_take h)
  have hdrop : ∀ k, '\n' ∉ (Text.Digits.ofNat digits).drop k := fun k h =>
    hdigits (List.mem_of_mem_drop h)
  have htail : '\n' ∉ (Text.Digits.ofNat digits).tail := fun h => hdigits (List.mem_of_mem_tail h)
  unfold Numeric.Binary64.decimalChars
  dsimp only
  split_ifs <;> simp [htake, hdrop, htail, hdigits, newline_not_mem_ofNat, List.mem_replicate]

lemma newline_not_mem_number (n : Number) : '\n' ∉ n.chars := by
  cases n with
  | integer n =>
    rw [Number.chars, Number.integerChars]
    split_ifs <;> simp [newline_not_mem_ofNat]
  | double x =>
    rw [Number.chars, Numeric.Binary64.chars]
    dsimp only
    split_ifs <;> simp [newline_not_mem_decimalChars]

lemma newline_not_mem_escapeChar (c : Char) : '\n' ∉ escapeChar c := by
  unfold escapeChar
  split_ifs with hquote hslash hcontrol
  · decide
  · decide
  · generalize c.toNat = n at hcontrol
    interval_cases n <;> decide
  · rintro hc
    obtain rfl := List.mem_singleton.mp hc
    exact hcontrol (by decide)

lemma newline_not_mem_stringChars (s : String) : '\n' ∉ stringChars s := by
  simp [stringChars, newline_not_mem_escapeChar]

mutual

theorem newline_not_mem_chars : (v : Json) → '\n' ∉ v.chars
  | .null => by decide
  | .bool true => by decide
  | .bool false => by decide
  | .number n => by simpa [chars] using newline_not_mem_number n
  | .string s => by simpa [chars] using newline_not_mem_stringChars s
  | .array items => by simpa [chars] using newline_not_mem_itemChars items
  | .object members => by simpa [chars] using newline_not_mem_memberChars members

theorem newline_not_mem_itemChars : (items : List Json) → '\n' ∉ itemChars items
  | [] => by decide
  | [item] => by simpa [itemChars] using newline_not_mem_chars item
  | item :: next :: more => by
    simpa [itemChars] using ⟨newline_not_mem_chars item, newline_not_mem_itemChars (next :: more)⟩

theorem newline_not_mem_memberChars : (members : List (String × Json)) →
    '\n' ∉ memberChars members
  | [] => by decide
  | [(key, item)] => by
    simpa [memberChars] using ⟨newline_not_mem_stringChars key, newline_not_mem_chars item⟩
  | (key, item) :: next :: more => by
    simpa [memberChars] using ⟨newline_not_mem_stringChars key, newline_not_mem_chars item,
      newline_not_mem_memberChars (next :: more)⟩

end

end Json

end ManagementServer
