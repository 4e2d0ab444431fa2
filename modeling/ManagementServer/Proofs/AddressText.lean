import ManagementServer.Net.Address
import ManagementServer.Proofs.JsonText

/-!
# Addresses and their texts

Whatever reads as an address has its parts in range (`IpAddress.isProper_of_parse?`), and the
canonical text of such an address reads as that address (`IpAddress.parse?_chars`).
-/

namespace ManagementServer

/-! ## Runs of digits -/

lemma takeWhile_run {α : Type} {p : α → Bool} {run rest : List α}
    (hrun : ∀ x ∈ run, p x = true) (hrest : ∀ x ∈ rest.head?, p x = false) :
    (run ++ rest).takeWhile p = run := by
  rw [List.takeWhile_append_of_pos hrun]
  cases rest with
  | nil => simp
  | cons x xs => simp [hrest x rfl]

namespace Text.Digits

lemma hexValue?_digitChar : ∀ n < 16, hexValue? n.digitChar = some n := by
  decide

lemma value?_digitChar {n : Nat} (h : n < 16) : value? 16 n.digitChar = some n := by
  simp [value?, hexValue?_digitChar n h, h]

lemma hexValue?_isSome_of_mem {n : Nat} {c : Char} (h : c ∈ Nat.toDigits 16 n) :
    (hexValue? c).isSome = true := by
  induction n using Nat.strong_induction_on with
  | _ n ih =>
    rcases Nat.lt_or_ge n 16 with hn | hn
    · rw [Nat.toDigits_of_lt_base hn, List.mem_singleton] at h
      rw [h, hexValue?_digitChar n hn]
      rfl
    · rw [Nat.toDigits_of_base_le (by decide) hn, List.mem_append, List.mem_singleton] at h
      rcases h with h | rfl
      · exact ih (n / 16) (by omega) h
      · rw [hexValue?_digitChar _ (Nat.mod_lt n (by decide))]
        rfl

/-- One more digit of a numeral. -/
def shift (base : Nat) (acc : Option Nat) (c : Char) : Option Nat := do
  return (← acc) * base + (← value? base c)

lemma foldl_shift_toDigits (n : Nat) : (Nat.toDigits 16 n).foldl (shift 16) (some 0) = some n := by
  induction n using Nat.strong_induction_on with
  | _ n ih =>
    rcases Nat.lt_or_ge n 16 with hn | hn
    · rw [Nat.toDigits_of_lt_base hn]
      simp [shift, value?_digitChar hn]
    · have hlast := Nat.mod_lt n (show 0 < 16 by decide)
      rw [Nat.toDigits_of_base_le (by decide) hn, List.foldl_append, ih (n / 16) (by omega)]
      simp only [shift, List.foldl_cons, List.foldl_nil, value?_digitChar hlast, bind, pure,
        Option.bind_some, Option.some.injEq]
      omega

lemma parse?_of_ne_nil {base : Nat} {cs : List Char} (h : cs ≠ []) :
    parse? base cs = cs.foldl (shift base) (some 0) := by
  cases cs with
  | nil => exact absurd rfl h
  | cons c cs => rfl

lemma parse?_toDigits (n : Nat) : parse? 16 (Nat.toDigits 16 n) = some n := by
  rw [parse?_of_ne_nil (List.length_pos_iff.mp Nat.length_toDigits_pos), foldl_shift_toDigits]

lemma foldl_shift_none (base : Nat) (cs : List Char) : cs.foldl (shift base) none = none := by
  induction cs with
  | nil => rfl
  | cons c cs ih => exact ih

lemma foldl_shift_lt {base n : Nat} {cs : List Char} {k : Nat}
    (h : cs.foldl (shift base) (some k) = some n) : n < (k + 1) * base ^ cs.length := by
  induction cs generalizing k with
  | nil =>
    simp only [List.foldl_nil, Option.some.injEq] at h
    simp [h]
  | cons c cs ih =>
    rw [List.foldl_cons] at h
    cases hv : value? base c with
    | none =>
      have hnone : shift base (some k) c = none := by simp [shift, hv]
      rw [hnone, foldl_shift_none] at h
      cases h
    | some v =>
      have hsome : shift base (some k) c = some (k * base + v) := by simp [shift, hv]
      have hvb : v < base := by
        have := Option.mem_filter_iff.mp (show v ∈ value? base c from hv)
        simpa using this.2
      rw [hsome] at h
      calc n < (k * base + v + 1) * base ^ cs.length := ih h
        _ ≤ ((k + 1) * base) * base ^ cs.length :=
          Nat.mul_le_mul_right _ (by rw [Nat.add_mul]; omega)
        _ = (k + 1) * base ^ (c :: cs).length := by
          rw [List.length_cons, Nat.pow_succ']
          ring

lemma lt_of_parse? {base n : Nat} {cs : List Char} (h : parse? base cs = some n) :
    n < base ^ cs.length := by
  cases cs with
  | nil => cases h
  | cons c cs =>
    rw [parse?_of_ne_nil (by simp)] at h
    simpa using foldl_shift_lt h

end Text.Digits

namespace Net

/-! ## IPv4 addresses -/

namespace Ipv4

/-- Every part is an octet. -/
structure IsProper (x : Ipv4) : Prop where
  a : x.a < 256
  b : x.b < 256
  c : x.c < 256
  d : x.d < 256

lemma octet?_lt {cs rest : List Char} {n : Nat} (h : octet? cs = some (n, rest)) : n < 256 := by
  unfold octet? at h
  dsimp only at h
  split at h
  · cases h
  · rename_i hbad
    simp only [Bool.or_eq_true, decide_eq_true_eq, not_or] at hbad
    cases h
    omega

lemma dotted?_lt {cs rest : List Char} {n : Nat} (h : dotted? cs = some (n, rest)) : n < 256 := by
  unfold dotted? at h
  split at h
  · exact octet?_lt h
  · cases h

lemma isProper_of_read? {cs rest : List Char} {x : Ipv4} (h : read? cs = some (x, rest)) :
    x.IsProper := by
  simp only [read?, bind, pure, Option.bind_eq_some_iff, Prod.exists] at h
  obtain ⟨a, as, ha, b, bs, hb, c, cs, hc, d, ds, hd, h⟩ := h
  cases h
  exact ⟨octet?_lt ha, dotted?_lt hb, dotted?_lt hc, dotted?_lt hd⟩

lemma isProper_of_parse? {cs : List Char} {x : Ipv4} (h : parse? cs = some x) : x.IsProper := by
  simp only [parse?, bind, Option.bind_eq_some_iff, Prod.exists] at h
  obtain ⟨y, rest, hread, h⟩ := h
  split at h
  · cases h
    exact isProper_of_read? hread
  · cases h

lemma octet?_ofNat {n : Nat} (hn : n < 256) {rest : List Char}
    (hrest : ∀ c ∈ rest.head?, c.isDigit = false) :
    octet? (Text.Digits.ofNat n ++ rest) = some (n, rest) := by
  have hrun := takeWhile_run (p := Char.isDigit)
    (fun c hc => Text.Digits.isDigit_of_mem (n := n) hc) hrest
  have hlength : (Text.Digits.ofNat n).length ≤ 3 := by
    rw [Text.Digits.ofNat_eq, Nat.length_toDigits_le_iff (by decide) (by decide)]
    omega
  have hempty : (Text.Digits.ofNat n).isEmpty = false := by
    rw [Text.Digits.ofNat_eq, List.isEmpty_eq_false_iff, ← List.length_pos_iff]
    exact Nat.length_toDigits_pos
  have hlead : 1 < (Text.Digits.ofNat n).length → (Text.Digits.ofNat n).head? ≠ some '0' := by
    intro hlong hhead
    have hzero : n ≠ 0 := by
      rintro rfl
      exact absurd hlong (by decide)
    obtain ⟨first, more, hcs, hfirst⟩ := Text.Digits.ofNat_cases hzero
    rw [hcs] at hhead
    exact hfirst (by simpa using hhead)
  have htake : (Text.Digits.ofNat n).take 4 = Text.Digits.ofNat n :=
    List.take_of_length_le (by omega)
  unfold octet?
  simp only [hrun, htake, Text.Digits.decimal_ofNat, hempty, List.drop_left]
  rw [if_neg]
  simp only [Bool.false_or, Bool.or_eq_true, Bool.and_eq_true, decide_eq_true_eq, beq_iff_eq]
  rintro ((h | h) | ⟨h, h'⟩)
  · omega
  · omega
  · exact hlead h h'

lemma read?_chars {x : Ipv4} (h : x.IsProper) {rest : List Char}
    (hrest : ∀ c ∈ rest.head?, c.isDigit = false) : read? (x.chars ++ rest) = some (x, rest) := by
  have hdot (cs : List Char) : ∀ c ∈ ('.' :: cs).head?, c.isDigit = false := by simp
  simp only [chars, List.append_assoc, List.cons_append, read?, bind, Option.bind_some, dotted?,
    octet?_ofNat h.a (hdot _), octet?_ofNat h.b (hdot _), octet?_ofNat h.c (hdot _),
    octet?_ofNat h.d hrest]
  rfl

/-- The text of an address reads as that address. -/
theorem parse?_chars {x : Ipv4} (h : x.IsProper) : parse? x.chars = some x := by
  have hread : read? (x.chars ++ []) = some (x, []) := read?_chars h (by simp)
  rw [List.append_nil] at hread
  simp [parse?, hread]

lemma dotted?_of_not_mem {cs : List Char} (h : '.' ∉ cs) : dotted? cs = none := by
  cases cs with
  | nil => rfl
  | cons c cs =>
    unfold dotted?
    split
    · rename_i heq
      cases heq
      exact absurd List.mem_cons_self h
    · rfl

lemma drop_of_octet? {cs rest : List Char} {n : Nat} (h : octet? cs = some (n, rest)) :
    ∃ k, rest = cs.drop k := by
  unfold octet? at h
  dsimp only at h
  split at h
  · cases h
  · cases h
    exact ⟨_, rfl⟩

lemma read?_of_not_mem {cs : List Char} (h : '.' ∉ cs) : read? cs = none := by
  cases ho : octet? cs with
  | none => simp [read?, ho]
  | some found =>
    obtain ⟨n, rest⟩ := found
    obtain ⟨k, rfl⟩ := drop_of_octet? ho
    have hdotted : dotted? (cs.drop k) = none :=
      dotted?_of_not_mem fun hmem => h (List.mem_of_mem_drop hmem)
    simp [read?, ho, hdotted]

lemma read?_of_head {c : Char} {cs : List Char} (h : c.isDigit = false) :
    read? (c :: cs) = none := by
  have ho : octet? (c :: cs) = none := by simp [octet?, h]
  simp [read?, ho]

end Ipv4

/-! ## IPv6 addresses -/

namespace Ipv6

/-- There are eight groups of sixteen bits. -/
structure IsProper (x : Ipv6) : Prop where
  length : x.groups.length = 8
  bound : ∀ g ∈ x.groups, g < 65536

lemma group?_lt {cs rest : List Char} {g : Nat} (h : group? cs = some (g, rest)) : g < 65536 := by
  unfold group? at h
  dsimp only at h
  split at h
  · cases h
  · rename_i hbad
    simp only [Bool.or_eq_true, decide_eq_true_eq, not_or, not_lt] at hbad
    obtain ⟨n, hn, hg⟩ := Option.map_eq_some_iff.mp h
    cases hg
    calc g < 16 ^ _ := Text.Digits.lt_of_parse? hn
      _ ≤ 16 ^ 4 := Nat.pow_le_pow_right (by decide) hbad.2

lemma readGroups_bound (isFirst : Bool) (limit : Nat) (cs : List Char) :
    (readGroups isFirst limit cs).1.length ≤ limit ∧
      ∀ g ∈ (readGroups isFirst limit cs).1, g < 65536 := by
  induction limit generalizing isFirst cs with
  | zero => simp [readGroups]
  | succ limit ih =>
    rw [readGroups]
    dsimp only
    split
    · rename_i inner rest hembedded
      split at hembedded
      · cases hembedded
      · rename_i hlimit
        simp only [bind, Option.bind_eq_some_iff] at hembedded
        obtain ⟨as, -, hread⟩ := hembedded
        have hproper := Ipv4.isProper_of_read? hread
        have hpositive : limit ≠ 0 := by simpa using hlimit
        refine ⟨?_, ?_⟩
        · simp only [List.length_cons, List.length_nil]
          omega
        · have ⟨ha, hb, hc, hd⟩ := hproper
          intro g hg
          simp only [List.mem_cons, List.not_mem_nil, or_false] at hg
          omega
    · split
      · simp
      · rename_i g rest hgroup
        obtain ⟨as, -, hgroup⟩ := Option.bind_eq_some_iff.mp hgroup
        obtain ⟨hlength, hbound⟩ := ih false rest
        refine ⟨by simpa using hlength, fun g' hg' => ?_⟩
        rcases List.mem_cons.mp hg' with rfl | hg'
        · exact group?_lt hgroup
        · exact hbound g' hg'

lemma isProper_of_parse? {cs : List Char} {x : Ipv6} (h : parse? cs = some x) : x.IsProper := by
  unfold parse? at h
  obtain ⟨hfront, hfronts⟩ := readGroups_bound true 8 cs
  generalize readGroups true 8 cs = front at h hfront hfronts
  dsimp only at h
  split at h
  · rename_i hfull
    split at h
    · cases h
      exact ⟨by simpa using hfull, hfronts⟩
    · cases h
  · rename_i hshort
    split at h
    · cases h
    · split at h
      · rename_i rest hrest
        obtain ⟨hback, hbacks⟩ := readGroups_bound true (7 - front.1.length) rest
        split at h
        · cases h
          have hne : front.1.length ≠ 8 := by simpa using hshort
          refine ⟨?_, fun g hg => ?_⟩
          · simp only [List.length_append, List.length_replicate]
            omega
          · simp only [List.mem_append, List.mem_replicate] at hg
            rcases hg with (hg | ⟨-, rfl⟩) | hg
            · exact hfronts g hg
            · decide
            · exact hbacks g hg
        · cases h
      · cases h

lemma group?_toDigits {g : Nat} (hg : g < 65536) {rest : List Char}
    (hrest : ∀ c ∈ rest.head?, (Text.Digits.hexValue? c).isSome = false) :
    group? (Nat.toDigits 16 g ++ rest) = some (g, rest) := by
  have hrun := takeWhile_run (p := fun c => (Text.Digits.hexValue? c).isSome)
    (fun c hc => Text.Digits.hexValue?_isSome_of_mem (n := g) hc) hrest
  have hlength : (Nat.toDigits 16 g).length ≤ 4 := by
    rw [Nat.length_toDigits_le_iff (by decide) (by decide)]
    omega
  have hempty : (Nat.toDigits 16 g).isEmpty = false := by
    rw [List.isEmpty_eq_false_iff, ← List.length_pos_iff]
    exact Nat.length_toDigits_pos
  unfold group?
  simp only [hrun, hempty, Text.Digits.parse?_toDigits, List.drop_left, Option.map_some]
  rw [if_neg]
  simpa using hlength

/-- What can stand behind the groups: nothing, or the two colons. -/
def Behind (rest : List Char) : Prop :=
  rest = [] ∨ ∃ more, rest = ':' :: ':' :: more

lemma Behind.not_hex {rest : List Char} (h : Behind rest) :
    ∀ c ∈ rest.head?, (Text.Digits.hexValue? c).isSome = false := by
  rcases h with rfl | ⟨more, rfl⟩
  · simp
  · simp only [List.head?_cons, Option.mem_def, Option.some.injEq]
    rintro c rfl
    decide

lemma readGroups_behind {rest : List Char} (h : Behind rest) (isFirst : Bool) (limit : Nat) :
    readGroups isFirst limit rest = ([], false, rest) := by
  have hcolon (more : List Char) : Ipv4.read? (':' :: more) = none :=
    Ipv4.read?_of_head (by decide)
  have hgroup (more : List Char) : group? (':' :: more) = none := by
    have hhex : (Text.Digits.hexValue? ':').isSome = false := by decide
    simp [group?, hhex]
  cases limit with
  | zero => rfl
  | succ limit =>
    rcases h with rfl | ⟨more, rfl⟩
    · cases isFirst <;> simp [readGroups, separator?, Ipv4.read?, Ipv4.octet?, group?]
    · cases isFirst <;> simp [readGroups, separator?, hcolon, hgroup]

lemma dot_not_mem_toDigits (g : Nat) : '.' ∉ Nat.toDigits 16 g := fun h =>
  absurd (Text.Digits.hexValue?_isSome_of_mem h) (by decide)

lemma dot_not_mem_groupChars (gs : List Nat) : '.' ∉ groupChars gs := by
  induction gs using groupChars.induct with
  | case1 => simp [groupChars]
  | case2 g => exact dot_not_mem_toDigits g
  | case3 g rest hne ih => simp [groupChars, dot_not_mem_toDigits g, ih]

/-- Groups between colons are read one after the other. -/
lemma readGroups_groupChars {gs : List Nat} (hbound : ∀ g ∈ gs, g < 65536) {limit : Nat}
    (hlimit : gs.length ≤ limit) {isFirst : Bool} {cs rest : List Char} (hrest : Behind rest)
    (hdot : '.' ∉ rest) (hgs : gs ≠ [])
    (hcs : separator? isFirst cs = some (groupChars gs ++ rest)) :
    readGroups isFirst limit cs = (gs, false, rest) := by
  induction gs generalizing limit isFirst cs with
  | nil => exact absurd rfl hgs
  | cons g gs ih =>
    obtain ⟨limit, rfl⟩ : ∃ k, limit = k + 1 := ⟨limit - 1, by simp at hlimit; omega⟩
    have hread : Ipv4.read? (groupChars (g :: gs) ++ rest) = none :=
      Ipv4.read?_of_not_mem (by simp [dot_not_mem_groupChars, hdot])
    have hg := hbound g List.mem_cons_self
    rw [readGroups]
    simp only [hcs, bind, Option.bind_some, hread]
    cases gs with
    | nil =>
      simp only [groupChars, group?_toDigits hg hrest.not_hex, readGroups_behind hrest,
        Option.bind_none, ite_self]
    | cons g' gs =>
      have hnext : groupChars (g :: g' :: gs) ++ rest =
          Nat.toDigits 16 g ++ ':' :: (groupChars (g' :: gs) ++ rest) := by
        simp [groupChars]
      have hcolon : ∀ c ∈ (':' :: (groupChars (g' :: gs) ++ rest)).head?,
          (Text.Digits.hexValue? c).isSome = false := by
        simp only [List.head?_cons, Option.mem_def, Option.some.injEq]
        rintro c rfl
        decide
      have htail : readGroups false limit (':' :: (groupChars (g' :: gs) ++ rest)) =
          (g' :: gs, false, rest) :=
        ih (fun x hx => hbound x (List.mem_cons_of_mem _ hx)) (by simpa using hlimit) (by simp) rfl
      simp only [hnext, group?_toDigits hg hcolon, htail, Option.bind_none, ite_self]

lemma readGroups_first {gs : List Nat} (hbound : ∀ g ∈ gs, g < 65536) {limit : Nat}
    (hlimit : gs.length ≤ limit) {rest : List Char} (hrest : Behind rest) (hdot : '.' ∉ rest) :
    readGroups true limit (groupChars gs ++ rest) = (gs, false, rest) := by
  cases gs with
  | nil => exact readGroups_behind hrest true limit
  | cons g gs => exact readGroups_groupChars hbound hlimit hrest hdot (by simp) rfl

lemma zeroRuns_spec {gs : List Nat} {i l : Nat} (h : (zeroRuns gs)[i]? = some l) :
    i + l ≤ gs.length ∧ (gs.drop i).take l = List.replicate l 0 := by
  induction gs generalizing i l with
  | nil => simp [zeroRuns] at h
  | cons g rest ih =>
    cases i with
    | succ i =>
      have := ih (i := i) (l := l) (by simpa [zeroRuns] using h)
      refine ⟨?_, by simpa using this.2⟩
      rw [List.length_cons]
      omega
    | zero =>
      simp only [zeroRuns, List.getElem?_cons_zero, Option.some.injEq] at h
      by_cases hg : g = 0
      · simp only [hg, beq_self_eq_true, if_true] at h
        subst h hg
        cases hruns : zeroRuns rest with
        | nil => simp
        | cons l ls =>
          have := ih (i := 0) (l := l) (by simp [hruns])
          simp only [List.drop_zero] at this
          simp only [List.headD_cons, List.drop_zero, List.take_succ_cons, this.2,
            List.replicate_succ, List.length_cons, and_true]
          omega
      · simp only [beq_iff_eq, hg, if_false] at h
        subst h
        simp

lemma foldl_max_mem (ns : List Nat) (n : Nat) : ns.foldl max n = n ∨ ns.foldl max n ∈ ns := by
  induction ns generalizing n with
  | nil => exact .inl rfl
  | cons k ns ih =>
    rw [List.foldl_cons]
    rcases ih (max n k) with h | h
    · rw [h]
      rcases Nat.le_total n k with hle | hle
      · exact .inr (by simp [Nat.max_eq_right hle])
      · exact .inl (Nat.max_eq_left hle)
    · exact .inr (List.mem_cons_of_mem _ h)

/-- The longest run lies within the groups, and only zeros are in it. -/
lemma longestRun_spec {gs : List Nat} {start length : Nat}
    (h : longestRun gs = some (start, length)) :
    2 ≤ length ∧ start + length ≤ gs.length ∧
      (gs.drop start).take length = List.replicate length 0 := by
  unfold longestRun at h
  dsimp only at h
  split at h
  · rename_i hlong
    cases h
    have hmem : (zeroRuns gs).foldl max 0 ∈ zeroRuns gs :=
      (foldl_max_mem (zeroRuns gs) 0).resolve_left (by omega)
    generalize (zeroRuns gs).foldl max 0 = longest at hmem hlong
    have hindex : (zeroRuns gs).findIdx (· == longest) < (zeroRuns gs).length :=
      List.findIdx_lt_length_of_exists ⟨longest, hmem, beq_self_eq_true longest⟩
    have hat : (zeroRuns gs)[(zeroRuns gs).findIdx (· == longest)]? = some longest := by
      rw [List.getElem?_eq_getElem hindex]
      exact congrArg some (by simpa using List.findIdx_getElem (w := hindex))
    exact ⟨hlong, zeroRuns_spec hat⟩
  · cases h

/-- The text of an address reads as that address. -/
theorem parse?_chars {x : Ipv6} (h : x.IsProper) : parse? x.chars = some x := by
  obtain ⟨hlength, hbound⟩ := h
  unfold chars
  split
  · have hread : readGroups true 8 (groupChars x.groups ++ []) = (x.groups, false, []) :=
      readGroups_first hbound hlength.le (.inl rfl) (by simp)
    rw [List.append_nil] at hread
    simp [parse?, hread, hlength]
  · rename_i start length hrun
    obtain ⟨hlong, hwithin, hzeros⟩ := longestRun_spec hrun
    generalize hback : x.groups.drop (start + length) = back
    generalize hfront : x.groups.take start = front
    have hsplit : front ++ (List.replicate length 0 ++ back) = x.groups := by
      rw [← hfront, ← hback, ← hzeros, ← List.drop_drop, List.take_append_drop,
        List.take_append_drop]
    have hfrontLength : front.length = start := by simp [← hfront]; omega
    have hbackLength : back.length = 8 - start - length := by simp [← hback, hlength]; omega
    have hfronts : readGroups true 8 (groupChars front ++ ':' :: ':' :: groupChars back) =
        (front, false, ':' :: ':' :: groupChars back) :=
      readGroups_first (fun g hg => hbound g (List.mem_of_mem_take (hfront ▸ hg))) (by omega)
        (.inr ⟨_, rfl⟩) (by simp [dot_not_mem_groupChars])
    have hbacks : readGroups true (7 - front.length) (groupChars back ++ []) = (back, false, []) :=
      readGroups_first (fun g hg => hbound g (List.mem_of_mem_drop (hback ▸ hg))) (by omega)
        (.inl rfl) (by simp)
    rw [List.append_nil] at hbacks
    have hgap : 8 - front.length - back.length = length := by omega
    have hshort : (front.length == 8) = false := by simp; omega
    simp [parse?, hfronts, hbacks, hgap, hshort, hsplit]

/-- An address that carries an IPv4 address is read from the text that shows it. -/
lemma parse?_mapped {x : Ipv6} {inner : Ipv4} (h : x.IsProper) (hmapped : x.mapped? = some inner) :
    parse? ("::ffff:".toList ++ inner.chars) = some x := by
  obtain ⟨gs⟩ := x
  unfold mapped? at hmapped
  split at hmapped
  · rename_i high low hgs
    cases hmapped
    dsimp only at hgs
    subst hgs
    have hhigh : high < 65536 := h.bound high (by simp)
    have hlow : low < 65536 := h.bound low (by simp)
    have hinner : Ipv4.IsProper ⟨high / 256, high % 256, low / 256, low % 256⟩ := by
      constructor <;> dsimp only <;> omega
    have hread : Ipv4.read? (Ipv4.chars ⟨high / 256, high % 256, low / 256, low % 256⟩ ++ []) =
        some (_, []) := Ipv4.read?_chars hinner (by simp)
    rw [List.append_nil] at hread
    generalize Ipv4.chars ⟨high / 256, high % 256, low / 256, low % 256⟩ = cs at hread
    have hdigits : readGroups false 6 (':' :: cs) =
        ([high / 256 * 256 + high % 256, low / 256 * 256 + low % 256], true, []) := by
      simp [readGroups, separator?, hread]
    have hffff : group? (Nat.toDigits 16 0xFFFF ++ ':' :: cs) = some (0xFFFF, ':' :: cs) := by
      apply group?_toDigits (by decide)
      simp only [List.head?_cons, Option.mem_def, Option.some.injEq]
      rintro c rfl
      decide
    change group? ("ffff:".toList ++ cs) = some (0xFFFF, ':' :: cs) at hffff
    have hletter : Ipv4.read? ("ffff:".toList ++ cs) = none := Ipv4.read?_of_head (by decide)
    have hcut : "::ffff:".toList ++ cs = ':' :: ':' :: ("ffff:".toList ++ cs) := rfl
    generalize "ffff:".toList ++ cs = tail at hffff hletter hcut
    have hback : readGroups true 7 tail = ([0xFFFF, high, low], true, []) := by
      rw [readGroups]
      simp only [separator?, if_true, bind, Option.bind_some, hletter, hffff, hdigits,
        Option.bind_none, ite_self, Nat.div_add_mod']
    have hfront : readGroups true 8 (':' :: ':' :: tail) = ([], false, ':' :: ':' :: tail) :=
      readGroups_behind (.inr ⟨tail, rfl⟩) true 8
    rw [hcut, parse?, hfront]
    simp [hback]
  · cases hmapped

end Ipv6

/-! ## Addresses of either family -/

namespace IpAddress

/-- Every part of the address is in range. -/
def IsProper : IpAddress → Prop
  | .v4 x => x.IsProper
  | .v6 x => x.IsProper

lemma isProper_of_parse? {cs : List Char} {x : IpAddress} (h : parse? cs = some x) :
    x.IsProper := by
  unfold parse? at h
  split at h
  · rename_i y hy
    cases h
    exact Ipv4.isProper_of_parse? hy
  · obtain ⟨y, hy, rfl⟩ := Option.map_eq_some_iff.mp h
    exact Ipv6.isProper_of_parse? hy

/-- The canonical text of an address reads as that address. -/
theorem parse?_chars {x : IpAddress} (h : x.IsProper) : parse? x.chars = some x := by
  cases x with
  | v4 x => simp [parse?, chars, Ipv4.parse?_chars h]
  | v6 x =>
    have hv4 {cs : List Char} (hread : Ipv4.read? cs = none) : Ipv4.parse? cs = none := by
      simp [Ipv4.parse?, hread]
    simp only [chars]
    split
    · rename_i inner hmapped
      have hread : Ipv4.read? ("::ffff:".toList ++ inner.chars) = none :=
        Ipv4.read?_of_head (by decide)
      rw [parse?, hv4 hread, Ipv6.parse?_mapped h hmapped]
      rfl
    · have hdot : '.' ∉ x.chars := by
        unfold Ipv6.chars
        split <;> simp [Ipv6.dot_not_mem_groupChars]
      simp [parse?, hv4 (Ipv4.read?_of_not_mem hdot), Ipv6.parse?_chars h]

lemma parse?_text {x : IpAddress} (h : x.IsProper) : parse? x.text.toList = some x := by
  rw [text, String.toList_ofList, parse?_chars h]

end IpAddress

end Net

end ManagementServer
