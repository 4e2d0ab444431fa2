import ManagementServer.Proofs.AddressCharacters
import ManagementServer.Proofs.UrlPaths
import ManagementServer.Url.Basic

/-!
# The hosts of URLs

A host is normal if it is an IPv6 address between brackets, in its canonical text, or has visible
characters only, none of which is forbidden (`Host.IsNormal`). Normal hosts are the ones that a URL
has (`authority?_spec`), and the ones that it leaves as they are (`Host.opaque?_eq_self_iff`).
-/

namespace ManagementServer.Url

/-- Percent-encoding leaves characters as they are, or writes digits behind percent signs. -/
lemma mem_percentEncode {p : Char → Bool} {cs : List Char} {c : Char}
    (h : c ∈ percentEncode p cs) :
    c ∈ cs ∧ p c = false ∨ c ∈ "%0123456789ABCDEF".toList := by
  obtain ⟨d, hd, hc⟩ := List.mem_flatMap.mp h
  cases hp : p d with
  | false =>
    rw [hp] at hc
    obtain rfl := List.mem_singleton.mp hc
    exact .inl ⟨hd, hp⟩
  | true =>
    rw [hp] at hc
    obtain ⟨b, -, hbyte⟩ := List.mem_flatMap.mp hc
    exact .inr (mem_percentByte hbyte)

/-! ## Cutting an authority -/

lemma splitHost_bare {cs : List Char} (h : ∀ c ∈ cs, c ≠ ':' ∧ c ≠ '[') (rest : List Char) :
    splitHost false (cs ++ ':' :: rest) = (cs, some rest) := by
  induction cs with
  | nil => rfl
  | cons c cs ih =>
    obtain ⟨⟨hcolon, hopen⟩, hcs⟩ := List.forall_mem_cons.mp h
    simp [splitHost, hcolon, hopen, ih hcs]

lemma splitHost_inside {cs : List Char} (h : ']' ∉ cs) (rest : List Char) :
    splitHost true (cs ++ ']' :: rest) =
      (cs ++ ']' :: (splitHost false rest).1, (splitHost false rest).2) := by
  induction cs with
  | nil => rfl
  | cons c cs ih =>
    rw [List.mem_cons, not_or] at h
    have hclose : c ≠ ']' := fun hc => h.1 hc.symm
    simp [splitHost, hclose, ih h.2]

/-- No colon between brackets ends the host. -/
lemma splitHost_bracketed {cs : List Char} (h : ']' ∉ cs) (rest : List Char) :
    splitHost false ('[' :: (cs ++ [']']) ++ ':' :: rest) = ('[' :: (cs ++ [']']), some rest) := by
  have hinside := splitHost_inside h (':' :: rest)
  have hend : splitHost false (':' :: rest) = ([], some rest) := rfl
  rw [hend] at hinside
  rw [List.cons_append, List.append_assoc, List.singleton_append, splitHost]
  simp [hinside]

lemma splitUser_of_not_mem {authority : List Char} (h : '@' ∉ authority) :
    splitUser authority = (none, authority) := by
  have hback : authority.reverse.takeWhile (· != '@') = authority.reverse :=
    List.takeWhile_eq_self_iff.mpr fun c hc => by
      rw [bne_iff_ne]
      rintro rfl
      exact h (List.mem_reverse.mp hc)
  rw [splitUser, hback, List.length_reverse, if_pos (beq_self_eq_true _)]

lemma splitAuthority_of_inside {cs : List Char} (h : ∀ c ∈ cs, c ∉ "/?#".toList) :
    splitAuthority false cs = (cs, []) := by
  have hwhole : ∀ c ∈ cs,
      (!(c == '/' || c == '?' || c == '#' || (false && c == '\\'))) = true := fun c hc => by
    simpa [and_assoc] using h c hc
  rw [splitAuthority, List.takeWhile_eq_self_iff.mpr hwhole, List.dropWhile_eq_nil_iff.mpr hwhole]

/-! ## Ports -/

lemma port?_lt {cs : List Char} {port : Nat} (h : port? cs = some (some port)) : port < 65536 := by
  unfold port? at h
  dsimp only at h
  split at h
  · cases h
  · split at h
    · cases h
    · split at h
      · rename_i hbound
        cases h
        omega
      · cases h

/-- No digit ends a port. -/
lemma isInPort_of_mem {port : Nat} {c : Char} (h : c ∈ Text.Digits.ofNat port) :
    (c != '\\') = true := by
  rw [bne_iff_ne]
  rintro rfl
  exact absurd (Text.Digits.isDigit_of_mem h) (by decide)

/-- The digits of a port are read as that port. -/
lemma port?_ofNat {port : Nat} (h : port < 65536) :
    port? (Text.Digits.ofNat port) = some (some port) := by
  have hall : (Text.Digits.ofNat port).all Char.isDigit = true :=
    List.all_eq_true.mpr fun c hc => Text.Digits.isDigit_of_mem hc
  have hslash : (Text.Digits.ofNat port).takeWhile (· != '\\') = Text.Digits.ofNat port :=
    List.takeWhile_eq_self_iff.mpr fun c hc => isInPort_of_mem hc
  have hempty : (Text.Digits.ofNat port).isEmpty = false := by
    rw [Text.Digits.ofNat_eq, List.isEmpty_eq_false_iff, ← List.length_pos_iff]
    exact Nat.length_toDigits_pos
  have hvalue : Text.Digits.decimal (((Text.Digits.ofNat port).dropWhile (· == '0')).take 6) =
      port := by
    by_cases hzero : port = 0
    · subst hzero
      decide
    · obtain ⟨first, rest, hcs, hfirst⟩ := Text.Digits.ofNat_cases hzero
      have hlength : (Text.Digits.ofNat port).length ≤ 6 := by
        rw [Text.Digits.ofNat_eq, Nat.length_toDigits_le_iff (by decide) (by decide)]
        omega
      have hdrop : (Text.Digits.ofNat port).dropWhile (· == '0') = Text.Digits.ofNat port := by
        rw [hcs, List.dropWhile_cons_of_neg (by simpa using hfirst)]
      rw [hdrop, List.take_of_length_le hlength, Text.Digits.decimal_ofNat]
  simp only [port?, hslash, hall, hempty, hvalue]
  exact if_pos (Nat.le_of_lt_succ h)

namespace Host

/-! ## Normal hosts -/

/-- A character that a host may hold, and that is not encoded there. -/
def isPlainChar (c : Char) : Bool :=
  !isForbidden c && !isControl c

/-- A host that a URL leaves as it is. -/
inductive IsNormal : List Char → Prop
  | bare {cs : List Char} (h : ∀ c ∈ cs, isPlainChar c = true) : IsNormal cs
  | bracketed {x : Net.Ipv6} (h : x.IsProper) : IsNormal ('[' :: (x.chars ++ [']']))

lemma isPlainChar_of_mem_percentEncode {cs : List Char} (h : ∀ c ∈ cs, isForbidden c = false)
    {c : Char} (hc : c ∈ percentEncode isControl cs) : isPlainChar c = true := by
  rcases mem_percentEncode hc with ⟨hmem, hcontrol⟩ | hdigit
  · rw [isPlainChar, h c hmem, hcontrol]
    rfl
  · have hplain : "%0123456789ABCDEF".toList.all isPlainChar = true := by decide +kernel
    exact List.all_eq_true.mp hplain c hdigit

lemma bracketed?_eq_some {cs host : List Char} (h : bracketed? cs = some host) :
    ∃ x : Net.Ipv6, x.IsProper ∧ host = '[' :: (x.chars ++ [']']) := by
  rw [bracketed?] at h
  split at h
  · cases h
  · obtain ⟨x, hx, h⟩ := Option.bind_eq_some_iff.mp h
    exact ⟨x, Net.Ipv6.isProper_of_parse? hx, (Option.some.inj h).symm⟩

lemma bracketed?_of_parse? {cs : List Char} {x : Net.Ipv6} (h : Net.Ipv6.parse? cs = some x) :
    bracketed? ('[' :: (cs ++ [']'])) = some ('[' :: (x.chars ++ [']'])) := by
  simp [bracketed?, List.getLast?_cons, h]

/-- The host of a URL is normal. -/
lemma isNormal_of_opaque? {cs host : List Char} (h : opaque? cs = some host) : IsNormal host := by
  unfold opaque? at h
  split at h
  · obtain ⟨x, hx, rfl⟩ := bracketed?_eq_some h
    exact .bracketed hx
  · split at h
    · cases h
    · rename_i hforbidden
      obtain rfl := Option.some.inj h
      have hallowed : ∀ c ∈ cs, isForbidden c = false := by simpa using hforbidden
      exact .bare fun c hc => isPlainChar_of_mem_percentEncode hallowed hc

lemma opaque?_of_isNormal {cs : List Char} (h : IsNormal cs) : opaque? cs = some cs := by
  cases h with
  | bare h =>
    have hallowed (c : Char) (hc : c ∈ cs) : isForbidden c = false := by
      simpa using (Bool.and_eq_true_iff.mp (h c hc)).1
    have hcontrol (c : Char) (hc : c ∈ cs) : isControl c = false := by
      simpa using (Bool.and_eq_true_iff.mp (h c hc)).2
    have hopen : ¬ (cs.head? == some '[') = true := by
      rw [beq_iff_eq]
      exact fun hhead => Bool.noConfusion (hallowed '[' (List.mem_of_mem_head? hhead))
    have hany : ¬ cs.any isForbidden = true := by simpa using hallowed
    rw [opaque?, if_neg hopen, if_neg hany, percentEncode_eq_self hcontrol]
  | @bracketed x hx =>
    rw [opaque?, if_pos (by rfl), bracketed?_of_parse? (Net.Ipv6.parse?_chars hx)]

/-- A host is left as it is exactly if it is normal. -/
lemma opaque?_eq_self_iff {cs : List Char} : opaque? cs = some cs ↔ IsNormal cs :=
  ⟨isNormal_of_opaque?, opaque?_of_isNormal⟩

/-! ## Hosts that are found again -/

/-- A text of a host that ends at the colon behind it, wherever it stands in an authority. -/
structure IsDelimited (cs : List Char) : Prop where
  visible : ∀ c ∈ cs, 0x20 < c.toNat
  inside : ∀ c ∈ cs, c ∉ "/?#@".toList
  whole : ∀ rest, splitHost false (cs ++ ':' :: rest) = (cs, some rest)

/-- What one ASCII character implies is decided for all of them. -/
lemma of_ascii {p : Char → Bool} {q : Char → Prop} {c : Char} (hascii : c.toNat < 128)
    (hp : p c = true) (h : ∀ n < 128, p (Char.ofNat n) = true → q (Char.ofNat n)) : q c := by
  have hc := h c.toNat hascii
  rw [Char.ofNat_toNat] at hc
  exact hc hp

lemma ends_of_isPlainChar {c : Char} (h : isPlainChar c = true) :
    0x20 < c.toNat ∧ c ∉ "/?#@:[".toList := by
  have hcontrol : isControl c = false := by simpa using (Bool.and_eq_true_iff.mp h).2
  have hascii : c.toNat < 128 := by
    by_contra hlarge
    simp [isControl, show 0x7E < c.toNat by omega] at hcontrol
  exact of_ascii (q := fun c => 0x20 < c.toNat ∧ c ∉ "/?#@:[".toList) hascii h (by decide +kernel)

lemma isDelimited_bare {cs : List Char} (h : ∀ c ∈ cs, isPlainChar c = true) : IsDelimited cs where
  visible c hc := (ends_of_isPlainChar (h c hc)).1
  inside c hc := fun hmem => (ends_of_isPlainChar (h c hc)).2 (List.mem_append_left [':', '['] hmem)
  whole := splitHost_bare fun c hc => by
    have hends := (ends_of_isPlainChar (h c hc)).2
    constructor <;> rintro rfl <;> exact hends (by decide)

lemma toNat_lt_of_isHex {c : Char} (h : (Text.Digits.hexValue? c).isSome = true) :
    c.toNat < 128 := by
  have hle {d : Char} (hcd : c ≤ d) (hd : d.toNat < 128) : c.toNat < 128 :=
    Nat.lt_of_le_of_lt hcd hd
  unfold Text.Digits.hexValue? at h
  split_ifs at h with h1 h2 h3
  · exact hle h1.2 (by decide)
  · exact hle h2.2 (by decide)
  · exact hle h3.2 (by decide)
  · cases h

lemma toNat_lt_of_isChar {c : Char} (h : Net.Ipv6.isChar c = true) : c.toNat < 128 := by
  rw [Net.Ipv6.isChar, Bool.or_eq_true, Bool.or_eq_true, beq_iff_eq, beq_iff_eq] at h
  rcases h with (h | rfl) | rfl
  · exact toNat_lt_of_isHex h
  · decide
  · decide

lemma ends_of_isChar {c : Char} (h : Net.Ipv6.isChar c = true) :
    0x20 < c.toNat ∧ c ∉ "/?#@]".toList :=
  of_ascii (q := fun c => 0x20 < c.toNat ∧ c ∉ "/?#@]".toList) (toNat_lt_of_isChar h) h
    (by decide +kernel)

lemma isDelimited_bracketed {cs : List Char} (h : ∀ c ∈ cs, Net.Ipv6.isChar c = true) :
    IsDelimited ('[' :: (cs ++ [']'])) where
  visible := by
    rw [List.forall_mem_cons, List.forall_mem_append, List.forall_mem_singleton]
    exact ⟨by decide, fun c hc => (ends_of_isChar (h c hc)).1, by decide⟩
  inside := by
    rw [List.forall_mem_cons, List.forall_mem_append, List.forall_mem_singleton]
    exact ⟨by decide, fun c hc hmem =>
      (ends_of_isChar (h c hc)).2 (List.mem_append_left [']'] hmem), by decide⟩
  whole := splitHost_bracketed fun hmem => (ends_of_isChar (h _ hmem)).2 (by decide)

/-- A host with a port behind it ends at no character that ends an authority. -/
lemma IsDelimited.ends {text : List Char} (hd : IsDelimited text) (port : Nat) :
    ∀ c ∈ text ++ ':' :: Text.Digits.ofNat port, 0x20 < c.toNat ∧ c ∉ "/?#@".toList := by
  simp only [List.forall_mem_append, List.forall_mem_cons]
  refine ⟨fun c hc => ⟨hd.visible c hc, hd.inside c hc⟩, by decide, fun c hc => ?_⟩
  have hdigit := ends_of_isChar (Net.Ipv6.isChar_of_ipv4
    (Net.Ipv4.isChar_of_isDigit (Text.Digits.isDigit_of_mem hc)))
  exact ⟨hdigit.1, fun hmem => hdigit.2 (List.mem_append_left [']'] hmem)⟩

lemma IsNormal.isDelimited {cs : List Char} (h : IsNormal cs) : IsDelimited cs := by
  cases h with
  | bare h => exact isDelimited_bare h
  | bracketed hx =>
    exact isDelimited_bracketed (Net.Ipv6.isChar_of_parse? (Net.Ipv6.parse?_chars hx))

end Host

/-! ## Authorities -/

/-- The host of a URL is normal, and its port below 65536. -/
lemma authority?_spec {authority rest : List Char} {host : Option String} {port : Option Nat}
    (h : authority? authority rest = some (host, port)) :
    (∀ name ∈ host, Host.IsNormal name.toList ∧ name ≠ "") ∧ ∀ n ∈ port, n < 65536 := by
  unfold authority? at h
  dsimp only at h
  split at h
  · cases h
  · obtain ⟨name, hname, h⟩ := Option.bind_eq_some_iff.mp h
    split at h
    · cases h
    · have hshown : ∀ text ∈ (if name.isEmpty = true then none else some (String.ofList name) :
          Option String), Host.IsNormal text.toList ∧ text ≠ "" := by
        intro text htext
        split at htext
        · cases htext
        · rename_i hsome
          cases htext
          refine ⟨String.toList_ofList ▸ Host.isNormal_of_opaque? hname, fun hempty => hsome ?_⟩
          rw [← String.toList_inj, String.toList_ofList] at hempty
          exact List.isEmpty_iff.mpr hempty
      split at h
      · obtain ⟨found, hfound, h⟩ := Option.bind_eq_some_iff.mp h
        cases h
        exact ⟨hshown, fun n hn => port?_lt (hn ▸ hfound)⟩
      · cases h
        exact ⟨hshown, fun n hn => by cases hn⟩

section Delimited

variable {text : List Char} (hd : Host.IsDelimited text) (port : Nat)
include hd

lemma splitUser_of_isDelimited :
    splitUser (text ++ ':' :: Text.Digits.ofNat port) =
      (none, text ++ ':' :: Text.Digits.ofNat port) :=
  splitUser_of_not_mem fun hmem => (hd.ends port '@' hmem).2 (by decide)

lemma splitAuthority_of_isDelimited :
    splitAuthority false (text ++ ':' :: Text.Digits.ofNat port) =
      (text ++ ':' :: Text.Digits.ofNat port, []) :=
  splitAuthority_of_inside fun c hc hmem =>
    (hd.ends port c hc).2 (List.mem_append_left ['@'] hmem)

end Delimited

/-- A host with a port behind it is found again. -/
lemma authority?_of_isDelimited {text host : List Char} (hd : Host.IsDelimited text)
    (hread : Host.opaque? text = some host) (hsome : host ≠ []) {port : Nat} (hport : port < 65536)
    (rest : List Char) :
    authority? (text ++ ':' :: Text.Digits.ofNat port) rest =
      some (some (String.ofList host), some port) := by
  simp [authority?, splitUser_of_isDelimited hd, hd.whole, hread, hsome, port?_ofNat hport]

end ManagementServer.Url
