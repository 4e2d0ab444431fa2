import ManagementServer.Proofs.AddressText
import Mathlib.Data.List.TakeWhile

/-!
# The characters of addresses

A reader of addresses passes digits, dots and colons only (`Passes`), so nothing else stands in a
text that is an address (`Ipv4.isChar_of_parse?`, `Ipv6.isChar_of_parse?`).
-/

namespace ManagementServer.Net

/-- Between `cs` and its end `rest` there are only characters with property `p`. -/
def Passes (p : Char → Bool) (cs rest : List Char) : Prop :=
  ∃ front, cs = front ++ rest ∧ ∀ c ∈ front, p c = true

namespace Passes

variable {p q : Char → Bool} {cs ds rest : List Char}

lemma refl (p : Char → Bool) (cs : List Char) : Passes p cs cs :=
  ⟨[], rfl, fun _ h => absurd h List.not_mem_nil⟩

lemma cons {c : Char} (h : p c = true) (cs : List Char) : Passes p (c :: cs) cs :=
  ⟨[c], rfl, List.forall_mem_singleton.mpr h⟩

lemma trans (h : Passes p cs ds) (h' : Passes p ds rest) : Passes p cs rest := by
  obtain ⟨front, rfl, hfront⟩ := h
  obtain ⟨middle, rfl, hmiddle⟩ := h'
  exact ⟨front ++ middle, (List.append_assoc _ _ _).symm,
    List.forall_mem_append.mpr ⟨hfront, hmiddle⟩⟩

lemma mono (h : Passes p cs rest) (hpq : ∀ c, p c = true → q c = true) : Passes q cs rest := by
  obtain ⟨front, rfl, hfront⟩ := h
  exact ⟨front, rfl, fun c hc => hpq c (hfront c hc)⟩

/-- A run of characters is passed as a whole. -/
lemma run (p : Char → Bool) (cs : List Char) :
    Passes p cs (cs.drop (cs.takeWhile p).length) :=
  ⟨cs.takeWhile p, (List.prefix_iff_eq_append.mp (List.takeWhile_prefix p)).symm,
    fun _ hc => List.mem_takeWhile_imp hc⟩

lemma all (h : Passes p cs []) : ∀ c ∈ cs, p c = true := by
  obtain ⟨front, rfl, hfront⟩ := h
  rw [List.append_nil]
  exact hfront

end Passes

namespace Ipv4

/-- The characters of an IPv4 address. -/
def isChar (c : Char) : Bool :=
  c.isDigit || c == '.'

lemma isChar_of_isDigit {c : Char} (h : c.isDigit = true) : isChar c = true := by
  rw [isChar, h, Bool.true_or]

lemma octet?_passes {cs rest : List Char} {n : Nat} (h : octet? cs = some (n, rest)) :
    Passes isChar cs rest := by
  unfold octet? at h
  dsimp only at h
  split at h
  · cases h
  · cases h
    exact (Passes.run Char.isDigit cs).mono fun _ => isChar_of_isDigit

lemma dotted?_passes {cs rest : List Char} {n : Nat} (h : dotted? cs = some (n, rest)) :
    Passes isChar cs rest := by
  unfold dotted? at h
  split at h
  · rename_i cs
    exact (Passes.cons (by decide) cs).trans (octet?_passes h)
  · cases h

lemma read?_passes {cs rest : List Char} {x : Ipv4} (h : read? cs = some (x, rest)) :
    Passes isChar cs rest := by
  simp only [read?, bind, pure, Option.bind_eq_some_iff, Prod.exists] at h
  obtain ⟨a, as, ha, b, bs, hb, c, cs, hc, d, ds, hd, h⟩ := h
  cases h
  exact (octet?_passes ha).trans <| (dotted?_passes hb).trans <|
    (dotted?_passes hc).trans (dotted?_passes hd)

lemma isChar_of_parse? {cs : List Char} {x : Ipv4} (h : parse? cs = some x) :
    ∀ c ∈ cs, isChar c = true := by
  simp only [parse?, bind, Option.bind_eq_some_iff, Prod.exists] at h
  obtain ⟨y, rest, hread, h⟩ := h
  split at h
  · rename_i hempty
    rw [List.isEmpty_iff.mp hempty] at hread
    exact (read?_passes hread).all
  · cases h

end Ipv4

namespace Ipv6

/-- The characters of an IPv6 address, whose end may be written as an IPv4 address. -/
def isChar (c : Char) : Bool :=
  (Text.Digits.hexValue? c).isSome || c == '.' || c == ':'

lemma isChar_of_isHex {c : Char} (h : (Text.Digits.hexValue? c).isSome = true) :
    isChar c = true := by
  rw [isChar, h]
  rfl

lemma isChar_of_ipv4 {c : Char} (h : Ipv4.isChar c = true) : isChar c = true := by
  rcases Bool.or_eq_true_iff.mp h with hdigit | hdot
  · have hrange : '0' ≤ c ∧ c ≤ '9' := Bool.and_eq_true_iff.mp hdigit |>.imp
      of_decide_eq_true of_decide_eq_true
    refine isChar_of_isHex ?_
    rw [Text.Digits.hexValue?, if_pos hrange]
    rfl
  · rw [isChar, hdot, Bool.or_true, Bool.true_or]

lemma group?_passes {cs rest : List Char} {g : Nat} (h : group? cs = some (g, rest)) :
    Passes isChar cs rest := by
  unfold group? at h
  dsimp only at h
  split at h
  · cases h
  · obtain ⟨n, -, hg⟩ := Option.map_eq_some_iff.mp h
    cases hg
    exact (Passes.run _ cs).mono fun _ => isChar_of_isHex

lemma separator?_passes {isFirst : Bool} {cs rest : List Char}
    (h : separator? isFirst cs = some rest) : Passes isChar cs rest := by
  unfold separator? at h
  split at h
  · cases h
    exact Passes.refl isChar cs
  · split at h
    · cases h
      exact Passes.cons (by decide) rest
    · cases h

lemma readGroups_passes (isFirst : Bool) (limit : Nat) (cs : List Char) :
    Passes isChar cs (readGroups isFirst limit cs).2.2 := by
  induction limit generalizing isFirst cs with
  | zero => exact Passes.refl isChar cs
  | succ limit ih =>
    rw [readGroups]
    dsimp only
    split
    · rename_i inner rest hembedded
      split at hembedded
      · cases hembedded
      · obtain ⟨behind, hseparator, hread⟩ := Option.bind_eq_some_iff.mp hembedded
        exact (separator?_passes hseparator).trans
          ((Ipv4.read?_passes hread).mono fun _ => isChar_of_ipv4)
    · split
      · exact Passes.refl isChar cs
      · rename_i g rest hgroup
        obtain ⟨behind, hseparator, hgroup⟩ := Option.bind_eq_some_iff.mp hgroup
        exact (separator?_passes hseparator).trans ((group?_passes hgroup).trans (ih false rest))

lemma isChar_of_parse? {cs : List Char} {x : Ipv6} (h : parse? cs = some x) :
    ∀ c ∈ cs, isChar c = true := by
  unfold parse? at h
  have hfront := readGroups_passes true 8 cs
  generalize readGroups true 8 cs = front at h hfront
  dsimp only at h
  split at h
  · split at h
    · rename_i hempty
      rw [List.isEmpty_iff.mp hempty] at hfront
      exact hfront.all
    · cases h
  · split at h
    · cases h
    · split at h
      · rename_i rest hrest
        have hcolons : Passes isChar (':' :: ':' :: rest) rest :=
          (Passes.cons (by decide) _).trans (Passes.cons (by decide) rest)
        have hback := readGroups_passes true (7 - front.1.length) rest
        split at h
        · rename_i hempty
          rw [List.isEmpty_iff.mp hempty] at hback
          rw [hrest] at hfront
          exact (hfront.trans (hcolons.trans hback)).all
        · cases h
      · cases h

end Ipv6

end ManagementServer.Net
