import ManagementServer.Text.Utf8
import Mathlib.Tactic.Common

/-!
# Reading what was encoded

The bytes of a text read as that text, whether they are taken strictly (`decode?_encode`) or not
(`readable_encode`), and a line feed is encoded by itself alone.
-/

namespace ManagementServer.Text.Utf8

lemma toNat_toUInt8 {n : Nat} (h : n < 256) : n.toUInt8.toNat = n :=
  UInt8.toNat_ofNat_of_lt' h

lemma continuation?_toUInt8 {n : Nat} (h : n < 64) : continuation? (0x80 + n).toUInt8 = some n := by
  have hn : (0x80 + n).toUInt8.toNat = 0x80 + n := toNat_toUInt8 (by omega)
  have hrange : (0x80 ≤ (0x80 + n).toUInt8 && (0x80 + n).toUInt8 ≤ 0xBF) = true := by
    simp only [UInt8.le_iff_toNat_le, Bool.and_eq_true, decide_eq_true_eq, hn]
    exact ⟨Nat.le_add_right _ _, show 0x80 + n ≤ 0xBF by omega⟩
  rw [continuation?, if_pos hrange, hn, Nat.add_sub_cancel_left]

section Lengths

/-! The first byte tells how many follow, and each of them brings six bits. -/

variable {b b₁ b₂ b₃ : UInt8} {w x y z n : Nat} (rest : List UInt8)

lemma next?_one (hb : b.toNat < 0x80) : next? (b :: rest) = some (Char.ofNat b.toNat, rest) := by
  unfold next?
  simp [UInt8.lt_iff_toNat_lt, hb]

lemma next?_two (hb : b.toNat = 0xC0 + x) (h₁ : continuation? b₁ = some y) (hx : 2 ≤ x)
    (hx' : x < 32) (hn : x * 64 + y = n) : next? (b :: b₁ :: rest) = some (Char.ofNat n, rest) := by
  have hone : ¬ b < 0x80 := by simp [UInt8.lt_iff_toNat_lt, hb]; omega
  have htwo : (0xC2 ≤ b && b ≤ 0xDF) = true := by simp [UInt8.le_iff_toNat_le, hb]; omega
  have hlead : b.toNat - 0xC0 = x := by omega
  unfold next?
  dsimp only
  rw [if_neg hone, if_pos htwo, h₁, Option.bind_eq_bind, Option.bind_some, hlead, hn]

lemma next?_three (hb : b.toNat = 0xE0 + x) (h₁ : continuation? b₁ = some y)
    (h₂ : continuation? b₂ = some z) (hx : x < 16) (hn : x * 4096 + y * 64 + z = n)
    (hlow : 0x800 ≤ n) (hpair : n < 0xD800 ∨ 0xDFFF < n) :
    next? (b :: b₁ :: b₂ :: rest) = some (Char.ofNat n, rest) := by
  have hone : ¬ b < 0x80 := by simp [UInt8.lt_iff_toNat_lt, hb]; omega
  have htwo : ¬ (0xC2 ≤ b && b ≤ 0xDF) = true := by simp [UInt8.le_iff_toNat_le, hb]; omega
  have hthree : (0xE0 ≤ b && b ≤ 0xEF) = true := by simp [UInt8.le_iff_toNat_le, hb]; omega
  have hscalar : ¬ (n < 0x800 || (0xD800 ≤ n && n ≤ 0xDFFF)) = true := by simp; omega
  have hlead : b.toNat - 0xE0 = x := by omega
  unfold next?
  dsimp only
  rw [if_neg hone, if_neg htwo, if_pos hthree, h₁, h₂, Option.bind_eq_bind, Option.bind_some,
    Option.bind_some, hlead, hn, if_neg hscalar]

lemma next?_four (hb : b.toNat = 0xF0 + w) (h₁ : continuation? b₁ = some x)
    (h₂ : continuation? b₂ = some y) (h₃ : continuation? b₃ = some z) (hw : w < 5)
    (hn : w * 262144 + x * 4096 + y * 64 + z = n) (hlow : 0x10000 ≤ n) (hhigh : n ≤ 0x10FFFF) :
    next? (b :: b₁ :: b₂ :: b₃ :: rest) = some (Char.ofNat n, rest) := by
  have hone : ¬ b < 0x80 := by simp [UInt8.lt_iff_toNat_lt, hb]; omega
  have htwo : ¬ (0xC2 ≤ b && b ≤ 0xDF) = true := by simp [UInt8.le_iff_toNat_le, hb]; omega
  have hthree : ¬ (0xE0 ≤ b && b ≤ 0xEF) = true := by simp [UInt8.le_iff_toNat_le, hb]; omega
  have hfour : (0xF0 ≤ b && b ≤ 0xF4) = true := by simp [UInt8.le_iff_toNat_le, hb]; omega
  have hscalar : ¬ (n < 0x10000 || 0x10FFFF < n) = true := by simp; omega
  have hlead : b.toNat - 0xF0 = w := by omega
  unfold next?
  dsimp only
  rw [if_neg hone, if_neg htwo, if_neg hthree, if_pos hfour, h₁, h₂, h₃, Option.bind_eq_bind,
    Option.bind_some, Option.bind_some, Option.bind_some, hlead, hn, if_neg hscalar]

end Lengths

theorem next?_encodeChar (c : Char) (rest : List UInt8) :
    next? (encodeChar c ++ rest) = some (c, rest) := by
  have hvalid : c.toNat < 0xD800 ∨ 0xDFFF < c.toNat ∧ c.toNat < 0x110000 := c.valid
  have hc : Char.ofNat c.toNat = c := Char.ofNat_toNat c
  unfold encodeChar
  generalize c.toNat = n at hvalid hc
  dsimp only
  split_ifs with h1 h2 h3
  · have hn : n.toUInt8.toNat = n := toNat_toUInt8 (by omega)
    rw [List.singleton_append, next?_one rest (by omega), hn, hc]
  · rw [List.cons_append, List.singleton_append, next?_two rest (toNat_toUInt8 (by omega))
      (continuation?_toUInt8 (by omega)) (by omega) (by omega) (n := n) (by omega), hc]
  · rw [List.cons_append, List.cons_append, List.singleton_append,
      next?_three rest (toNat_toUInt8 (by omega)) (continuation?_toUInt8 (by omega))
        (continuation?_toUInt8 (by omega)) (by omega) (n := n) (by omega) (by omega) (by omega), hc]
  · rw [List.cons_append, List.cons_append, List.cons_append, List.singleton_append,
      next?_four rest (toNat_toUInt8 (by omega)) (continuation?_toUInt8 (by omega))
        (continuation?_toUInt8 (by omega)) (continuation?_toUInt8 (by omega)) (by omega) (n := n)
        (by omega) (by omega) (by omega), hc]

lemma encodeChar_ne_nil (c : Char) : encodeChar c ≠ [] := by
  unfold encodeChar
  dsimp only
  split_ifs <;> exact List.cons_ne_nil _ _

@[simp] lemma encode_cons (c : Char) (cs : List Char) :
    encode (c :: cs) = encodeChar c ++ encode cs := rfl

@[simp] lemma encode_append (as bs : List Char) : encode (as ++ bs) = encode as ++ encode bs :=
  List.flatMap_append

lemma length_le_encode (cs : List Char) : cs.length ≤ (encode cs).length := by
  induction cs with
  | nil => exact Nat.le_refl _
  | cons c cs ih =>
    have hpos : 0 < (encodeChar c).length := List.length_pos_iff.mpr (encodeChar_ne_nil c)
    rw [encode_cons, List.length_append, List.length_cons]
    omega

/-- Bytes that are left while there are characters to come. -/
lemma encode_cons_cases (c : Char) (cs : List Char) :
    ∃ b bytes, encode (c :: cs) = b :: bytes ∧ next? (b :: bytes) = some (c, encode cs) := by
  have hnext := next?_encodeChar c (encode cs)
  rw [encode_cons]
  cases hb : encodeChar c ++ encode cs with
  | nil => exact absurd (List.append_eq_nil_iff.mp hb).1 (encodeChar_ne_nil c)
  | cons b bytes => exact ⟨b, bytes, rfl, hb ▸ hnext⟩

lemma readableLoop_encode (cs : List Char) {fuel : Nat} (h : cs.length ≤ fuel) (done : List Char) :
    readableLoop done fuel (encode cs) = done.reverse ++ cs := by
  induction cs generalizing done fuel with
  | nil => cases fuel <;> simp [readableLoop, encode]
  | cons c cs ih =>
    obtain ⟨b, bytes, hb, hnext⟩ := encode_cons_cases c cs
    obtain ⟨fuel, rfl⟩ : ∃ k, fuel = k + 1 := Nat.exists_eq_add_one.mpr (Nat.zero_lt_of_lt h)
    rw [hb, readableLoop, hnext]
    dsimp only
    rw [ih (Nat.le_of_succ_le_succ h), List.reverse_cons, List.append_assoc, List.singleton_append]

theorem readable_encode (cs : List Char) : readable (encode cs) = cs := by
  rw [readable, readableLoop_encode cs (length_le_encode cs), List.reverse_nil, List.nil_append]

lemma decodeLoop_encode (cs : List Char) {fuel : Nat} (h : cs.length ≤ fuel) (done : List Char) :
    decodeLoop done fuel (encode cs) = some (done.reverse ++ cs) := by
  induction cs generalizing done fuel with
  | nil => cases fuel <;> simp [decodeLoop, encode]
  | cons c cs ih =>
    obtain ⟨b, bytes, hb, hnext⟩ := encode_cons_cases c cs
    obtain ⟨fuel, rfl⟩ : ∃ k, fuel = k + 1 := Nat.exists_eq_add_one.mpr (Nat.zero_lt_of_lt h)
    rw [hb, decodeLoop, hnext]
    · dsimp only
      rw [ih (Nat.le_of_succ_le_succ h), List.reverse_cons, List.append_assoc,
        List.singleton_append]
    · exact List.cons_ne_nil b bytes

theorem decode?_encode (cs : List Char) : decode? (encode cs) = some cs := by
  rw [decode?, decodeLoop_encode cs (length_le_encode cs), List.reverse_nil, List.nil_append]

/-- A byte below 0x80 belongs to the one character that has its number. -/
lemma mem_encodeChar {c : Char} {b : UInt8} (hb : b.toNat < 0x80) (h : b ∈ encodeChar c) :
    encodeChar c = [b] ∧ c.toNat = b.toNat := by
  have hvalid : c.toNat < 0xD800 ∨ 0xDFFF < c.toNat ∧ c.toNat < 0x110000 := c.valid
  unfold encodeChar at h ⊢
  generalize c.toNat = n at hvalid h ⊢
  -- Every byte of a longer character is 0x80 at least.
  have hlead : ∀ k : Nat, 0x80 ≤ k → k < 256 → b ≠ k.toUInt8 := by
    rintro k hk hk' rfl
    rw [toNat_toUInt8 hk'] at hb
    omega
  dsimp only at h ⊢
  split_ifs at h ⊢ with h1 h2 h3
  · obtain rfl := List.mem_singleton.mp h
    exact ⟨rfl, (toNat_toUInt8 (by omega)).symm⟩
  · simp only [List.mem_cons, List.not_mem_nil, or_false] at h
    rcases h with h | h <;> exact absurd h (hlead _ (by omega) (by omega))
  · simp only [List.mem_cons, List.not_mem_nil, or_false] at h
    rcases h with h | h | h <;> exact absurd h (hlead _ (by omega) (by omega))
  · simp only [List.mem_cons, List.not_mem_nil, or_false] at h
    rcases h with h | h | h | h <;> exact absurd h (hlead _ (by omega) (by omega))

lemma not_mem_encode {cs : List Char} (h : '\n' ∉ cs) : 0x0A ∉ encode cs := by
  intro hm
  obtain ⟨c, hc, hb⟩ := List.mem_flatMap.mp hm
  have hnumber : c.toNat = '\n'.toNat := (mem_encodeChar (by decide) hb).2
  exact h (Char.toNat_inj.mp hnumber ▸ hc)

end ManagementServer.Text.Utf8
