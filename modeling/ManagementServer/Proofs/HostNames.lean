import ManagementServer.Net.HostName
import Mathlib.Tactic.Common

/-!
# The grammar of host names

`HostName.fault?` finds no fault in exactly the texts that `HostName.IsWellFormed` describes. In
those every character takes one byte, so that lengths in bytes are lengths in characters.
-/

namespace ManagementServer

namespace Text

lemma splitOn_ne_nil (sep : Char) (cs : List Char) : splitOn sep cs ≠ [] := by
  cases cs with
  | nil => simp [splitOn]
  | cons c cs =>
    rw [splitOn, List.foldr_cons]
    split
    · simp
    · split <;> simp

lemma splitOn_cons_of_cons {sep : Char} {cs piece : List Char} {rest : List (List Char)}
    (h : splitOn sep cs = piece :: rest) (c : Char) :
    splitOn sep (c :: cs) = if c == sep then [] :: piece :: rest else (c :: piece) :: rest := by
  rw [splitOn] at h ⊢
  rw [List.foldr_cons, h]

/-- Cutting a text loses the separators only. -/
lemma mem_splitOn {sep c : Char} {cs : List Char} (h : c ∈ cs) :
    c = sep ∨ ∃ piece ∈ splitOn sep cs, c ∈ piece := by
  induction cs with
  | nil => cases h
  | cons d cs ih =>
    obtain ⟨piece, rest, hpieces⟩ := List.exists_cons_of_ne_nil (splitOn_ne_nil sep cs)
    rw [splitOn_cons_of_cons hpieces]
    rw [hpieces] at ih
    by_cases hd : d = sep
    · rw [if_pos (beq_iff_eq.mpr hd)]
      rcases List.mem_cons.mp h with rfl | h
      · exact .inl hd
      · exact (ih h).imp_right fun ⟨held, hheld, hc⟩ => ⟨held, List.mem_cons_of_mem _ hheld, hc⟩
    · rw [if_neg (fun h => hd (beq_iff_eq.mp h))]
      rcases List.mem_cons.mp h with rfl | h
      · exact .inr ⟨_, List.mem_cons_self, List.mem_cons_self⟩
      · refine (ih h).imp_right fun ⟨held, hheld, hc⟩ => ?_
        rcases List.mem_cons.mp hheld with rfl | hheld
        · exact ⟨_, List.mem_cons_self, List.mem_cons_of_mem _ hc⟩
        · exact ⟨held, List.mem_cons_of_mem _ hheld, hc⟩

lemma utf8Size_of_isAlphanumeric {c : Char} (h : isAlphanumeric c = true) : c.utf8Size = 1 := by
  have hranges : isAlphanumeric c =
      (decide (c.val ≥ 'A'.val ∧ c.val ≤ 'Z'.val) ||
        decide (c.val ≥ 'a'.val) && decide (c.val ≤ 'z'.val) ||
        decide (c.val ≥ '0'.val) && decide (c.val ≤ '9'.val)) := rfl
  rw [hranges] at h
  simp only [Bool.or_eq_true, Bool.and_eq_true, decide_eq_true_eq, UInt32.le_iff_toNat_le,
    ge_iff_le] at h
  change (65 ≤ c.toNat ∧ c.toNat ≤ 90 ∨ 97 ≤ c.toNat ∧ c.toNat ≤ 122) ∨
    48 ≤ c.toNat ∧ c.toNat ≤ 57 at h
  have hascii : c.toNat ≤ 127 := by omega
  exact Char.utf8Size_eq_one_iff.mpr (UInt32.le_iff_toNat_le.mpr hascii)

lemma Utf8.size_of_forall {cs : List Char} (h : ∀ c ∈ cs, c.utf8Size = 1) :
    size cs = cs.length := by
  have hfold (n : Nat) : cs.foldl (fun n c => n + c.utf8Size) n = n + cs.length := by
    induction cs generalizing n with
    | nil => rfl
    | cons c cs ih =>
      rw [List.foldl_cons, ih (fun d hd => h d (List.mem_cons_of_mem _ hd)),
        h c List.mem_cons_self, List.length_cons]
      omega
  exact (hfold 0).trans (Nat.zero_add _)

end Text

namespace Net.HostName

/-- A part of a host name between dots. -/
structure IsLabel (label : List Char) : Prop where
  nonempty : label ≠ []
  length : label.length ≤ 63
  characters : ∀ c ∈ label, Text.isAlphanumeric c = true ∨ c = '-'
  first : label.head? ≠ some '-'
  last : label.getLast? ≠ some '-'

/-- Labels with dots between them. -/
structure IsWellFormed (cs : List Char) : Prop where
  length : cs.length ≤ 253
  labels : ∀ label ∈ Text.splitOn '.' cs, IsLabel label

lemma utf8Size_of_allowed {c : Char} (h : Text.isAlphanumeric c = true ∨ c = '-') :
    c.utf8Size = 1 := by
  rcases h with h | rfl
  · exact Text.utf8Size_of_isAlphanumeric h
  · rfl

lemma IsLabel.size {label : List Char} (h : IsLabel label) :
    Text.Utf8.size label = label.length :=
  Text.Utf8.size_of_forall fun c hc => utf8Size_of_allowed (h.characters c hc)

lemma labelFault?_eq_none_iff (label : List Char) : labelFault? label = none ↔ IsLabel label := by
  constructor
  · intro h
    unfold labelFault? at h
    split at h
    · cases h
    · rename_i hlength
      split at h
      · cases h
      · rename_i hhyphen
        split at h
        · rename_i hall
          simp only [Bool.or_eq_true, List.isEmpty_iff, decide_eq_true_eq, not_or] at hlength
          simp only [Bool.or_eq_true, beq_iff_eq, not_or] at hhyphen
          have hcharacters : ∀ c ∈ label, Text.isAlphanumeric c = true ∨ c = '-' := by
            simpa using hall
          have hsize := Text.Utf8.size_of_forall fun c hc => utf8Size_of_allowed (hcharacters c hc)
          exact ⟨hlength.1, by omega, hcharacters, hhyphen.1, hhyphen.2⟩
        · cases h
  · intro h
    have hall : (label.all fun c => Text.isAlphanumeric c || c == '-') = true := by
      simpa using h.characters
    have hlength := h.length
    simp [labelFault?, h.nonempty, h.size, h.first, h.last, hall, hlength]

lemma size_of_labels {cs : List Char} (h : ∀ label ∈ Text.splitOn '.' cs, IsLabel label) :
    Text.Utf8.size cs = cs.length := by
  refine Text.Utf8.size_of_forall fun c hc => ?_
  have hpiece : c = '.' ∨ ∃ label ∈ Text.splitOn '.' cs, c ∈ label := Text.mem_splitOn hc
  rcases hpiece with rfl | ⟨label, hlabel, hc⟩
  · rfl
  · exact utf8Size_of_allowed ((h label hlabel).characters c hc)

/-- A text without a fault is a well-formed name. -/
theorem fault?_eq_none_iff (cs : List Char) : fault? cs = none ↔ IsWellFormed cs := by
  have hlabels : (Text.splitOn '.' cs).findSome? labelFault? = none ↔
      ∀ label ∈ Text.splitOn '.' cs, IsLabel label := by
    simp only [List.findSome?_eq_none_iff, labelFault?_eq_none_iff]
  unfold fault?
  constructor
  · intro h
    split at h
    · cases h
    · rename_i hlength
      simp only [Bool.or_eq_true, decide_eq_true_eq, not_or] at hlength
      have hwell := hlabels.mp h
      rw [size_of_labels hwell] at hlength
      exact ⟨by omega, hwell⟩
  · intro h
    have hne : cs ≠ [] := by
      rintro rfl
      exact (h.labels [] (by simp [Text.splitOn])).nonempty rfl
    have hlength := h.length
    rw [if_neg]
    · exact hlabels.mpr h.labels
    · simp [hne, size_of_labels h.labels, hlength]

end Net.HostName

end ManagementServer
