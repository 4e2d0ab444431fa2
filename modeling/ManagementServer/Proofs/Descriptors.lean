import ManagementServer.Device.Descriptor
import ManagementServer.Proofs.JsonValues
import Mathlib.Data.List.DropRight

/-!
# Sets of capabilities and of operations

What insertion keeps of a capability set, and that a set is rebuilt from what it holds: inserting
its URIs once more, or sorting its operations once more, changes nothing.
-/

namespace ManagementServer

namespace Text

/-- The beginning of a text that begins without `p` does so as well. -/
lemma dropWhile_eq_of_prefix {p : Char → Bool} {cs whole : List Char} (hc : cs <+: whole)
    (h : whole.dropWhile p = whole) : cs.dropWhile p = cs := by
  cases cs with
  | nil => rfl
  | cons c rest =>
    obtain ⟨tail, rfl⟩ := hc
    have hp : ¬ p c = true := List.dropWhile_eq_self_iff.mp h (Nat.succ_pos _)
    rw [List.dropWhile_cons_of_neg hp]

lemma trimChars_eq_rdropWhile (p : Char → Bool) (cs : List Char) :
    trimChars p cs = (cs.dropWhile p).rdropWhile p := rfl

lemma trimChars_trimChars (p : Char → Bool) (cs : List Char) :
    trimChars p (trimChars p cs) = trimChars p cs := by
  have hprefix : trimChars p cs <+: cs.dropWhile p := by
    have h := (List.dropWhile_suffix p (l := (cs.dropWhile p).reverse))
    rw [← List.reverse_prefix, List.reverse_reverse] at h
    exact h
  have hfront : (trimChars p cs).dropWhile p = trimChars p cs :=
    dropWhile_eq_of_prefix hprefix (List.dropWhile_idempotent p _)
  rw [trimChars, hfront, trimChars, List.reverse_reverse, List.dropWhile_idempotent]

/-- A trimmed text has nothing left to trim. -/
lemma trim_trim (s : String) : trim (trim s) = trim s := by
  rw [trim, trim, String.toList_ofList, trimChars_trimChars]

end Text

namespace CapabilitySet

/-- No URI is blank or has blanks around it, and no two name one capability. -/
structure IsProper (s : CapabilitySet) : Prop where
  trimmed : ∀ uri ∈ s.uris, uri ≠ "" ∧ Text.trim uri = uri
  distinct : s.uris.Pairwise fun a b => Capability.base a ≠ Capability.base b

lemma isProper_empty : empty.IsProper :=
  ⟨fun _ h => absurd h List.not_mem_nil, List.Pairwise.nil⟩

lemma contains_eq_false_iff (s : CapabilitySet) (uri : String) :
    s.contains uri = false ↔ ∀ held ∈ s.uris, Capability.base held ≠ Capability.base uri := by
  simp [contains, List.any_eq_false]

/-- A URI is added at the end, or it is blank or held already and the set stays as it is. -/
lemma insert_cases (s : CapabilitySet) (uri : String) :
    s.insert uri = s ∨
      (Text.trim uri ≠ "" ∧ s.contains (Text.trim uri) = false ∧
        s.insert uri = ⟨s.uris ++ [Text.trim uri]⟩) := by
  simp only [insert, tryInsert]
  split_ifs with h
  · exact .inl rfl
  · rw [Bool.or_eq_true, not_or] at h
    exact .inr ⟨by simpa using h.1, by simpa using h.2, rfl⟩

lemma IsProper.insert {s : CapabilitySet} (h : s.IsProper) (uri : String) :
    (s.insert uri).IsProper := by
  rcases s.insert_cases uri with he | ⟨hblank, hnew, he⟩
  · rw [he]
    exact h
  · rw [he]
    constructor
    · intro held hm
      rcases List.mem_append.mp hm with hm | hm
      · exact h.trimmed held hm
      · obtain rfl := List.mem_singleton.mp hm
        exact ⟨hblank, Text.trim_trim uri⟩
    · refine List.pairwise_append.mpr ⟨h.distinct, List.pairwise_singleton _ _, ?_⟩
      intro held hm other ho
      obtain rfl := List.mem_singleton.mp ho
      exact (s.contains_eq_false_iff _).mp hnew held hm

lemma IsProper.insertAll {s : CapabilitySet} (h : s.IsProper) (uris : List String) :
    (s.insertAll uris).IsProper := by
  induction uris generalizing s with
  | nil => exact h
  | cons uri rest ih => exact ih (h.insert uri)

lemma isProper_ofList (uris : List String) : (ofList uris).IsProper :=
  isProper_empty.insertAll uris

/-- A set is the set of its URIs. -/
theorem ofList_uris {s : CapabilitySet} (h : s.IsProper) : ofList s.uris = s := by
  refine foldl_of_pairwise CapabilitySet.mk h.distinct fun done uri hm hbefore => ?_
  obtain ⟨hblank, htrim⟩ := h.trimmed uri hm
  have hnew : contains ⟨done⟩ uri = false := (contains_eq_false_iff _ _).mpr hbefore
  simp [CapabilitySet.insert, tryInsert, hnew, htrim, hblank]

end CapabilitySet

namespace Device

lemma mem_insertSorted {o operation : String} {operations : List String}
    (h : o ∈ insertSorted operation operations) : o = operation ∨ o ∈ operations := by
  induction operations with
  | nil => exact Or.inl (List.mem_singleton.mp h)
  | cons first rest ih =>
    unfold insertSorted at h
    split at h
    · exact List.mem_cons.mp h
    · split at h
      · exact Or.inr h
      · rcases List.mem_cons.mp h with he | h
        · exact Or.inr (he ▸ List.mem_cons_self)
        · exact (ih h).imp_right (List.mem_cons_of_mem _)

lemma mem_sortOperations {o : String} {operations : List String}
    (h : o ∈ sortOperations operations) : o ∈ operations := by
  have hfold : ∀ sorted : List String,
      o ∈ operations.foldl (fun acc operation => insertSorted operation acc) sorted →
        o ∈ sorted ∨ o ∈ operations := by
    clear h
    induction operations with
    | nil => exact fun _ h => Or.inl h
    | cons operation rest ih =>
      intro sorted h
      rcases ih _ h with h | h
      · rcases mem_insertSorted h with rfl | h
        · exact Or.inr List.mem_cons_self
        · exact Or.inl h
      · exact Or.inr (List.mem_cons_of_mem _ h)
  rcases hfold [] h with h | h
  · cases h
  · exact h

lemma insertSorted_of_forall_lt {operation : String} {operations : List String}
    (h : ∀ o ∈ operations, o < operation) :
    insertSorted operation operations = operations ++ [operation] := by
  induction operations with
  | nil => rfl
  | cons first rest ih =>
    have hfirst : first < operation := h first List.mem_cons_self
    have hne : operation ≠ first := by
      rintro rfl
      exact String.lt_irrefl operation hfirst
    rw [insertSorted, if_neg fun hc => String.lt_irrefl first (String.lt_trans hfirst hc),
      if_neg (by simpa using hne), ih fun o ho => h o (List.mem_cons_of_mem _ ho), List.cons_append]

lemma pairwise_insertSorted (operation : String) {operations : List String}
    (h : operations.Pairwise (· < ·)) : (insertSorted operation operations).Pairwise (· < ·) := by
  induction operations with
  | nil => exact List.pairwise_singleton _ _
  | cons first rest ih =>
    obtain ⟨hfirst, hrest⟩ := List.pairwise_cons.mp h
    rw [insertSorted]
    split_ifs with hlt heq
    · refine List.pairwise_cons.mpr ⟨fun o ho => ?_, h⟩
      rcases List.mem_cons.mp ho with rfl | ho
      · exact hlt
      · exact String.lt_trans hlt (hfirst o ho)
    · exact h
    · have hgt : first < operation := by
        by_contra hle
        exact heq (beq_iff_eq.mpr
          (String.le_antisymm (String.not_lt.mp hle) (String.not_lt.mp hlt)))
      refine List.pairwise_cons.mpr ⟨fun o ho => ?_, ih hrest⟩
      rcases mem_insertSorted ho with rfl | ho
      · exact hgt
      · exact hfirst o ho

lemma pairwise_sortOperations (operations : List String) :
    (sortOperations operations).Pairwise (· < ·) := by
  have hfold : ∀ sorted : List String, sorted.Pairwise (· < ·) →
      (operations.foldl (fun acc operation => insertSorted operation acc) sorted).Pairwise
        (· < ·) := by
    induction operations with
    | nil => exact fun _ h => h
    | cons operation rest ih => exact fun _ h => ih _ (pairwise_insertSorted operation h)
  exact hfold [] List.Pairwise.nil

theorem sortOperations_sortOperations (operations : List String) :
    sortOperations (sortOperations operations) = sortOperations operations :=
  foldl_of_pairwise id (pairwise_sortOperations operations) fun _ _ _ => insertSorted_of_forall_lt

end Device

end ManagementServer
