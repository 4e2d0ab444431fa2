import ManagementServer.Proofs.CapabilityRouting

/-!
# Capability sets, however they are built

A set is built by inserting, by extending, from a list, or by reading what was written
(`CapabilitySet.Arises`), and the proper sets are the ones that are built so
(`CapabilitySet.arises_iff`). A set keeps the texts of its URIs, but what it contains and what it
shares with another depends on their bases only (`CapabilitySet.lawful_of_arises`).
-/

namespace ManagementServer

namespace Text

lemma trimChars_eq_nil_iff {p : Char → Bool} {cs : List Char} :
    trimChars p cs = [] ↔ ∀ c ∈ cs, p c = true := by
  constructor
  · intro h
    obtain ⟨before, behind, hbefore, hbehind, hcs⟩ := trimChars_split p cs
    rw [hcs, h, List.nil_append]
    exact List.forall_mem_append.mpr ⟨hbefore, hbehind⟩
  · intro h
    rw [trimChars, List.dropWhile_eq_nil_iff.mpr h]
    rfl

lemma trim_eq_empty_iff {s : String} : trim s = "" ↔ isBlank s = true := by
  rw [trim, ← String.toList_inj, String.toList_ofList, isBlank, List.all_eq_true]
  exact trimChars_eq_nil_iff

end Text

namespace CapabilitySet

variable {s other : CapabilitySet}

/-! ## What is in a set -/

/-- Insertion adds the capability that a URI names, unless the URI is blank, and no other. -/
lemma contains_insert {uri wanted : String} :
    (s.insert uri).contains wanted = true ↔
      s.contains wanted = true ∨
        Text.isBlank uri = false ∧ Capability.base wanted = Capability.base uri := by
  rw [contains_iff, contains_iff, mem_bases_insert, ne_eq, Text.trim_eq_empty_iff,
    Bool.not_eq_true]

lemma contains_extend (h : other.IsProper) (wanted : String) :
    (s.extend other).contains wanted = (s.contains wanted || other.contains wanted) := by
  rw [Bool.eq_iff_iff, Bool.or_eq_true, contains_iff, contains_iff, contains_iff,
    mem_bases_extend h]

lemma intersects_comm (s other : CapabilitySet) : s.intersects other = other.intersects s := by
  rw [Bool.eq_iff_iff, intersects_iff, intersects_iff]
  exact ⟨fun ⟨base, hs, hother⟩ => ⟨base, hother, hs⟩,
    fun ⟨base, hother, hs⟩ => ⟨base, hs, hother⟩⟩

/-! ## Which texts are kept -/

lemma prefix_insert (s : CapabilitySet) (uri : String) : s.uris <+: (s.insert uri).uris := by
  rcases s.insert_cases uri with h | ⟨-, -, h⟩
  · exact h.symm ▸ List.prefix_rfl
  · exact h.symm ▸ List.prefix_append _ _

lemma prefix_insertAll (s : CapabilitySet) (uris : List String) :
    s.uris <+: (s.insertAll uris).uris := by
  induction uris generalizing s with
  | nil => exact List.prefix_rfl
  | cons uri rest ih => exact (s.prefix_insert uri).trans (ih (s.insert uri))

lemma IsProper.isBlank (h : s.IsProper) {uri : String} (huri : uri ∈ s.uris) :
    Text.isBlank uri = false := by
  obtain ⟨hne, htrim⟩ := h.trimmed uri huri
  rw [← Bool.not_eq_true, ← Text.trim_eq_empty_iff, htrim]
  exact hne

lemma IsProper.nodup (h : s.IsProper) : s.bases.Nodup :=
  List.pairwise_map.mpr h.distinct

/-! ## Building sets -/

/-- The sets that are built from nothing. -/
inductive Arises : CapabilitySet → Prop
  | empty : Arises empty
  | insert {s : CapabilitySet} (hs : s.Arises) (uri : String) : Arises (s.insert uri)
  | extend {s other : CapabilitySet} (hs : s.Arises) (hother : other.Arises) :
    Arises (s.extend other)
  | ofList (uris : List String) : Arises (ofList uris)
  | decode {s : CapabilitySet} {draft : Draft} (h : decode draft = .ok s) : Arises s

lemma isProper_of_decode {draft : Draft} (h : decode draft = .ok s) : s.IsProper := by
  rw [decode] at h
  cases hlist : Decoder.list Decoder.text draft with
  | error error =>
    rw [hlist] at h
    cases h
  | ok uris =>
    rw [hlist] at h
    cases h
    exact isProper_ofList uris

lemma Arises.isProper (h : s.Arises) : s.IsProper := by
  induction h with
  | empty => exact isProper_empty
  | insert _ uri ih => exact ih.insert uri
  | @extend _ other _ _ ih _ => exact ih.insertAll other.uris
  | ofList uris => exact isProper_ofList uris
  | decode h => exact isProper_of_decode h

/-- The proper sets are those that are built. -/
lemma arises_iff : s.Arises ↔ s.IsProper :=
  ⟨Arises.isProper, fun h => ofList_uris h ▸ .ofList s.uris⟩

/-- Sets that are built keep their texts trimmed and their bases apart, and whatever is added goes
behind what is held. An insertion adds the capability that a URI names, an extension those of the
other set, for every spelling in which one may ask for it. Two sets intersect, either way round, if
they have a base in common. -/
theorem lawful_of_arises (hs : s.Arises) (hother : other.Arises) :
    (∀ uri ∈ s.uris, Text.isBlank uri = false ∧ Text.trim uri = uri) ∧
      s.bases.Nodup ∧
      (∀ uri, s.uris <+: (s.insert uri).uris) ∧
      s.uris <+: (s.extend other).uris ∧
      (∀ uri wanted, (s.insert uri).contains wanted = true ↔
        s.contains wanted = true ∨
          Text.isBlank uri = false ∧ Capability.base wanted = Capability.base uri) ∧
      (∀ wanted, (s.extend other).contains wanted =
        (s.contains wanted || other.contains wanted)) ∧
      s.intersects other = other.intersects s ∧
      (s.intersects other = true ↔ ∃ base ∈ s.bases, base ∈ other.bases) := by
  have hproper := hs.isProper
  exact ⟨fun uri huri => ⟨hproper.isBlank huri, (hproper.trimmed uri huri).2⟩, hproper.nodup,
    s.prefix_insert, s.prefix_insertAll other.uris, fun uri wanted => contains_insert,
    contains_extend hother.isProper, s.intersects_comm other, intersects_iff⟩

/-- A URI that is all query has an empty base, and a blank before the query stays where it is. -/
theorem lawful_of_arises_odd :
    let s := (empty.insert " urn:a ?rev=1 ").insert "?x"
    let other := ofList ["urn:a", "\t", "urn:b?y "]
    s.Arises ∧
      decode (.array [.string (some "urn:a"), .string (some "\t"), .string (some "urn:b?y ")]) =
        .ok other ∧
      s.uris = ["urn:a ?rev=1", "?x"] ∧ other.uris = ["urn:a", "urn:b?y"] ∧
      (s.extend other).uris = ["urn:a ?rev=1", "?x", "urn:b?y"] ∧
      (s.extend other).contains " urn:b " = (s.contains " urn:b " || other.contains " urn:b ") ∧
      ((s.insert "?y").contains "" = true ↔
        s.contains "" = true ∨ Text.isBlank "?y" = false ∧
          Capability.base "" = Capability.base "?y") ∧
      s.intersects other = other.intersects s ∧ ∃ base ∈ s.bases, base ∈ other.bases := by
  intro s other
  have hs : s.Arises := (Arises.empty.insert " urn:a ?rev=1 ").insert "?x"
  have hread : decode (.array [.string (some "urn:a"), .string (some "\t"),
      .string (some "urn:b?y ")]) = .ok other := rfl
  obtain ⟨-, -, -, -, hinsert, hextend, hcomm, hintersects⟩ :=
    lawful_of_arises hs (.decode hread)
  exact ⟨hs, hread, by decide +kernel, by decide +kernel, by decide +kernel, hextend " urn:b ",
    hinsert "?y" "", hcomm, hintersects.mp (by decide +kernel)⟩

end CapabilitySet

end ManagementServer
