import ManagementServer.Proofs.Descriptors
import ManagementServer.Proofs.UrlPaths
import ManagementServer.Settings.Endpoint

/-!
# Endpoints written as URLs

A Unix socket is written as its path behind `unix://`, and read as the path of that URL. So the
paths that are read as they were written are those that a URL leaves as they are
(`Endpoint.unix_path_survives`).
-/

namespace ManagementServer

namespace Url

/-! ## Reading a text -/

/-- What is left of the end of a text when it is read: controls and blanks behind it are dropped,
and tabs and line ends anywhere. -/
def kept (tail : List Char) : List Char :=
  (tail.rdropWhile fun c => c.toNat ≤ 0x20).filter fun c => !(c == '\t' || c == '\n' || c == '\r')

lemma isKept_of_visible {c : Char} (h : 0x20 < c.toNat) :
    (!(c == '\t' || c == '\n' || c == '\r')) = true := by
  rw [Bool.not_eq_true', Bool.or_eq_false_iff, Bool.or_eq_false_iff]
  refine ⟨⟨?_, ?_⟩, ?_⟩ <;> refine beq_false_of_ne ?_ <;> rintro rfl <;> exact absurd h (by decide)

lemma cleaned_append {front : List Char} (hfront : ∀ c ∈ front, 0x20 < c.toNat)
    (hsome : front ≠ []) (tail : List Char) : cleaned (front ++ tail) = front ++ kept tail := by
  have hvisible : ∀ c ∈ front, ¬ (decide (c.toNat ≤ 0x20) = true) := fun c hc => by
    simpa using hfront c hc
  have hstart : (front ++ tail).dropWhile (fun c => decide (c.toNat ≤ 0x20)) = front ++ tail := by
    obtain ⟨c, rest, rfl⟩ := List.exists_cons_of_ne_nil hsome
    exact List.dropWhile_cons_of_neg (hvisible c List.mem_cons_self)
  have hfrontEnd : front.reverse.dropWhile (fun c => decide (c.toNat ≤ 0x20)) = front.reverse := by
    obtain ⟨c, rest, hc⟩ := List.exists_cons_of_ne_nil (List.reverse_ne_nil_iff.mpr hsome)
    rw [hc]
    exact List.dropWhile_cons_of_neg (hvisible c (List.mem_reverse.mp (hc ▸ List.mem_cons_self)))
  have hend : (front ++ tail).rdropWhile (fun c => decide (c.toNat ≤ 0x20)) =
      front ++ tail.rdropWhile (fun c => decide (c.toNat ≤ 0x20)) := by
    rw [List.rdropWhile, List.reverse_append, List.dropWhile_append, List.rdropWhile]
    split
    · rename_i hempty
      rw [List.isEmpty_iff.mp hempty, hfrontEnd, List.reverse_reverse, List.reverse_nil,
        List.append_nil]
    · rw [List.reverse_append, List.reverse_reverse]
  rw [cleaned, Text.trimChars_eq_rdropWhile, hstart, hend, List.filter_append,
    List.filter_eq_self.mpr fun c hc => isKept_of_visible (hfront c hc), kept]

lemma kept_of_visible {tail : List Char} (h : ∀ c ∈ tail, 0x20 < c.toNat) : kept tail = tail := by
  have hend : tail.rdropWhile (fun c => decide (c.toNat ≤ 0x20)) = tail := by
    rw [List.rdropWhile_eq_self_iff]
    intro hne
    simpa using h _ (List.getLast_mem hne)
  rw [kept, hend, List.filter_eq_self.mpr fun c hc => isKept_of_visible (h c hc)]

/-- The URL of a path is of that path without its query, resolved and encoded. -/
lemma parse?_unix (tail : List Char) : parse? ("unix://".toList ++ '/' :: tail) =
    some ⟨"unix", none, none, String.ofList (Path.normalize (beforeQuery (kept tail)))⟩ := by
  have hclean : cleaned ("unix:///".toList ++ tail) = "unix:///".toList ++ kept tail :=
    cleaned_append (by simp) (by simp) tail
  have hscheme : scheme? ("unix:///".toList ++ kept tail) =
      some ("unix", '/' :: '/' :: '/' :: kept tail) := rfl
  have htext : "unix://".toList ++ '/' :: tail = "unix:///".toList ++ tail := rfl
  rw [parse?, htext, hclean, hscheme]
  rfl

lemma beforeQuery_of_bare {cs : List Char} (h : ∀ c ∈ cs, Path.isEncoded c = false) :
    beforeQuery cs = cs := by
  refine List.takeWhile_eq_self_iff.mpr fun c hc => ?_
  rw [Bool.not_eq_true', Bool.or_eq_false_iff]
  refine ⟨beq_false_of_ne ?_, beq_false_of_ne ?_⟩ <;> rintro rfl <;> exact nomatch h _ hc

lemma visible_of_bare {c : Char} (h : Path.isEncoded c = false) : 0x20 < c.toNat := by
  obtain ⟨hcontrol, hlisted⟩ := Bool.or_eq_false_iff.mp h
  have hlow : ¬ c.toNat < 0x20 := by
    intro hlow
    simp [isControl, hlow] at hcontrol
  have hblank : c.toNat ≠ 0x20 := by
    intro heq
    obtain rfl : c = ' ' := Char.toNat_inj.mp heq
    exact nomatch hlisted
  omega

end Url

namespace Settings.Endpoint

open Url.Path (IsPlain normalize)

/-- A path that begins with a slash names no socket exactly if it is the root. -/
lemma namesNone_ofList (rest : List Char) :
    (String.ofList ('/' :: rest) == "" || String.ofList ('/' :: rest) == "/") =
      decide ('/' :: rest = ['/']) := by
  have hempty : String.ofList ('/' :: rest) ≠ "" := fun h => by
    have hchars := congrArg String.toList h
    rw [String.toList_ofList] at hchars
    cases hchars
  have hroot : String.ofList ('/' :: rest) = "/" ↔ '/' :: rest = ['/'] := by
    rw [← String.toList_inj, String.toList_ofList]
    rfl
  rw [beq_false_of_ne hempty, Bool.false_or, Bool.eq_iff_iff, beq_iff_eq, hroot,
    decide_eq_true_iff]

/-- A Unix socket is read as the path of the URL in which it is written. -/
lemma parse_text_unix {path : String} {tail : List Char} (h : path.toList = '/' :: tail) :
    parse (text (.unix path)) =
      if normalize (Url.beforeQuery (Url.kept tail)) = ['/'] then
        .error (.missingUnixPath (text (.unix path)))
      else .ok (.unix (String.ofList (normalize (Url.beforeQuery (Url.kept tail))))) := by
  have htext : (text (.unix path)).toList = "unix://".toList ++ '/' :: tail := by
    rw [text, String.toList_append, h]
  obtain ⟨rest, hrest⟩ := Url.Path.normalize_eq_cons (Url.beforeQuery (Url.kept tail))
  rw [parse, htext, Url.parse?_unix, hrest]
  dsimp only
  rw [namesNone_ofList]
  simp only [decide_eq_true_eq]

lemma parse_text_of_isPlain {path : String} (habsolute : path.toList.head? = some '/')
    (hroot : path ≠ "/") (h : IsPlain path.toList) :
    parse (text (.unix path)) = .ok (.unix path) := by
  obtain ⟨tail, hpath⟩ := List.head?_eq_some_iff.mp habsolute
  have hbare : ∀ c ∈ tail, Url.Path.isEncoded c = false :=
    fun c hc => h.bare (hpath ▸ List.mem_cons_of_mem _ hc)
  have hkept : Url.kept tail = tail :=
    Url.kept_of_visible fun c hc => Url.visible_of_bare (hbare c hc)
  have hnormal : normalize tail = path.toList :=
    (Url.Path.normalize_of_isPlain (hpath ▸ h)).trans hpath.symm
  have hother : path.toList ≠ ['/'] := fun h => hroot (String.toList_inj.mp h)
  rw [parse_text_unix hpath, hkept, Url.beforeQuery_of_bare hbare, hnormal, if_neg hother,
    String.ofList_toList]

/-- A socket whose path is absolute and not the root is read as it is written exactly if its path is
plain. Any other is read as a socket of another path, which is plain, or as none. -/
theorem unix_path_survives (path : String) (habsolute : path.toList.head? = some '/')
    (hroot : path ≠ "/") :
    (parse (text (.unix path)) = .ok (.unix path) ↔ IsPlain path.toList) ∧
      (∀ endpoint, parse (text (.unix path)) = .ok endpoint →
        ∃ read, endpoint = .unix read ∧ IsPlain read.toList) ∧
      ∀ error, parse (text (.unix path)) = .error error →
        error = .missingUnixPath (text (.unix path)) := by
  obtain ⟨tail, hpath⟩ := List.head?_eq_some_iff.mp habsolute
  have hread := Url.Path.isPlain_normalize (Url.beforeQuery (Url.kept tail))
  refine ⟨⟨fun h => ?_, parse_text_of_isPlain habsolute hroot⟩, ?_, ?_⟩
  · rw [parse_text_unix hpath] at h
    split at h
    · cases h
    · injection h with h
      injection h with h
      rw [← h, String.toList_ofList]
      exact hread
  · intro endpoint h
    rw [parse_text_unix hpath] at h
    split at h
    · cases h
    · cases h
      exact ⟨_, rfl, by rw [String.toList_ofList]; exact hread⟩
  · intro error h
    rw [parse_text_unix hpath] at h
    split at h
    · cases h
      rfl
    · cases h

theorem unix_path_survives_run :
    let path := "/run/user/1000/netconfd/netconfd.sock"
    path.toList.head? = some '/' ∧ path ≠ "/" ∧ IsPlain path.toList ∧
      parse (text (.unix path)) = .ok (.unix path) :=
  ⟨by decide +kernel, by decide +kernel, by decide +kernel,
    (unix_path_survives "/run/user/1000/netconfd/netconfd.sock" (by decide +kernel)
      (by decide +kernel)).1.mpr (by decide +kernel)⟩

/-- A path with a blank is written as it is, and read with the blank encoded. -/
theorem unix_path_with_blank_changes :
    "/run/a b.sock".toList.head? = some '/' ∧ "/run/a b.sock" ≠ "/" ∧
      parse (text (.unix "/run/a b.sock")) = .ok (.unix "/run/a%20b.sock") ∧
      parse (text (.unix "/run/a b.sock")) ≠ .ok (.unix "/run/a b.sock") :=
  ⟨by decide +kernel, by decide +kernel, by decide +kernel, by decide +kernel⟩

end Settings.Endpoint

end ManagementServer
