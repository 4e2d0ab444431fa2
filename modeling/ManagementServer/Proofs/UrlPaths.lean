import ManagementServer.Proofs.HostNames
import ManagementServer.Url.Path

/-!
# The paths of URLs

A path is plain if it holds no character that a URL encodes and no segment that leads elsewhere
(`Path.IsPlain`). Plain paths are the ones that a URL has (`Path.isPlain_normalize`), and the ones
that it leaves as they are (`Path.normalize_eq_iff`).
-/

namespace ManagementServer

namespace Text

variable {sep : Char} {cs piece : List Char} {pieces : List (List Char)}

lemma splitOn_eq (sep : Char) (cs : List Char) : splitOn sep cs = cs.splitOn sep := by
  induction cs with
  | nil => rfl
  | cons c cs ih =>
    obtain ⟨piece, rest, hpieces⟩ := List.exists_cons_of_ne_nil (splitOn_ne_nil sep cs)
    rw [splitOn_cons_of_cons hpieces, List.splitOn, List.splitOnP_cons_eq_if_modifyHead]
    rw [hpieces, List.splitOn] at ih
    rw [← ih]
    rfl

lemma splitOn_cons_sep (sep : Char) (cs : List Char) :
    splitOn sep (sep :: cs) = [] :: splitOn sep cs := by
  obtain ⟨piece, rest, hpieces⟩ := List.exists_cons_of_ne_nil (splitOn_ne_nil sep cs)
  rw [splitOn_cons_of_cons hpieces, if_pos (beq_self_eq_true sep), hpieces]

lemma flatMap_eq_intercalate (h : pieces ≠ []) :
    pieces.flatMap (sep :: ·) = sep :: [sep].intercalate pieces := by
  induction pieces with
  | nil => exact absurd rfl h
  | cons piece rest ih =>
    cases rest with
    | nil => simp
    | cons next rest =>
      rw [List.flatMap_cons, ih (List.cons_ne_nil _ _)]
      rfl

/-- The pieces of a text, each behind a separator, are the text behind a separator. -/
lemma flatMap_splitOn (sep : Char) (cs : List Char) :
    (splitOn sep cs).flatMap (sep :: ·) = sep :: cs := by
  rw [flatMap_eq_intercalate (splitOn_ne_nil sep cs), splitOn_eq, List.intercalate_splitOn]

lemma not_mem_of_mem_splitOn (h : piece ∈ splitOn sep cs) : sep ∉ piece := by
  induction cs generalizing piece with
  | nil =>
    obtain rfl := List.mem_singleton.mp h
    exact List.not_mem_nil
  | cons c cs ih =>
    by_cases hc : c = sep
    · subst hc
      rw [splitOn_cons_sep] at h
      rcases List.mem_cons.mp h with rfl | h
      · exact List.not_mem_nil
      · exact ih h
    · obtain ⟨first, rest, hpieces⟩ := List.exists_cons_of_ne_nil (splitOn_ne_nil sep cs)
      rw [splitOn_cons_of_cons hpieces, if_neg (fun h => hc (beq_iff_eq.mp h))] at h
      rcases List.mem_cons.mp h with rfl | h
      · rintro hmem
        rcases List.mem_cons.mp hmem with hs | hmem
        · exact hc hs.symm
        · exact ih (hpieces ▸ List.mem_cons_self) hmem
      · exact ih (hpieces ▸ List.mem_cons_of_mem _ h)

lemma mem_of_mem_splitOn {c : Char} (h : piece ∈ splitOn sep cs) (hc : c ∈ piece) : c ∈ cs := by
  have hmem : c ∈ (splitOn sep cs).flatMap (sep :: ·) :=
    List.mem_flatMap.mpr ⟨piece, h, List.mem_cons_of_mem _ hc⟩
  rw [flatMap_splitOn] at hmem
  rcases List.mem_cons.mp hmem with rfl | hmem
  · exact absurd hc (not_mem_of_mem_splitOn h)
  · exact hmem

/-- Cutting at the separators behind which pieces were put gives the pieces. -/
lemma splitOn_flatMap (hpieces : ∀ piece ∈ pieces, sep ∉ piece) :
    splitOn sep (pieces.flatMap (sep :: ·)) = [] :: pieces := by
  by_cases hempty : pieces = []
  · rw [hempty]
    rfl
  · rw [flatMap_eq_intercalate hempty, splitOn_cons_sep, splitOn_eq,
      List.splitOn_intercalate sep hpieces hempty]

end Text

namespace Url

/-! ## Percent-encoding -/

lemma percentEncode_eq_self {p : Char → Bool} {cs : List Char} (h : ∀ c ∈ cs, p c = false) :
    percentEncode p cs = cs := by
  induction cs with
  | nil => rfl
  | cons c cs ih =>
    obtain ⟨hc, hrest⟩ := List.forall_mem_cons.mp h
    have hih := ih hrest
    rw [percentEncode] at hih ⊢
    rw [List.flatMap_cons, hih, hc]
    rfl

/-- A byte is written with a percent sign and capital hexadecimal digits. -/
lemma mem_percentByte {c : Char} {b : UInt8} (h : c ∈ percentByte b) :
    c ∈ "%0123456789ABCDEF".toList := by
  have hdigit : ∀ n < 16, (Text.Digits.ofValue n).toUpper ∈ "%0123456789ABCDEF".toList := by
    decide +kernel
  rcases List.mem_cons.mp h with rfl | h
  · decide
  · obtain ⟨d, hd, rfl⟩ := List.mem_map.mp h
    obtain ⟨n, hn, rfl⟩ : ∃ n < 16, d = Text.Digits.ofValue n := by
      simp only [Text.Digits.padded, List.nil_append, List.cons_append, List.mem_cons,
        List.not_mem_nil, or_false] at hd
      rcases hd with rfl | rfl
      · exact ⟨_, Nat.mod_lt _ (by decide), rfl⟩
      · exact ⟨_, Nat.mod_lt _ (by decide), rfl⟩
    exact hdigit n hn

namespace Path

lemma isEncoded_percentEncode {cs : List Char} {c : Char} (h : c ∈ percentEncode isEncoded cs) :
    isEncoded c = false := by
  obtain ⟨d, -, hc⟩ := List.mem_flatMap.mp h
  cases hd : isEncoded d with
  | false =>
    rw [hd] at hc
    obtain rfl := List.mem_singleton.mp hc
    exact hd
  | true =>
    rw [hd] at hc
    obtain ⟨b, -, hbyte⟩ := List.mem_flatMap.mp hc
    have hplain : "%0123456789ABCDEF".toList.all (!isEncoded ·) = true := by decide +kernel
    simpa using List.all_eq_true.mp hplain c (mem_percentByte hbyte)

/-! ## Plain paths -/

/-- A segment of a plain path. -/
structure IsPlainSegment (segment : List Char) : Prop where
  whole : '/' ∉ segment
  bare : ∀ c ∈ segment, isEncoded c = false
  single : isSingleDot segment = false
  double : isDoubleDot segment = false

instance (segment : List Char) : Decidable (IsPlainSegment segment) :=
  decidable_of_iff ('/' ∉ segment ∧ segment.all (!isEncoded ·) = true ∧
    isSingleDot segment = false ∧ isDoubleDot segment = false)
    ⟨fun ⟨whole, bare, single, double⟩ => ⟨whole, by simpa using bare, single, double⟩,
      fun ⟨whole, bare, single, double⟩ => ⟨whole, by simpa using bare, single, double⟩⟩

/-- A path that a URL leaves as it is: ASCII without controls, blanks, and the characters that a URL
encodes or that end a path, in segments that are neither one dot nor two, not even encoded. -/
def IsPlain (cs : List Char) : Prop :=
  ∀ segment ∈ Text.splitOn '/' cs, IsPlainSegment segment

instance (cs : List Char) : Decidable (IsPlain cs) :=
  decidable_of_iff ((Text.splitOn '/' cs).all (IsPlainSegment ·) = true)
    (by simp only [List.all_eq_true, decide_eq_true_eq, IsPlain])

lemma isPlainSegment_nil : IsPlainSegment [] :=
  ⟨List.not_mem_nil, fun _ hc => absurd hc List.not_mem_nil, rfl, rfl⟩

lemma IsPlain.bare {cs : List Char} (h : IsPlain cs) {c : Char} (hc : c ∈ cs) :
    isEncoded c = false := by
  have hsplit : c = '/' ∨ ∃ segment ∈ Text.splitOn '/' cs, c ∈ segment := Text.mem_splitOn hc
  rcases hsplit with rfl | ⟨segment, hsegment, hc⟩
  · decide
  · exact (h segment hsegment).bare c hc

lemma push_of_isPlain {segment : List Char} (h : IsPlainSegment segment)
    (done : List (List Char)) (isLast : Bool) : push done segment isLast = segment :: done := by
  unfold push
  rw [h.double, h.single]
  rfl

/-- Plain segments are kept. -/
lemma pushAll_of_isPlain {segments : List (List Char)} (h : ∀ s ∈ segments, IsPlainSegment s)
    (done : List (List Char)) : pushAll done segments = segments.reverse ++ done := by
  induction segments generalizing done with
  | nil => rfl
  | cons segment rest ih =>
    obtain ⟨hsegment, hrest⟩ := List.forall_mem_cons.mp h
    cases rest with
    | nil => exact push_of_isPlain hsegment done true
    | cons next rest =>
      rw [pushAll, push_of_isPlain hsegment, ih hrest, List.reverse_cons (a := segment),
        List.append_assoc]
      · rfl
      · exact List.cons_ne_nil _ _

lemma normalize_of_isPlain {cs : List Char} (h : IsPlain ('/' :: cs)) :
    normalize cs = '/' :: cs := by
  have hsegments : ∀ s ∈ Text.splitOn '/' cs, IsPlainSegment s := by
    rw [IsPlain, Text.splitOn_cons_sep] at h
    exact (List.forall_mem_cons.mp h).2
  have hencode : percentEncode isEncoded cs = cs :=
    percentEncode_eq_self fun c hc => h.bare (List.mem_cons_of_mem _ hc)
  rw [normalize, hencode, pushAll_of_isPlain hsegments, List.append_nil, List.reverse_reverse,
    Text.flatMap_splitOn]

lemma isPlain_push {done : List (List Char)} {segment : List Char} {isLast : Bool}
    (hdone : ∀ s ∈ done, IsPlainSegment s) (hwhole : '/' ∉ segment)
    (hbare : ∀ c ∈ segment, isEncoded c = false) :
    ∀ s ∈ push done segment isLast, IsPlainSegment s := by
  have hended {done : List (List Char)} (hdone : ∀ s ∈ done, IsPlainSegment s) :
      ∀ s ∈ if isLast then [] :: done else done, IsPlainSegment s := by
    split
    · exact List.forall_mem_cons.mpr ⟨isPlainSegment_nil, hdone⟩
    · exact hdone
  unfold push
  split
  · refine hended ?_
    cases done with
    | nil => exact hdone
    | cons previous rest =>
      dsimp only
      split
      · exact hdone
      · exact (List.forall_mem_cons.mp hdone).2
  · rename_i hdouble
    split
    · exact hended hdone
    · rename_i hsingle
      exact List.forall_mem_cons.mpr
        ⟨⟨hwhole, hbare, by simpa using hsingle, by simpa using hdouble⟩, hdone⟩

/-- Segments without slashes and without characters that are encoded come to plain ones. -/
lemma isPlain_pushAll {segments done : List (List Char)} (hdone : ∀ s ∈ done, IsPlainSegment s)
    (hwholes : ∀ s ∈ segments, '/' ∉ s) (hbares : ∀ s ∈ segments, ∀ c ∈ s, isEncoded c = false) :
    ∀ s ∈ pushAll done segments, IsPlainSegment s := by
  induction segments generalizing done with
  | nil => exact hdone
  | cons segment rest ih =>
    obtain ⟨hwhole, hwholes⟩ := List.forall_mem_cons.mp hwholes
    obtain ⟨hbare, hbares⟩ := List.forall_mem_cons.mp hbares
    cases rest with
    | nil => exact isPlain_push hdone hwhole hbare
    | cons next rest => exact ih (isPlain_push hdone hwhole hbare) hwholes hbares

lemma push_last_ne_nil (done : List (List Char)) (segment : List Char) :
    push done segment true ≠ [] := by
  unfold push
  split
  · exact List.cons_ne_nil _ _
  · split <;> exact List.cons_ne_nil _ _

lemma pushAll_ne_nil {segments : List (List Char)} (h : segments ≠ []) (done : List (List Char)) :
    pushAll done segments ≠ [] := by
  induction segments generalizing done with
  | nil => exact absurd rfl h
  | cons segment rest ih =>
    cases rest with
    | nil => exact push_last_ne_nil done segment
    | cons next rest => exact ih (List.cons_ne_nil next rest) _

/-- The path of a URL begins with a slash. -/
lemma normalize_eq_cons (cs : List Char) : ∃ rest, normalize cs = '/' :: rest := by
  have hne := pushAll_ne_nil (Text.splitOn_ne_nil '/' (percentEncode isEncoded cs)) []
  obtain ⟨segment, rest, hsegments⟩ :=
    List.exists_cons_of_ne_nil (List.reverse_ne_nil_iff.mpr hne)
  rw [normalize, hsegments, List.flatMap_cons]
  exact ⟨_, rfl⟩

/-- The path of a URL is plain. -/
lemma isPlain_normalize (cs : List Char) : IsPlain (normalize cs) := by
  have hbare : ∀ s ∈ Text.splitOn '/' (percentEncode isEncoded cs), ∀ c ∈ s, isEncoded c = false :=
    fun s hs c hc => isEncoded_percentEncode (Text.mem_of_mem_splitOn hs hc)
  have hplain : ∀ s ∈ pushAll [] (Text.splitOn '/' (percentEncode isEncoded cs)),
      IsPlainSegment s :=
    isPlain_pushAll (fun _ h => nomatch h) (fun s hs => Text.not_mem_of_mem_splitOn hs) hbare
  intro segment hsegment
  rw [normalize, Text.splitOn_flatMap fun s hs =>
    (hplain s (List.mem_reverse.mp hs)).whole] at hsegment
  rcases List.mem_cons.mp hsegment with rfl | hs
  · exact isPlainSegment_nil
  · exact hplain segment (List.mem_reverse.mp hs)

/-- A path is left as it is exactly if it is plain. -/
lemma normalize_eq_iff {cs : List Char} : normalize cs = '/' :: cs ↔ IsPlain ('/' :: cs) :=
  ⟨fun h => h ▸ isPlain_normalize cs, normalize_of_isPlain⟩

/-- Two dots lead back, and a blank is encoded. -/
example : normalize "run/./x/%2E./a b".toList = "/run/a%20b".toList := by
  decide +kernel

end Path

end Url

end ManagementServer
