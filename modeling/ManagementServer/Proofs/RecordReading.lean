import ManagementServer.Proofs.JsonValues

/-!
# Reading records

`Record.Takes` says from which contents of its fields a record is read as a value. It is put
together the way records are, field by field, and a record or a tagged message that is written with
these contents is then read as that value (`Record.read_present`, `Tagged.read_present`).
-/

namespace ManagementServer

/-- What the fields of a record hold, in their order; a field may be left out. -/
abbrev Contents := List (String × Option Json)

def Contents.present (contents : Contents) : List (String × Json) :=
  contents.filterMap fun field => field.2.map (field.1, ·)

/-- Nothing is wrong with the fields when they are met, and together they make up the value. -/
structure Record.Takes {α : Type} (r : Record α) (contents : Contents) (a : α) : Prop where
  names : contents.map (·.1) = r.fields.map (·.1)
  checks : ∀ name v, (name, some v) ∈ contents →
    ∃ check, (name, check) ∈ r.fields ∧ check (.ofJson v) = .ok ()
  builds : ∀ members, (∀ field ∈ contents,
    Record.lookup? field.1 members = field.2.map Draft.ofJson) → r.ofMembers members = .ok a

namespace Record

variable {α β : Type}

/-! ## One field after the other -/

lemma takes_pure (a : α) : (pure a : Record α).Takes [] a :=
  ⟨rfl, fun _ _ h => absurd h List.not_mem_nil, fun _ _ => rfl⟩

lemma takes_field {decode : Decoder α} {v : Json} {a : α} (h : decode (.ofJson v) = .ok a)
    (name : String) (absent : Option α) : (field name decode absent).Takes [(name, some v)] a where
  names := rfl
  checks other w hm := by
    obtain ⟨rfl, rfl⟩ : other = name ∧ w = v := by simpa using hm
    exact ⟨_, List.mem_singleton_self _, by rw [h]; rfl⟩
  builds members hl := by
    have hv : lookup? name members = some (.ofJson v) := hl _ (List.mem_singleton_self _)
    simp only [field, hv, h]

lemma takes_absent (name : String) (decode : Decoder α) (a : α) :
    (defaulted name decode a).Takes [(name, none)] a where
  names := rfl
  checks other w hm := by simp at hm
  builds members hl := by
    have hv : lookup? name members = none := hl _ (List.mem_singleton_self _)
    simp only [defaulted, field, hv]

lemma takes_required {decode : Decoder α} {v : Json} {a : α} (h : decode (.ofJson v) = .ok a)
    (name : String) : (required name decode).Takes [(name, some v)] a :=
  takes_field h name none

lemma takes_text (name text : String) :
    (required name Decoder.text).Takes [(name, some (.string text))] text :=
  takes_required (by rfl) name

lemma takes_flag (name : String) (flag : Bool) :
    (required name Decoder.bool).Takes [(name, some (.bool flag))] flag :=
  takes_required (by rfl) name

lemma takes_optional (decode : Decoder α) (write : α → String)
    (h : ∀ a, decode (.string (some (write a))) = .ok a) (name : String) (o : Option α) :
    (optional name decode).Takes [(name, o.map fun a => .string (write a))] o := by
  cases o with
  | none => exact takes_absent name _ none
  | some a =>
    refine takes_field ?_ name _
    rw [Draft.ofJson, Decoder.optional, h]
    · rfl
    · exact Draft.noConfusion

lemma Takes.seq {f : Record (α → β)} {x : Record α} {fs xs : Contents} {g : α → β} {a : α}
    (hf : f.Takes fs g) (hx : x.Takes xs a) : (f <*> x).Takes (fs ++ xs) (g a) where
  names := by
    change (fs ++ xs).map (·.1) = (f.fields ++ x.fields).map (·.1)
    rw [List.map_append, List.map_append, hf.names, hx.names]
  checks name v hm := by
    change ∃ check, (name, check) ∈ f.fields ++ x.fields ∧ _
    rcases List.mem_append.mp hm with hm | hm
    · obtain ⟨check, hc, hok⟩ := hf.checks name v hm
      exact ⟨check, List.mem_append_left _ hc, hok⟩
    · obtain ⟨check, hc, hok⟩ := hx.checks name v hm
      exact ⟨check, List.mem_append_right _ hc, hok⟩
  builds members hl := by
    have hg := hf.builds members fun field hm => hl field (List.mem_append_left _ hm)
    have ha := hx.builds members fun field hm => hl field (List.mem_append_right _ hm)
    change (do let g ← f.ofMembers members; let a ← x.ofMembers members; return g a) = _
    rw [hg, ha]
    rfl

lemma Takes.map (f : α → β) {x : Record α} {xs : Contents} {a : α} (hx : x.Takes xs a) :
    (f <$> x).Takes xs (f a) :=
  (takes_pure f).seq hx

/-! ## All fields together -/

lemma find?_of_nodup {γ : Type} {l : List (String × γ)} (hl : (l.map (·.1)).Nodup) {x : String × γ}
    (h : x ∈ l) : l.find? (·.1 == x.1) = some x := by
  induction l with
  | nil => cases h
  | cons y rest ih =>
    obtain ⟨hy, hrest⟩ := List.nodup_cons.mp hl
    rcases List.mem_cons.mp h with rfl | hm
    · exact List.find?_cons_of_pos (beq_self_eq_true _)
    · have hne : y.1 ≠ x.1 := by
        intro he
        exact hy (List.mem_map.mpr ⟨x, hm, he.symm⟩)
      rw [List.find?_cons_of_neg (by simpa using hne), ih hrest hm]

lemma lookup?_of_not_mem {key : String} (contents : Contents) (h : key ∉ contents.map (·.1)) :
    lookup? key (Draft.ofMembers contents.present) = none := by
  induction contents with
  | nil => rfl
  | cons field rest ih =>
    obtain ⟨name, o⟩ := field
    rw [List.map_cons, List.mem_cons, not_or] at h
    cases o with
    | none => exact ih h.2
    | some v =>
      change (if name == key then _ else lookup? key (Draft.ofMembers (Contents.present rest))) =
        none
      rw [if_neg fun he => h.1 (eq_of_beq he).symm]
      exact ih h.2

lemma lookup?_present {contents : Contents} (hn : (contents.map (·.1)).Nodup)
    {field : String × Option Json} (h : field ∈ contents) :
    lookup? field.1 (Draft.ofMembers contents.present) = field.2.map Draft.ofJson := by
  induction contents with
  | nil => cases h
  | cons first rest ih =>
    obtain ⟨name, o⟩ := first
    obtain ⟨hfirst, hrest⟩ := List.nodup_cons.mp hn
    rcases List.mem_cons.mp h with rfl | hm
    · cases o with
      | none => exact lookup?_of_not_mem rest hfirst
      | some v => exact if_pos (beq_self_eq_true name)
    · cases o with
      | none => exact ih hrest hm
      | some v =>
        have hne : name ≠ field.1 := by
          intro he
          exact hfirst (List.mem_map.mpr ⟨field, hm, he.symm⟩)
        change (if name == field.1 then _ else
          lookup? field.1 (Draft.ofMembers (Contents.present rest))) = _
        rw [if_neg fun he => hne (eq_of_beq he)]
        exact ih hrest hm

lemma checkMembers_present {r : Record α} (hr : (r.fields.map (·.1)).Nodup) {contents : Contents}
    (hchecks : ∀ name v, (name, some v) ∈ contents →
      ∃ check, (name, check) ∈ r.fields ∧ check (.ofJson v) = .ok ())
    (hn : (contents.map (·.1)).Nodup) (seen : List String)
    (hseen : ∀ name ∈ seen, name ∉ contents.map (·.1)) :
    r.checkMembers seen (Draft.ofMembers contents.present) = .ok () := by
  induction contents generalizing seen with
  | nil => rfl
  | cons first rest ih =>
    obtain ⟨name, o⟩ := first
    obtain ⟨hfirst, hrest⟩ := List.nodup_cons.mp hn
    have hlater := fun other v hm => hchecks other v (List.mem_cons_of_mem _ hm)
    have hunseen : ∀ other ∈ seen, other ∉ rest.map (·.1) := fun other ho hm =>
      hseen other ho (List.mem_cons_of_mem _ hm)
    cases o with
    | none => exact ih hlater hrest seen hunseen
    | some v =>
      obtain ⟨check, hc, hok⟩ := hchecks name v List.mem_cons_self
      have hnew : name ∉ seen := fun hm => hseen name hm List.mem_cons_self
      have hfind : r.fields.find? (·.1 == name) = some (name, check) := find?_of_nodup hr hc
      have hmore : ∀ other ∈ name :: seen, other ∉ rest.map (·.1) := by
        intro other ho
        rcases List.mem_cons.mp ho with rfl | ho
        · exact hfirst
        · exact hunseen other ho
      change r.checkMembers seen ((name, .ofJson v) :: Draft.ofMembers (Contents.present rest)) = _
      rw [checkMembers, hfind]
      simp only [List.contains_eq_mem, hnew, decide_false, Bool.false_eq_true, if_false, hok]
      exact ih hlater hrest (name :: seen) hmore

/-- A record that is written with contents that it takes is read as the value that they make up. -/
theorem read_present {r : Record α} {contents : Contents} {a : α} (h : r.Takes contents a)
    (hr : (r.fields.map (·.1)).Nodup) (excess : DecodeError) :
    r.read excess (.ofJson (.object contents.present)) = .ok a := by
  have hn : (contents.map (·.1)).Nodup := h.names ▸ hr
  have hcheck := checkMembers_present hr h.checks hn [] (by simp)
  have hbuild := h.builds _ fun field hm => lookup?_present hn hm
  rw [Draft.ofJson, read, hcheck, hbuild]
  rfl

end Record

namespace Tagged

variable {α : Type}

/-- Members of which none is the tag are kept for the case. -/
lemma splitMembers_ofMembers {t : Tagged α} (r : Record α) {members : List (String × Json)}
    (h : t.tag ∉ members.map (·.1)) (others : List (String × Draft)) :
    t.splitMembers (some r) others (Draft.ofMembers members) =
      .ok (some r, others.reverse ++ Draft.ofMembers members) := by
  induction members generalizing others with
  | nil => rw [Draft.ofMembers, splitMembers, List.append_nil]
  | cons m rest ih =>
    obtain ⟨key, v⟩ := m
    rw [List.map_cons, List.mem_cons, not_or] at h
    have hkey : ¬ (key == t.tag) = true := fun he => h.1 (eq_of_beq he).symm
    have hwhole : Decoder.whole (.ofJson v) = .ok () := by
      obtain ⟨w, hw⟩ := Option.isSome_iff_exists.mp (Json.toJson?_ofJson_isSome v)
      rw [Decoder.whole, hw]
    rw [Draft.ofMembers, splitMembers, if_neg hkey, hwhole]
    change t.splitMembers (some r) ((key, .ofJson v) :: others) (Draft.ofMembers rest) = _
    rw [ih h.2, List.reverse_cons, List.append_assoc, List.singleton_append]

/-- A tagged message that is written with its tag first and contents that its case takes is read as
the value that they make up. -/
theorem read_present {t : Tagged α} {name : String} {r : Record α} {contents : Contents} {a : α}
    (hcase : t.cases.lookup name = some r) (h : r.Takes contents a)
    (hr : (t.tag :: r.fields.map (·.1)).Nodup) :
    t.read (.ofJson (.object ((t.tag, .string name) :: contents.present))) = .ok a := by
  obtain ⟨htag, hnames⟩ := List.nodup_cons.mp hr
  rw [← h.names] at htag
  have hmembers : t.tag ∉ contents.present.map (·.1) := by
    intro hm
    obtain ⟨m, hm, he⟩ := List.mem_map.mp hm
    obtain ⟨field, hfield, hf⟩ := List.mem_filterMap.mp hm
    obtain ⟨v, _, rfl⟩ := Option.map_eq_some_iff.mp hf
    exact htag (he ▸ List.mem_map_of_mem hfield)
  have hsplit : t.splitMembers none []
      (Draft.ofMembers ((t.tag, .string name) :: contents.present)) =
      .ok (some r, Draft.ofMembers contents.present) := by
    rw [Draft.ofMembers, Draft.ofJson, splitMembers, if_pos (beq_self_eq_true t.tag)]
    simp only [case?, Decoder.named, hcase]
    exact splitMembers_ofMembers r hmembers []
  have hread := Record.read_present h hnames .invalidLength
  rw [Draft.ofJson] at hread ⊢
  rw [read, hsplit]
  exact hread

end Tagged

end ManagementServer
