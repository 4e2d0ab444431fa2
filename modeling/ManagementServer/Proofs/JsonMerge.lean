import ManagementServer.Json.Merge
import ManagementServer.Proofs.JsonValues

/-!
# Merging values

What a merge holds at each path of keys, and that merges can be grouped in any way unless a value in
the middle holds something else where the values on both sides hold objects (`merge_assoc`).

Values are those whose keys increase. Two such values are the same if they hold the same under every
key, so all that is said of a merge comes from what it holds under one key (`member?_mergeMembers`),
by induction over objects within objects (`objectInduction`).
-/

namespace ManagementServer.Json

/-! ## Members with increasing keys -/

section Members

variable {key : String} {value v : Json} {l l' : List (String × Json)}

/-- The keys of the members increase. -/
abbrev Increasing (members : List (String × Json)) : Prop :=
  members.Pairwise fun a b => a.1 < b.1

lemma mem_of_member? (h : member? key l = some v) : (key, v) ∈ l := by
  induction l with
  | nil => cases h
  | cons m rest ih =>
    rw [member?] at h
    split at h
    · rename_i hkey
      cases h
      exact List.mem_cons.mpr (.inl (by rw [← beq_iff_eq.mp hkey]))
    · exact List.mem_cons_of_mem _ (ih h)

lemma member?_of_forall_lt (h : ∀ m ∈ l, key < m.1) : member? key l = none := by
  cases hfound : member? key l with
  | none => rfl
  | some v => exact absurd (h _ (mem_of_member? hfound)) (String.lt_irrefl key)

lemma member?_cons_self (key : String) (v : Json) (rest : List (String × Json)) :
    member? key ((key, v) :: rest) = some v :=
  if_pos (beq_self_eq_true key)

lemma member?_cons_of_ne {k : String} (h : k ≠ key) (v : Json) (rest : List (String × Json)) :
    member? key ((k, v) :: rest) = member? key rest :=
  if_neg (by simpa using h)

lemma member?_of_mem (h : Increasing l) (hm : (key, v) ∈ l) : member? key l = some v := by
  induction l with
  | nil => cases hm
  | cons m rest ih =>
    obtain ⟨hfirst, hrest⟩ := List.pairwise_cons.mp h
    rcases List.mem_cons.mp hm with rfl | hm
    · exact member?_cons_self key v rest
    · have hne : m.1 ≠ key := String.ne_of_lt (hfirst _ hm)
      rw [member?_cons_of_ne hne m.2, ih hrest hm]

/-- Members with increasing keys are determined by what is found under each key. -/
lemma eq_of_member? (h : Increasing l) (h' : Increasing l')
    (hsame : ∀ key, member? key l = member? key l') : l = l' := by
  induction l generalizing l' with
  | nil =>
    cases l' with
    | nil => rfl
    | cons m' rest' =>
      have hfound := hsame m'.1
      rw [member?_cons_self] at hfound
      cases hfound
  | cons m rest ih =>
    obtain ⟨hfirst, hrest⟩ := List.pairwise_cons.mp h
    cases l' with
    | nil =>
      have hfound := hsame m.1
      rw [member?_cons_self] at hfound
      cases hfound
    | cons m' rest' =>
      obtain ⟨hfirst', hrest'⟩ := List.pairwise_cons.mp h'
      have hm : (m.1, m.2) ∈ m' :: rest' :=
        mem_of_member? ((hsame m.1).symm.trans (member?_cons_self _ _ _))
      have hm' : (m'.1, m'.2) ∈ m :: rest :=
        mem_of_member? ((hsame m'.1).trans (member?_cons_self _ _ _))
      -- Each first member is in the other list, so neither key can be the smaller one.
      obtain rfl : m = m' := by
        rcases List.mem_cons.mp hm with he | hm
        · exact he
        · rcases List.mem_cons.mp hm' with he | hm'
          · exact he.symm
          · exact absurd (String.lt_trans (hfirst _ hm') (hfirst' _ hm)) (String.lt_irrefl _)
      refine congrArg _ (ih hrest hrest' fun key => ?_)
      by_cases hkey : m.1 = key
      · subst hkey
        rw [member?_of_forall_lt hfirst, member?_of_forall_lt hfirst']
      · have hfound := hsame key
        rwa [member?_cons_of_ne hkey, member?_cons_of_ne hkey] at hfound

lemma mem_insertMember {m : String × Json} (h : m ∈ insertMember key value l) :
    m = (key, value) ∨ m ∈ l := by
  induction l with
  | nil => exact .inl (List.mem_singleton.mp h)
  | cons x rest ih =>
    rw [insertMember] at h
    split_ifs at h
    · exact List.mem_cons.mp h
    · exact (List.mem_cons.mp h).imp_right (List.mem_cons_of_mem _)
    · rcases List.mem_cons.mp h with rfl | h
      · exact .inr List.mem_cons_self
      · exact (ih h).imp_right (List.mem_cons_of_mem _)

lemma increasing_insertMember (key : String) (value : Json) (h : Increasing l) :
    Increasing (insertMember key value l) := by
  induction l with
  | nil => exact List.pairwise_singleton _ _
  | cons m rest ih =>
    obtain ⟨hfirst, hrest⟩ := List.pairwise_cons.mp h
    by_cases hlt : key < m.1
    · rw [insertMember_of_lt value m.2 rest hlt]
      refine List.pairwise_cons.mpr ⟨fun x hx => ?_, h⟩
      rcases List.mem_cons.mp hx with rfl | hx
      · exact hlt
      · exact String.lt_trans hlt (hfirst x hx)
    by_cases heq : key = m.1
    · subst heq
      rw [insertMember_self value m.2 rest]
      exact List.pairwise_cons.mpr ⟨hfirst, hrest⟩
    · have hgt : m.1 < key := by
        by_contra hle
        exact heq (String.le_antisymm (String.not_lt.mp hle) (String.not_lt.mp hlt))
      rw [insertMember_of_gt value m.2 rest hgt]
      refine List.pairwise_cons.mpr ⟨fun x hx => ?_, ih hrest⟩
      rcases mem_insertMember hx with rfl | hx
      · exact hgt
      · exact hfirst x hx

end Members

/-! ## Objects within objects -/

/-- Whether a value is an object. -/
def isObject : Json → Bool
  | .object _ => true
  | _ => false

lemma exists_of_isObject {v : Json} (h : v.isObject = true) : ∃ members, v = .object members := by
  cases v with
  | object members => exact ⟨members, rfl⟩
  | _ => cases h

lemma isObject_of_get? {v w : Json} {key : String} (h : v.get? key = some w) :
    v.isObject = true := by
  cases v with
  | object members => rfl
  | _ => cases h

mutual

/-- What holds of everything that is no object, and of an object if it holds of its members, holds
of every value. -/
@[elab_as_elim]
theorem objectInduction {motive : Json → Prop} (leaf : ∀ v : Json, v.isObject = false → motive v)
    (object : ∀ members, (∀ key v, member? key members = some v → motive v) →
      motive (.object members)) : (v : Json) → motive v
  | .null => leaf _ rfl
  | .bool _ => leaf _ rfl
  | .number _ => leaf _ rfl
  | .string _ => leaf _ rfl
  | .array _ => leaf _ rfl
  | .object members => object members (membersInduction leaf object members)

theorem membersInduction {motive : Json → Prop} (leaf : ∀ v : Json, v.isObject = false → motive v)
    (object : ∀ members, (∀ key v, member? key members = some v → motive v) →
      motive (.object members)) :
    (members : List (String × Json)) → ∀ key v, member? key members = some v → motive v
  | [], _, _, h => by cases h
  | (k, v) :: rest, key, w, h => by
    rw [member?] at h
    split at h
    · exact Option.some.inj h ▸ objectInduction leaf object v
    · exact membersInduction leaf object rest key w h

end

lemma membersAreOrdered_iff {members : List (String × Json)} :
    membersAreOrdered members = true ↔ ∀ m ∈ members, m.2.isOrdered = true := by
  induction members with
  | nil => simp [membersAreOrdered]
  | cons m rest ih => simp [membersAreOrdered, ih]

lemma isOrdered_object_iff {members : List (String × Json)} :
    (Json.object members).isOrdered = true ↔
      Increasing members ∧ ∀ m ∈ members, m.2.isOrdered = true := by
  rw [isOrdered, Bool.and_eq_true, decide_eq_true_eq, membersAreOrdered_iff]

lemma isOrdered_of_get? {v w : Json} (h : v.isOrdered = true) {key : String}
    (hw : v.get? key = some w) : w.isOrdered = true := by
  cases v with
  | object members => exact (isOrdered_object_iff.mp h).2 _ (mem_of_member? hw)
  | _ => cases hw

/-! ## What a merge holds -/

lemma merge_of_not_isObject (base : Json) {overlay : Json} (h : overlay.isObject = false) :
    merge base overlay = overlay := by
  cases overlay with
  | object source => cases h
  | _ => rw [merge]; simp

lemma merge_of_base {base : Json} (h : base.isObject = false) (overlay : Json) :
    merge base overlay = overlay := by
  cases overlay with
  | object source =>
    cases base with
    | object target => cases h
    | _ => rw [merge]; simp
  | _ => exact merge_of_not_isObject base rfl

lemma merge_object (target source : List (String × Json)) :
    merge (.object target) (.object source) = .object (mergeMembers target source) := by
  rw [merge]

/-- What is found behind a merge of what was found on both sides. -/
def laid : Option Json → Option Json → Option Json
  | some base, some overlay => some (merge base overlay)
  | some base, none => some base
  | none, overlay => overlay

lemma laid_none (base : Option Json) : laid base none = base := by
  cases base with
  | none => rfl
  | some base => rfl

lemma member?_mergeMembers (target : List (String × Json)) {source : List (String × Json)}
    (h : Increasing source) (key : String) :
    member? key (mergeMembers target source) =
      laid (member? key target) (member? key source) := by
  induction source generalizing target with
  | nil => rw [mergeMembers, member?, laid_none]
  | cons m rest ih =>
    obtain ⟨hfirst, hrest⟩ := List.pairwise_cons.mp h
    rw [mergeMembers, ih _ hrest, member?_insertMember]
    by_cases hkey : m.1 = key
    · subst hkey
      rw [member?_of_forall_lt hfirst, if_pos rfl, laid_none, member?_cons_self]
      cases member? m.1 target with
      | none => rfl
      | some base => rfl
    · rw [if_neg hkey, member?_cons_of_ne hkey]

lemma increasing_mergeMembers {target : List (String × Json)} (h : Increasing target)
    (source : List (String × Json)) : Increasing (mergeMembers target source) := by
  induction source generalizing target with
  | nil => rwa [mergeMembers]
  | cons m rest ih =>
    rw [mergeMembers]
    exact ih (increasing_insertMember _ _ h)

lemma member?_isSome_iff {key : String} {l : List (String × Json)} :
    (member? key l).isSome = true ↔ key ∈ l.map (·.1) := by
  induction l with
  | nil => simp [member?]
  | cons m rest ih =>
    by_cases hkey : m.1 = key
    · subst hkey
      exact iff_of_true (by rw [member?_cons_self]; rfl) (by simp)
    · rw [member?_cons_of_ne hkey, ih, List.map_cons, List.mem_cons]
      exact (or_iff_right (Ne.symm hkey)).symm

/-- The keys of a merge are those of both sides. -/
lemma mem_keys_mergeMembers {target source : List (String × Json)} (h : Increasing source)
    {key : String} : key ∈ (mergeMembers target source).map (·.1) ↔
      key ∈ target.map (·.1) ∨ key ∈ source.map (·.1) := by
  rw [← member?_isSome_iff, ← member?_isSome_iff, ← member?_isSome_iff,
    member?_mergeMembers target h]
  cases member? key target with
  | none => simp [laid]
  | some u =>
    cases member? key source with
    | none => simp [laid]
    | some v => simp [laid]

/-- The later value wins unless both are objects. -/
lemma mem_mergeMembers_of_source {target source : List (String × Json)} (hs : Increasing source)
    {key : String} {v : Json} (hv : (key, v) ∈ source)
    (hkind : ∀ u, (key, u) ∈ target → u.isObject = true → v.isObject = false) :
    (key, v) ∈ mergeMembers target source := by
  refine mem_of_member? ?_
  rw [member?_mergeMembers target hs, member?_of_mem hs hv]
  cases hu : member? key target with
  | none => rfl
  | some u =>
    refine congrArg some ?_
    cases hobject : u.isObject with
    | false => exact merge_of_base hobject v
    | true => exact merge_of_not_isObject u (hkind u (mem_of_member? hu) hobject)

/-- What the later side does not have stays. -/
lemma mem_mergeMembers_of_target {target source : List (String × Json)} (ht : Increasing target)
    (hs : Increasing source) {key : String} {u : Json} (hu : (key, u) ∈ target)
    (hkey : key ∉ source.map (·.1)) : (key, u) ∈ mergeMembers target source := by
  refine mem_of_member? ?_
  have hnone : member? key source = none :=
    Option.not_isSome_iff_eq_none.mp fun hsome => hkey (member?_isSome_iff.mp hsome)
  rw [member?_mergeMembers target hs, member?_of_mem ht hu, hnone]
  rfl

lemma get?_merge {base overlay : Json} (hbase : base.isObject = true)
    (hoverlay : overlay.isObject = true) (h : overlay.isOrdered = true) (key : String) :
    (merge base overlay).get? key = laid (base.get? key) (overlay.get? key) := by
  obtain ⟨target, rfl⟩ := exists_of_isObject hbase
  obtain ⟨source, rfl⟩ := exists_of_isObject hoverlay
  rw [merge_object]
  exact member?_mergeMembers target (isOrdered_object_iff.mp h).1 key

lemma isObject_merge (base overlay : Json) :
    (merge base overlay).isObject = overlay.isObject := by
  cases hoverlay : overlay.isObject with
  | false => rw [merge_of_not_isObject base hoverlay, hoverlay]
  | true =>
    cases hbase : base.isObject with
    | false => rw [merge_of_base hbase, hoverlay]
    | true =>
      obtain ⟨target, rfl⟩ := exists_of_isObject hbase
      obtain ⟨source, rfl⟩ := exists_of_isObject hoverlay
      rw [merge_object]
      rfl

lemma isOrdered_merge {base overlay : Json} (hbase : base.isOrdered = true)
    (h : overlay.isOrdered = true) : (merge base overlay).isOrdered = true := by
  induction overlay using objectInduction generalizing base with
  | leaf overlay hleaf => rwa [merge_of_not_isObject base hleaf]
  | object source ih =>
    cases hobject : base.isObject with
    | false => rwa [merge_of_base hobject]
    | true =>
      obtain ⟨target, rfl⟩ := exists_of_isObject hobject
      have hsource := (isOrdered_object_iff.mp h).1
      have htarget := (isOrdered_object_iff.mp hbase).1
      have hmerged := increasing_mergeMembers htarget source
      rw [merge_object]
      refine isOrdered_object_iff.mpr ⟨hmerged, fun m hm => ?_⟩
      have hfound := member?_of_mem hmerged hm
      rw [member?_mergeMembers target hsource] at hfound
      cases hu : member? m.1 target with
      | none =>
        rw [hu] at hfound
        exact isOrdered_of_get? h hfound
      | some u =>
        have hordered : u.isOrdered = true := isOrdered_of_get? hbase hu
        cases hw : member? m.1 source with
        | none =>
          rw [hu, hw] at hfound
          exact Option.some.inj hfound ▸ hordered
        | some w =>
          rw [hu, hw] at hfound
          exact Option.some.inj hfound ▸ ih m.1 w hw hordered (isOrdered_of_get? h hw)

/-! ## Merging twice -/

/-- A value laid over itself is that value. -/
lemma merge_self {v : Json} (h : v.isOrdered = true) : merge v v = v := by
  induction v using objectInduction with
  | leaf v hleaf => exact merge_of_not_isObject v hleaf
  | object members ih =>
    have hmembers := (isOrdered_object_iff.mp h).1
    rw [merge_object]
    refine congrArg _ (eq_of_member? (increasing_mergeMembers hmembers members) hmembers
      fun key => ?_)
    rw [member?_mergeMembers members hmembers]
    cases hw : member? key members with
    | none => rfl
    | some w => exact congrArg some (ih key w hw (isOrdered_of_get? h hw))

lemma merge_merge_self {base overlay : Json} (hbase : base.isOrdered = true)
    (h : overlay.isOrdered = true) : merge (merge base overlay) overlay = merge base overlay := by
  induction overlay using objectInduction generalizing base with
  | leaf overlay hleaf => rw [merge_of_not_isObject base hleaf, merge_self h]
  | object source ih =>
    cases hobject : base.isObject with
    | false => rw [merge_of_base hobject, merge_self h]
    | true =>
      obtain ⟨target, rfl⟩ := exists_of_isObject hobject
      have hsource := (isOrdered_object_iff.mp h).1
      have hmerged := increasing_mergeMembers (isOrdered_object_iff.mp hbase).1 source
      rw [merge_object, merge_object]
      refine congrArg _ (eq_of_member? (increasing_mergeMembers hmerged source) hmerged
        fun key => ?_)
      rw [member?_mergeMembers _ hsource, member?_mergeMembers _ hsource]
      cases hw : member? key source with
      | none => rw [laid_none]
      | some w =>
        have hordered : w.isOrdered = true := isOrdered_of_get? h hw
        cases hu : member? key target with
        | none => exact congrArg some (merge_self hordered)
        | some u => exact congrArg some (ih key w hw (isOrdered_of_get? hbase hu) hordered)

/-! ## Paths of keys -/

/-- The value at a path of keys, from object to object. -/
def at? : List String → Json → Option Json
  | [], v => some v
  | key :: path, v => v.get? key >>= at? path

lemma at?_cons_eq_some {key : String} {path : List String} {v x : Json} :
    v.at? (key :: path) = some x ↔ ∃ w, v.get? key = some w ∧ w.at? path = some x :=
  Option.bind_eq_some_iff

/-- Where a merge holds a value, one side holds a value there too, and an object if the merge
does. -/
lemma at?_of_merge {base overlay x : Json} (h : overlay.isOrdered = true) {path : List String}
    (hx : (merge base overlay).at? path = some x) :
    (∃ y, base.at? path = some y ∧ y.isObject = x.isObject) ∨
      ∃ y, overlay.at? path = some y ∧ y.isObject = x.isObject := by
  induction path generalizing base overlay with
  | nil =>
    cases hx
    exact .inr ⟨overlay, rfl, (isObject_merge base overlay).symm⟩
  | cons key path ih =>
    cases hbase : base.isObject with
    | false =>
      rw [merge_of_base hbase] at hx
      exact .inr ⟨x, hx, rfl⟩
    | true =>
      cases hoverlay : overlay.isObject with
      | false =>
        rw [merge_of_not_isObject base hoverlay] at hx
        exact .inr ⟨x, hx, rfl⟩
      | true =>
        obtain ⟨w, hw, hx⟩ := at?_cons_eq_some.mp hx
        rw [get?_merge hbase hoverlay h] at hw
        cases hu : base.get? key with
        | none =>
          rw [hu] at hw
          exact .inr ⟨x, at?_cons_eq_some.mpr ⟨w, hw, hx⟩, rfl⟩
        | some u =>
          cases hv : overlay.get? key with
          | none =>
            rw [hu, hv] at hw
            cases hw
            exact .inl ⟨x, at?_cons_eq_some.mpr ⟨_, hu, hx⟩, rfl⟩
          | some v =>
            rw [hu, hv] at hw
            cases hw
            refine (ih (isOrdered_of_get? h hv) hx).imp ?_ ?_
            · rintro ⟨y, hy, hkind⟩
              exact ⟨y, at?_cons_eq_some.mpr ⟨u, hu, hy⟩, hkind⟩
            · rintro ⟨y, hy, hkind⟩
              exact ⟨y, at?_cons_eq_some.mpr ⟨v, hv, hy⟩, hkind⟩

/-- Where both sides hold objects, a merge holds those two merged. -/
lemma at?_merge {base overlay : Json} (h : overlay.isOrdered = true) {path : List String}
    {target source : List (String × Json)} (htarget : base.at? path = some (.object target))
    (hsource : overlay.at? path = some (.object source)) :
    (merge base overlay).at? path = some (.object (mergeMembers target source)) := by
  induction path generalizing base overlay with
  | nil =>
    cases htarget
    cases hsource
    exact congrArg some (merge_object target source)
  | cons key path ih =>
    obtain ⟨u, hu, htarget⟩ := at?_cons_eq_some.mp htarget
    obtain ⟨v, hv, hsource⟩ := at?_cons_eq_some.mp hsource
    refine at?_cons_eq_some.mpr ⟨merge u v, ?_, ih (isOrdered_of_get? h hv) htarget hsource⟩
    rw [get?_merge (isObject_of_get? hu) (isObject_of_get? hv) h, hu, hv]
    rfl

lemma isOrdered_of_at? {v x : Json} (h : v.isOrdered = true) {path : List String}
    (hx : v.at? path = some x) : x.isOrdered = true := by
  induction path generalizing v with
  | nil => exact Option.some.inj hx ▸ h
  | cons key path ih =>
    obtain ⟨w, hw, hx⟩ := at?_cons_eq_some.mp hx
    exact ih (isOrdered_of_get? h hw) hx

/-! ## Merging three values -/

/-- At some path of keys the first and the last value hold objects, and the one between them holds
something else. -/
def Interrupted (a b c : Json) : Prop :=
  ∃ path x y z, a.at? path = some x ∧ b.at? path = some y ∧ c.at? path = some z ∧
    x.isObject = true ∧ y.isObject = false ∧ z.isObject = true

lemma Interrupted.under {a b c a' b' c' : Json} {key : String} (ha : a.get? key = some a')
    (hb : b.get? key = some b') (hc : c.get? key = some c') (h : Interrupted a' b' c') :
    Interrupted a b c := by
  obtain ⟨path, x, y, z, hx, hy, hz, hkinds⟩ := h
  exact ⟨key :: path, x, y, z, at?_cons_eq_some.mpr ⟨a', ha, hx⟩,
    at?_cons_eq_some.mpr ⟨b', hb, hy⟩, at?_cons_eq_some.mpr ⟨c', hc, hz⟩, hkinds⟩

/-- An interruption is at the top, or under a key of all three. -/
lemma Interrupted.cases {a b c : Json} (h : Interrupted a b c) :
    b.isObject = false ∨ ∃ key a' b' c', a.get? key = some a' ∧ b.get? key = some b' ∧
      c.get? key = some c' ∧ Interrupted a' b' c' := by
  obtain ⟨path, x, y, z, hx, hy, hz, hkinds⟩ := h
  cases path with
  | nil =>
    cases hy
    exact .inl hkinds.2.1
  | cons key path =>
    obtain ⟨a', ha, hx⟩ := at?_cons_eq_some.mp hx
    obtain ⟨b', hb, hy⟩ := at?_cons_eq_some.mp hy
    obtain ⟨c', hc, hz⟩ := at?_cons_eq_some.mp hz
    exact .inr ⟨key, a', b', c', ha, hb, hc, path, x, y, z, hx, hy, hz, hkinds⟩

/-- What is no object interrupts nothing, and is not interrupted. -/
lemma Interrupted.isObject {a b c : Json} (h : Interrupted a b c) :
    a.isObject = true ∧ c.isObject = true := by
  obtain ⟨path, x, y, z, hx, hy, hz, hx', hy', hz'⟩ := h
  cases path with
  | nil =>
    cases hx
    cases hz
    exact ⟨hx', hz'⟩
  | cons key path =>
    obtain ⟨a', ha, hx⟩ := at?_cons_eq_some.mp hx
    obtain ⟨c', hc, hz⟩ := at?_cons_eq_some.mp hz
    exact ⟨isObject_of_get? ha, isObject_of_get? hc⟩

lemma laid_assoc {a b c : Option Json}
    (h : ∀ x y z, a = some x → b = some y → c = some z →
      merge (merge x y) z = merge x (merge y z)) : laid (laid a b) c = laid a (laid b c) := by
  cases a with
  | none => rfl
  | some x =>
    cases b with
    | none => rfl
    | some y =>
      cases c with
      | none => rfl
      | some z => exact congrArg some (h x y z rfl rfl rfl)

/-- Merges can be grouped either way unless the value in the middle interrupts the others. -/
lemma merge_assoc {a b c : Json} (ha : a.isOrdered = true) (hb : b.isOrdered = true)
    (hc : c.isOrdered = true) (h : ¬ Interrupted a b c) :
    merge (merge a b) c = merge a (merge b c) := by
  induction c using objectInduction generalizing a b with
  | leaf c hleaf =>
    rw [merge_of_not_isObject _ hleaf, merge_of_not_isObject b hleaf,
      merge_of_not_isObject a hleaf]
  | object last ih =>
    cases hfirst : a.isObject with
    | false => rw [merge_of_base hfirst, merge_of_base hfirst]
    | true =>
      cases hmiddle : b.isObject with
      | false => exact absurd ⟨[], a, b, .object last, rfl, rfl, rfl, hfirst, hmiddle, rfl⟩ h
      | true =>
        obtain ⟨first, rfl⟩ := exists_of_isObject hfirst
        obtain ⟨middle, rfl⟩ := exists_of_isObject hmiddle
        have hlast := (isOrdered_object_iff.mp hc).1
        have hbetween := (isOrdered_object_iff.mp hb).1
        have hbefore := (isOrdered_object_iff.mp ha).1
        simp only [merge_object]
        refine congrArg _ (eq_of_member?
          (increasing_mergeMembers (increasing_mergeMembers hbefore middle) last)
          (increasing_mergeMembers hbefore _) fun key => ?_)
        rw [member?_mergeMembers _ hlast, member?_mergeMembers _ hbetween,
          member?_mergeMembers _ (increasing_mergeMembers hbetween last),
          member?_mergeMembers _ hlast]
        refine laid_assoc fun x y z hx hy hz => ?_
        exact ih key z hz (isOrdered_of_get? ha hx) (isOrdered_of_get? hb hy)
          (isOrdered_of_get? hc hz) fun hinner => h (hinner.under hx hy hz)

end ManagementServer.Json
