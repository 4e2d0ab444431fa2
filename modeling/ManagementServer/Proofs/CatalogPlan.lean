import ManagementServer.Proofs.Descriptors
import ManagementServer.Proofs.RegistryHistory
import Mathlib.Data.List.Pairwise

/-!
# What a manifest asks for

Which of the registered modules stay under a manifest (`settle`), which entries of the manifest are
to be loaded (`wanted`), and what comes of loading them one after the other (`trials`).
-/

namespace ManagementServer

namespace Manifest

/-- What the validation of a manifest ensures. -/
structure Valid (m : Manifest) : Prop where
  entries : ∀ x ∈ m.modules, x.fault? = none
  names : (m.modules.map (·.name)).Nodup
  repositories : (m.modules.filterMap (·.repository)).Nodup

/-- A valid entry before others that are valid behind it. -/
lemma faultBehind?_cons {names repositories : List String} {x : Entry} {rest : List Entry}
    (h : faultBehind? names repositories (x :: rest) = none) :
    x.fault? = none ∧ x.name ∉ names ∧
      ((x.repository = none ∧ faultBehind? (x.name :: names) repositories rest = none) ∨
        ∃ repository ∉ repositories, x.repository = some repository ∧
          faultBehind? (x.name :: names) (repository :: repositories) rest = none) := by
  unfold faultBehind? at h
  cases hf : x.fault? with
  | some fault => simp [hf] at h
  | none =>
    by_cases hn : x.name ∈ names
    · simp [hf, hn] at h
    · simp only [hf, List.contains_iff_mem, hn, if_false] at h
      refine ⟨rfl, hn, ?_⟩
      cases hr : x.repository with
      | none =>
        simp only [hr] at h
        exact Or.inl ⟨rfl, h⟩
      | some repository =>
        simp only [hr] at h
        split at h
        · cases h
        · rename_i hin
          exact Or.inr ⟨repository, hin, rfl, h⟩

lemma faultBehind?_eq_none {names repositories : List String} {xs : List Entry}
    (h : faultBehind? names repositories xs = none) :
    (∀ x ∈ xs, x.fault? = none) ∧
      ((xs.map (·.name)).Nodup ∧ ∀ x ∈ xs, x.name ∉ names) ∧
      (xs.filterMap (·.repository)).Nodup ∧
        ∀ repository ∈ xs.filterMap (·.repository), repository ∉ repositories := by
  induction xs generalizing names repositories with
  | nil => simp
  | cons x rest ih =>
    obtain ⟨hf, hn, hrest⟩ := faultBehind?_cons h
    have hnames : ((rest.map (·.name)).Nodup ∧ ∀ y ∈ rest, y.name ∉ x.name :: names) →
        ((x :: rest).map (·.name)).Nodup ∧ ∀ y ∈ x :: rest, y.name ∉ names := by
      rintro ⟨hnodup, hfresh⟩
      constructor
      · refine List.nodup_cons.mpr ⟨fun hc => ?_, hnodup⟩
        obtain ⟨y, hy, he⟩ := List.mem_map.mp hc
        exact hfresh y hy (he ▸ List.mem_cons_self)
      · refine List.forall_mem_cons.mpr ⟨hn, fun y hy hc => ?_⟩
        exact hfresh y hy (List.mem_cons_of_mem _ hc)
    rcases hrest with ⟨hr, hrest⟩ | ⟨repository, hin, hr, hrest⟩
    · obtain ⟨hfaults, hfresh, hrepositories⟩ := ih hrest
      refine ⟨List.forall_mem_cons.mpr ⟨hf, hfaults⟩, hnames hfresh, ?_⟩
      rw [List.filterMap_cons_none hr]
      exact hrepositories
    · obtain ⟨hfaults, hfresh, hunique, hfree⟩ := ih hrest
      refine ⟨List.forall_mem_cons.mpr ⟨hf, hfaults⟩, hnames hfresh, ?_⟩
      rw [List.filterMap_cons_some hr]
      refine ⟨List.nodup_cons.mpr ⟨fun hc => ?_, hunique⟩, ?_⟩
      · exact hfree repository hc List.mem_cons_self
      · refine List.forall_mem_cons.mpr ⟨hin, fun other ho hc => ?_⟩
        exact hfree other ho (List.mem_cons_of_mem _ hc)

lemma valid_of_fault? {m : Manifest} (h : m.fault? = none) : m.Valid := by
  obtain ⟨hfaults, ⟨hnames, -⟩, hrepositories, -⟩ := faultBehind?_eq_none h
  exact ⟨hfaults, hnames, hrepositories⟩

lemma mem_of_get? {m : Manifest} {name : String} {x : Entry} (h : m.get? name = some x) :
    x ∈ m.modules ∧ x.name = name :=
  ⟨List.mem_of_find?_eq_some h, by simpa using List.find?_some h⟩

lemma Valid.get?_of_mem {m : Manifest} (h : m.Valid) {x : Entry} (hx : x ∈ m.modules) :
    m.get? x.name = some x := by
  cases hf : m.get? x.name with
  | none =>
    have := List.find?_eq_none.mp hf x hx
    simp at this
  | some y =>
    obtain ⟨hy, he⟩ := mem_of_get? hf
    rw [List.inj_on_of_nodup_map h.names hy hx he]

lemma Valid.eq_of_repository {m : Manifest} (h : m.Valid) {x y : Entry} (hx : x ∈ m.modules)
    (hy : y ∈ m.modules) {repository : String} (hxr : x.repository = some repository)
    (hyr : y.repository = some repository) : x = y :=
  eq_of_nodup_filterMap h.repositories hx hy hxr hyr

lemma Entry.fault?_eq_none {x : Entry} (h : x.fault? = none) :
    Text.isBlank x.name = false ∧ (∀ o ∈ x.operations, Text.isBlank o = false) ∧
      x.repository.any Text.isBlank = false := by
  unfold Entry.fault? at h
  cases hn : Text.isBlank x.name with
  | true => simp [hn] at h
  | false =>
    cases hi : (x.capabilities ++ x.operations).find? Text.isBlank with
    | some item => simp [hn, hi] at h
    | none =>
      cases hr : x.repository.any Text.isBlank with
      | true => simp [hn, hi, hr] at h
      | false =>
        refine ⟨rfl, fun o ho => ?_, rfl⟩
        have := List.find?_eq_none.mp hi o (List.mem_append_right _ ho)
        simpa using this

end Manifest

namespace Catalog

open Device (DeviceModule Handle Implementations ModuleError Outcome Registry Repository Response)

lemma descriptorFor_fault? {x : Manifest.Entry} (h : x.fault? = none) :
    (descriptorFor x).fault? = none := by
  obtain ⟨hname, hoperations, hrepository⟩ := Manifest.Entry.fault?_eq_none h
  have hany : (descriptorFor x).operations.any Text.isBlank = false := by
    refine List.any_eq_false.mpr fun o ho => ?_
    rw [hoperations o (Device.mem_sortOperations ho)]
    exact Bool.false_ne_true
  have howned : ((descriptorFor x).repository.any fun r => Text.isBlank r.name) = false := by
    change (x.repository.map Repository.mk).any (fun r => Text.isBlank r.name) = false
    rw [Option.any_map]
    exact hrepository
  have hblank : Text.isBlank (descriptorFor x).name = false := hname
  unfold Device.Descriptor.fault?
  rw [hblank, hany, howned]
  rfl

/-- Every registered module has the descriptor of an entry. -/
def Conforms {μ : Type} (m : Manifest) (r : Registry μ) : Prop :=
  ∀ e ∈ r.entries, ∃ x ∈ m.modules, e.descriptor = descriptorFor x

/-- Where every registered module has the descriptor of a manifest's entry, another entry can be
registered without a conflict. -/
lemma conflict?_eq_none {μ : Type} {m : Manifest} (h : m.Valid) {r : Registry μ}
    (hr : Conforms m r) {x : Manifest.Entry} (hx : x ∈ m.modules)
    (hn : x.name ∉ r.entries.map (·.name)) : r.conflict? (descriptorFor x) = none := by
  refine Registry.conflict?_eq_none_iff.mpr ⟨descriptorFor_fault? (h.entries x hx), hn, ?_⟩
  intro repository hrepository hc
  obtain ⟨e, he, howned⟩ := List.mem_filterMap.mp hc
  obtain ⟨y, hy, hd⟩ := hr e he
  rw [hd] at howned
  obtain ⟨owned, hyr, rfl⟩ := Option.map_eq_some_iff.mp howned
  obtain ⟨claimed, hxr, hq⟩ := Option.map_eq_some_iff.mp hrepository
  obtain rfl : claimed = owned := congrArg Repository.name hq
  obtain rfl := h.eq_of_repository hx hy hxr hyr
  refine hn (List.mem_map.mpr ⟨e, he, ?_⟩)
  exact congrArg Device.Descriptor.name hd

/-! ## The first pass -/

/-- A registered module under a manifest: it stays, with the permission of its entry, where the
entry asks for the same descriptor otherwise. -/
def settle (m : Manifest) (e : Device.Entry) : Option Device.Entry :=
  match m.get? e.name with
  | none => none
  | some x =>
    if { e.descriptor with allowed := x.allowed } = descriptorFor x then
      some ⟨e.handle, descriptorFor x⟩
    else none

/-- The modules that stay. -/
def kept (m : Manifest) (es : List Device.Entry) : List Device.Entry := es.filterMap (settle m)

/-- The modules that do not stay. -/
def dropped (m : Manifest) (es : List Device.Entry) : List Device.Entry :=
  es.filter fun e => (settle m e).isNone

/-- The registered names that the manifest does not list. -/
def unlisted (m : Manifest) (es : List Device.Entry) : List String :=
  (es.filter fun e => (m.get? e.name).isNone).map (·.name)

/-- The names of the modules that stay with another permission. -/
def toggled (m : Manifest) (es : List Device.Entry) : List String :=
  (es.filter fun e =>
    (settle m e).any (·.descriptor.allowed != e.descriptor.allowed)).map (·.name)

/-- The names of the modules that do not stay though the manifest lists them. -/
def outdated (m : Manifest) (es : List Device.Entry) : List String :=
  (es.filter fun e => (m.get? e.name).isSome && (settle m e).isNone).map (·.name)

/-- The entries that are to be loaded. -/
def wanted (m : Manifest) (es : List Device.Entry) : List Manifest.Entry :=
  m.modules.filter fun x => x.name ∉ (kept m es).map (·.name)

lemma settle_eq_some {m : Manifest} {e e' : Device.Entry} (h : settle m e = some e') :
    e'.handle = e.handle ∧ e'.name = e.name ∧
      ∃ x ∈ m.modules, x.name = e.name ∧ e'.descriptor = descriptorFor x ∧
        { e.descriptor with allowed := x.allowed } = descriptorFor x := by
  unfold settle at h
  cases hx : m.get? e.name with
  | none => simp [hx] at h
  | some x =>
    simp only [hx] at h
    split at h
    · rename_i hd
      obtain rfl := Option.some.inj h
      obtain ⟨hm, hname⟩ := Manifest.mem_of_get? hx
      exact ⟨rfl, hname, x, hm, hname, rfl, hd⟩
    · cases h

lemma get?_isSome_of_settle {m : Manifest} {e e' : Device.Entry} (h : settle m e = some e') :
    (m.get? e.name).isSome := by
  unfold settle at h
  cases hx : m.get? e.name with
  | none => simp [hx] at h
  | some x => rfl

/-- What the decision on a module means for the plan. -/
lemma fate_spec (m : Manifest) (e : Device.Entry) :
    match fate m e.descriptor with
    | .keep => settle m e = some e
    | .allow allowed =>
      settle m e = some { e with descriptor := { e.descriptor with allowed } } ∧
        allowed ≠ e.descriptor.allowed
    | .replace => settle m e = none ∧ (m.get? e.name).isSome
    | .remove => settle m e = none ∧ m.get? e.name = none := by
  have hname : m.get? e.descriptor.name = m.get? e.name := rfl
  unfold fate settle
  rw [hname]
  cases hx : m.get? e.name with
  | none => exact ⟨rfl, rfl⟩
  | some x =>
    have hallowed : (descriptorFor x).allowed = x.allowed := rfl
    simp only [hallowed]
    by_cases hd : { e.descriptor with allowed := x.allowed } = descriptorFor x
    · by_cases ha : e.descriptor.allowed = x.allowed
      · have he : e.descriptor = descriptorFor x := by
          rw [← hd, ← ha]
        simp only [hd, ha, bne_self_eq_false, Bool.false_eq_true, if_false, if_true]
        rw [← he]
      · simp [hd, ha, Ne.symm ha]
    · simp [hd]

lemma kept_handles_sublist (m : Manifest) (es : List Device.Entry) :
    ((kept m es).map (·.handle)).Sublist (es.map (·.handle)) := by
  induction es with
  | nil => exact List.Sublist.refl _
  | cons e rest ih =>
    cases hs : settle m e with
    | none =>
      rw [kept, List.filterMap_cons_none hs]
      exact ih.cons _
    | some e' =>
      rw [kept, List.filterMap_cons_some hs, List.map_cons, (settle_eq_some hs).1]
      exact ih.cons_cons _

lemma kept_names_sublist (m : Manifest) (es : List Device.Entry) :
    ((kept m es).map (·.name)).Sublist (es.map (·.name)) := by
  induction es with
  | nil => exact List.Sublist.refl _
  | cons e rest ih =>
    cases hs : settle m e with
    | none =>
      rw [kept, List.filterMap_cons_none hs]
      exact ih.cons _
    | some e' =>
      rw [kept, List.filterMap_cons_some hs, List.map_cons, (settle_eq_some hs).2.1]
      exact ih.cons_cons _

lemma mem_wanted {m : Manifest} {es : List Device.Entry} {x : Manifest.Entry} :
    x ∈ wanted m es ↔ x ∈ m.modules ∧ x.name ∉ (kept m es).map (·.name) := by
  rw [wanted, List.mem_filter, decide_eq_true_eq]

lemma mem_kept_names {m : Manifest} {es : List Device.Entry} {e : Device.Entry} (he : e ∈ es)
    (hs : (settle m e).isSome) : e.name ∈ (kept m es).map (·.name) := by
  obtain ⟨e', hs⟩ := Option.isSome_iff_exists.mp hs
  have hm : e' ∈ kept m es := List.mem_filterMap.mpr ⟨e, he, hs⟩
  exact List.mem_map.mpr ⟨e', hm, (settle_eq_some hs).2.1⟩

/-- The entries to be loaded whose names were registered are those of replaced modules. -/
lemma mem_outdated {m : Manifest} (h : m.Valid) {es : List Device.Entry} {x : Manifest.Entry}
    (hx : x ∈ wanted m es) : x.name ∈ outdated m es ↔ x.name ∈ es.map (·.name) := by
  obtain ⟨hm, hn⟩ := mem_wanted.mp hx
  constructor
  · intro ho
    obtain ⟨e, he, hname⟩ := List.mem_map.mp ho
    exact List.mem_map.mpr ⟨e, (List.mem_filter.mp he).1, hname⟩
  · intro ho
    obtain ⟨e, he, hname⟩ := List.mem_map.mp ho
    have hlisted : (m.get? e.name).isSome := by
      rw [hname, h.get?_of_mem hm]
      rfl
    have hsettle : (settle m e).isNone := by
      rw [← Option.not_isSome, Bool.not_eq_true']
      rw [← Bool.not_eq_true]
      intro hs
      exact hn (hname ▸ mem_kept_names he hs)
    refine List.mem_map.mpr ⟨e, List.mem_filter.mpr ⟨he, ?_⟩, hname⟩
    rw [hlisted, hsettle]
    rfl

lemma get?_of_mem_unlisted {m : Manifest} {es : List Device.Entry} {name : String}
    (h : name ∈ unlisted m es) : m.get? name = none := by
  obtain ⟨e, he, rfl⟩ := List.mem_map.mp h
  exact Option.isNone_iff_eq_none.mp (List.mem_filter.mp he).2

lemma settle_of_mem_toggled {m : Manifest} {es : List Device.Entry} {name : String}
    (h : name ∈ toggled m es) : ∃ e ∈ es, e.name = name ∧ (settle m e).isSome := by
  obtain ⟨e, he, rfl⟩ := List.mem_map.mp h
  obtain ⟨hm, ha⟩ := List.mem_filter.mp he
  refine ⟨e, hm, rfl, ?_⟩
  cases hs : settle m e with
  | none => simp [hs] at ha
  | some e' => rfl

/-! ## The second pass -/

variable {μ : Type}

/-- What comes of the attempt to load an entry: it is refused before a module is initialised, or
else the module answers its initialiser. -/
inductive Attempt (μ : Type) where
  | refused (error : ModuleError)
  | answered (response : Response μ (Except String Json))

/-- An entry that was attempted, with the handle that was the next one then. -/
structure Trial (μ : Type) where
  entry : Manifest.Entry
  handle : Handle
  attempt : Attempt μ

namespace Trial

/-- The name of the entry. -/
def name (t : Trial μ) : String := t.entry.name

/-- How the initialisation ended, if there was one. -/
def outcome? (t : Trial μ) : Option (Outcome (Except String Json)) :=
  match t.attempt with
  | .refused _ => none
  | .answered response => some response.outcome

/-- Whether a module was loaded. -/
def isLoaded (t : Trial μ) : Bool := t.outcome?.any (·.isReady)

/-- Whether the initialisation crashed. -/
def isCrash (t : Trial μ) : Bool := t.outcome?.any (·.isCrash)

/-- Whether the entry could not be loaded. -/
def isFailure (t : Trial μ) : Bool := !t.isLoaded && !t.isCrash

/-- The next handle behind the attempt. -/
def next (t : Trial μ) : Nat :=
  if t.outcome?.isSome then t.handle.number + 1 else t.handle.number

/-- The entry of the registry for a module that was loaded. -/
def registered (t : Trial μ) : Device.Entry := ⟨t.handle, descriptorFor t.entry⟩

/-- The call of the initialiser, if there was one. -/
def call? (t : Trial μ) : Option Device.Call :=
  t.outcome?.map fun outcome =>
    .initialised t.handle t.name (t.entry.repository.map Repository.mk) outcome.isReady

/-- The module as it is behind its initialisation. -/
def instance? (t : Trial μ) : Option (Device.Instance μ) :=
  match t.attempt with
  | .refused _ => none
  | .answered response => some ⟨t.handle, response.module, response.outcome.isCrash⟩

end Trial

lemma Trial.le_next (t : Trial μ) : t.handle.number ≤ t.next := by
  unfold next
  split
  · omega
  · omega

lemma Trial.answered_of_isLoaded {t : Trial μ} (h : t.isLoaded) :
    ∃ response, t.attempt = .answered response := by
  cases ha : t.attempt with
  | refused error => simp [isLoaded, outcome?, ha] at h
  | answered response => exact ⟨response, rfl⟩

lemma Trial.instance?_eq_some {t : Trial μ} {i : Device.Instance μ} (h : t.instance? = some i) :
    i.handle = t.handle ∧ t.outcome?.isSome := by
  unfold instance? at h
  unfold outcome?
  cases ha : t.attempt with
  | refused error => simp [ha] at h
  | answered response =>
    simp only [ha] at h
    obtain rfl := Option.some.inj h
    exact ⟨rfl, rfl⟩

lemma Trial.call?_eq_some {t : Trial μ} {c : Device.Call} (h : t.call? = some c) :
    c.handle = t.handle ∧ t.outcome?.isSome := by
  obtain ⟨outcome, ho, rfl⟩ := Option.map_eq_some_iff.mp h
  exact ⟨rfl, Option.isSome_iff_exists.mpr ⟨outcome, ho⟩⟩

/-- Among attempts that take increasing handles, what an attempt yields is all that the attempts
yield for its handle. -/
lemma filter_handle_eq {β : Type} {ts : List (Trial μ)}
    (hts : ts.Pairwise fun t t' => t.outcome?.isSome → t.handle.number < t'.handle.number)
    (g : Trial μ → Option β) (key : β → Handle)
    (hg : ∀ t b, g t = some b → key b = t.handle ∧ t.outcome?.isSome) {t : Trial μ} (ht : t ∈ ts)
    {b : β} (hb : g t = some b) :
    (ts.filterMap g).filter (fun b => key b == t.handle) = [b] := by
  induction ts with
  | nil => cases ht
  | cons first rest ih =>
    obtain ⟨hfirst, hrest⟩ := List.pairwise_cons.mp hts
    rcases List.mem_cons.mp ht with rfl | ht
    · obtain ⟨hkey, hsome⟩ := hg t b hb
      rw [List.filterMap_cons_some hb, List.filter_cons_of_pos (by simpa using hkey)]
      refine congrArg (b :: ·) (List.filter_eq_nil_iff.mpr fun b' hb' hc => ?_)
      obtain ⟨t', ht', hg'⟩ := List.mem_filterMap.mp hb'
      have hlt := hfirst t' ht' hsome
      have hkey' : t'.handle = t.handle := (hg t' b' hg').1.symm.trans (by simpa using hc)
      rw [hkey'] at hlt
      omega
    · cases hf : g first with
      | none =>
        rw [List.filterMap_cons_none hf]
        exact ih hrest ht
      | some b' =>
        obtain ⟨hkey, hsome⟩ := hg first b' hf
        have hlt := hfirst t ht hsome
        have hne : key b' ≠ t.handle := by
          rw [hkey]
          intro hc
          rw [hc] at hlt
          omega
        rw [List.filterMap_cons_some hf, List.filter_cons_of_neg (by simpa using hne)]
        exact ih hrest ht

lemma handle_mem_dropped {m : Manifest} {es : List Device.Entry}
    (hes : (es.map (·.handle)).Nodup) {e : Device.Entry} (he : e ∈ es) :
    e.handle ∈ (dropped m es).map (·.handle) ↔ (settle m e).isNone := by
  constructor
  · intro hc
    obtain ⟨other, ho, hh⟩ := List.mem_map.mp hc
    obtain ⟨hm, hn⟩ := List.mem_filter.mp ho
    rwa [List.inj_on_of_nodup_map hes hm he hh] at hn
  · intro hs
    exact List.mem_map_of_mem (List.mem_filter.mpr ⟨he, hs⟩)

lemma closings_trials (handle : Handle) (ts : List (Trial μ)) :
    Device.closings handle (ts.filterMap (·.call?)) = 0 := by
  refine Device.closings_eq_zero fun c hc => ?_
  obtain ⟨t, -, ht⟩ := List.mem_filterMap.mp hc
  obtain ⟨outcome, -, rfl⟩ := Option.map_eq_some_iff.mp ht
  rfl

lemma closings_dropped {m : Manifest} {es : List Device.Entry} (hes : (es.map (·.handle)).Nodup)
    {e : Device.Entry} (he : e ∈ es) :
    Device.closings e.handle ((dropped m es).map (·.closing)) =
      if (settle m e).isNone then 1 else 0 := by
  rw [Device.closings_map_closing]
  by_cases hs : (settle m e).isNone
  · rw [if_pos hs]
    apply List.count_eq_one_of_mem (hes.sublist (List.filter_sublist.map _))
    exact (handle_mem_dropped hes he).mpr hs
  · rw [if_neg hs]
    exact List.count_eq_zero.mpr fun hc => hs ((handle_mem_dropped hes he).mp hc)

/-! ## The report -/

/-- What is to be reported of a pass over some registered modules, with the attempts made. -/
def report (m : Manifest) (es : List Device.Entry) (ts : List (Trial μ)) : Summary where
  added := (ts.filter fun t => t.isLoaded && !(es.map (·.name)).contains t.name).map (·.name)
  removed := unlisted m es
  updated := toggled m es ++
    (ts.filter fun t => t.isLoaded && (es.map (·.name)).contains t.name).map (·.name)
  failed := (ts.filter (·.isFailure)).map (·.name)

lemma disjoint_names {ts : List (Trial μ)} (h : (ts.map (·.name)).Nodup) {p q : Trial μ → Bool}
    (hpq : ∀ t, p t = true → q t = true → False) :
    List.Disjoint ((ts.filter p).map (·.name)) ((ts.filter q).map (·.name)) := by
  intro name hp hq
  obtain ⟨t, ht, rfl⟩ := List.mem_map.mp hp
  obtain ⟨t', ht', hname⟩ := List.mem_map.mp hq
  obtain ⟨htm, htp⟩ := List.mem_filter.mp ht
  obtain ⟨htm', htq⟩ := List.mem_filter.mp ht'
  obtain rfl := List.inj_on_of_nodup_map h htm' htm hname
  exact hpq t' htp htq

lemma disjoint_failed {ts : List (Trial μ)} (h : (ts.map (·.name)).Nodup) (p : Trial μ → Bool) :
    List.Disjoint ((ts.filter fun t => t.isLoaded && p t).map (·.name))
      ((ts.filter (·.isFailure)).map (·.name)) := by
  refine disjoint_names h fun t hp hf => ?_
  rw [Trial.isFailure, Bool.and_eq_true] at hf
  rw [Bool.and_eq_true] at hp
  rw [hp.1] at hf
  exact Bool.false_ne_true hf.1

lemma disjoint_unlisted_toggled (m : Manifest) (es : List Device.Entry) :
    List.Disjoint (unlisted m es) (toggled m es) := by
  intro name hu ht
  obtain ⟨e, he, rfl, hs⟩ := settle_of_mem_toggled ht
  obtain ⟨e', hs⟩ := Option.isSome_iff_exists.mp hs
  have hsome := get?_isSome_of_settle hs
  rw [get?_of_mem_unlisted hu] at hsome
  cases hsome

section Wanted

variable {m : Manifest} {es : List Device.Entry} {ts : List (Trial μ)}

lemma mem_wanted_of_trial (hts : ts.map (·.entry) <+: wanted m es) {p : Trial μ → Bool}
    {name : String} (h : name ∈ (ts.filter p).map (·.name)) :
    ∃ x ∈ wanted m es, x.name = name := by
  obtain ⟨t, ht, rfl⟩ := List.mem_map.mp h
  exact ⟨t.entry, hts.subset (List.mem_map_of_mem (List.mem_filter.mp ht).1), rfl⟩

lemma trial_names_nodup (h : m.Valid) (hts : ts.map (·.entry) <+: wanted m es) :
    (ts.map (·.name)).Nodup := by
  have hwanted : ((wanted m es).map (·.name)).Nodup := h.names.sublist (List.filter_sublist.map _)
  have hmap := hwanted.sublist (hts.sublist.map (·.name))
  rwa [List.map_map] at hmap

lemma disjoint_unlisted (h : m.Valid) (hts : ts.map (·.entry) <+: wanted m es)
    (p : Trial μ → Bool) : List.Disjoint (unlisted m es) ((ts.filter p).map (·.name)) := by
  intro name hu hn
  obtain ⟨x, hx, rfl⟩ := mem_wanted_of_trial hts hn
  have hnone := get?_of_mem_unlisted hu
  rw [h.get?_of_mem (mem_wanted.mp hx).1] at hnone
  cases hnone

lemma disjoint_toggled (hts : ts.map (·.entry) <+: wanted m es) (p : Trial μ → Bool) :
    List.Disjoint (toggled m es) ((ts.filter p).map (·.name)) := by
  intro name hu hn
  obtain ⟨x, hx, rfl⟩ := mem_wanted_of_trial hts hn
  obtain ⟨e, he, hname, hs⟩ := settle_of_mem_toggled hu
  have hin := mem_kept_names he hs
  rw [hname] at hin
  exact (mem_wanted.mp hx).2 hin

/-- No name is reported twice. -/
lemma report_nodup (h : m.Valid) (hes : (es.map (·.name)).Nodup)
    (hts : ts.map (·.entry) <+: wanted m es) :
    ((report m es ts).removed ++ (report m es ts).added ++ (report m es ts).updated ++
      (report m es ts).failed).Nodup := by
  have hnames := trial_names_nodup h hts
  have hpart : ∀ p : Trial μ → Bool, ((ts.filter p).map (·.name)).Nodup := fun p =>
    hnames.sublist (List.filter_sublist.map _)
  have hlisted := disjoint_unlisted h hts
  have htoggled := disjoint_toggled hts
  have hremoved : (unlisted m es).Nodup := hes.sublist (List.filter_sublist.map _)
  have hkept : (toggled m es).Nodup := hes.sublist (List.filter_sublist.map _)
  unfold report
  refine List.Nodup.append (List.Nodup.append (List.Nodup.append hremoved (hpart _) (hlisted _))
    (List.Nodup.append hkept (hpart _) (htoggled _)) ?_) (hpart _) ?_
  · refine List.disjoint_append_left.mpr ⟨?_, ?_⟩
    · exact List.disjoint_append_right.mpr ⟨disjoint_unlisted_toggled m es, hlisted _⟩
    · refine List.disjoint_append_right.mpr
        ⟨fun name hn ht => htoggled _ ht hn, disjoint_names hnames fun t hp hq => ?_⟩
      rw [Bool.and_eq_true] at hp hq
      rw [hq.2] at hp
      exact Bool.false_ne_true hp.2
  · refine List.disjoint_append_left.mpr ⟨?_, ?_⟩
    · exact List.disjoint_append_left.mpr ⟨hlisted _, disjoint_failed hnames _⟩
    · exact List.disjoint_append_left.mpr ⟨htoggled _, disjoint_failed hnames _⟩

end Wanted

/-! ## The attempts -/

variable [DeviceModule μ]

/-- Attempts to load an entry when some handle is the next. -/
def attempt (env : Environment) (f : Implementations μ) (next : Nat) (x : Manifest.Entry) :
    Attempt μ :=
  match f.instantiate x.resolved with
  | .error error => .refused error
  | .ok module =>
    if Handle.bound ≤ next + 1 then .refused .handlesExhausted
    else .answered (DeviceModule.init env ⟨⟨next⟩, x.name, x.repository.map Repository.mk⟩ module)

/-- The attempt with an entry when some handle is the next. -/
def trial (env : Environment) (f : Implementations μ) (next : Nat) (x : Manifest.Entry) : Trial μ :=
  ⟨x, ⟨next⟩, attempt env f next x⟩

/-- Attempts to load entries one after the other. Every initialisation takes a handle, and one that
crashes is the last. -/
def trials (env : Environment) (f : Implementations μ) : Nat → List Manifest.Entry → List (Trial μ)
  | _, [] => []
  | next, x :: rest =>
    trial env f next x ::
      if (trial env f next x).isCrash then [] else trials env f (trial env f next x).next rest

/-- The attempts that a pass over a registry makes. -/
def planned (env : Environment) (f : Implementations μ) (m : Manifest) (r : Registry μ) :
    List (Trial μ) :=
  trials env f r.nextHandle (wanted m r.entries)

lemma trials_prefix (env : Environment) (f : Implementations μ) (next : Nat)
    (xs : List Manifest.Entry) : ((trials env f next xs).map (·.entry)) <+: xs := by
  induction xs generalizing next with
  | nil => exact List.prefix_refl _
  | cons x rest ih =>
    unfold trials
    apply (List.prefix_cons_inj x).mpr
    split
    · exact List.nil_prefix
    · exact ih _

lemma trials_complete {env : Environment} {f : Implementations μ} {next : Nat}
    {xs : List Manifest.Entry} (h : ∀ t ∈ trials env f next xs, t.isCrash = false) :
    (trials env f next xs).map (·.entry) = xs := by
  induction xs generalizing next with
  | nil => rfl
  | cons x rest ih =>
    unfold trials at h ⊢
    obtain ⟨hfirst, hrest⟩ := List.forall_mem_cons.mp h
    rw [hfirst, if_neg Bool.false_ne_true] at hrest ⊢
    rw [List.map_cons, ih hrest]
    rfl

lemma trials_handle_le {env : Environment} {f : Implementations μ} {next : Nat}
    {xs : List Manifest.Entry} {t : Trial μ} (h : t ∈ trials env f next xs) :
    next ≤ t.handle.number := by
  induction xs generalizing next with
  | nil => cases h
  | cons x rest ih =>
    unfold trials at h
    rcases List.mem_cons.mp h with rfl | h
    · exact Nat.le_refl _
    · split at h
      · cases h
      · exact Nat.le_trans (Trial.le_next (trial env f next x)) (ih h)

/-- No two initialised modules were given the same handle. -/
lemma trials_handles (env : Environment) (f : Implementations μ) (next : Nat)
    (xs : List Manifest.Entry) :
    (trials env f next xs).Pairwise fun t t' =>
      t.outcome?.isSome → t.handle.number < t'.handle.number := by
  induction xs generalizing next with
  | nil => exact List.Pairwise.nil
  | cons x rest ih =>
    unfold trials
    split
    · exact List.pairwise_singleton _ _
    · refine List.pairwise_cons.mpr ⟨fun t ht hsome => ?_, ih _⟩
      refine Nat.lt_of_lt_of_le ?_ (trials_handle_le ht)
      rw [Trial.next, if_pos hsome]
      omega

end Catalog

end ManagementServer
