import ManagementServer.Catalog
import ManagementServer.Proofs.ModuleRegistry

/-!
# Histories of the module registry

A registry is used by any sequence of operations (`Operation`), and all the module calls so far are
its history. `Registry.Sound` holds of every registry and its history: names, repositories and
handles are used once, and a module was initialised with success at least once more than it was
closed if it is registered. Where no module crashes when it is closed, that is exact
(`Registry.Balanced`): what was initialised and is no longer registered was closed.
-/

namespace ManagementServer.Device

open ManagementServer.Action (Preserves)

variable {μ : Type}

namespace Registry

/-- What holds of a registry behind any operations, with the module calls so far. -/
structure Sound (r : Registry μ) (history : List Call) : Prop where
  names : (r.entries.map (·.name)).Nodup
  repositories : (r.entries.filterMap (·.descriptor.repository)).Nodup
  ordered : (r.entries.map (·.handle)).Pairwise (·.number < ·.number)
  built : ∀ handle ∈ r.entries.map (·.handle), handle ∈ r.instances.map (·.handle)
  issued : ∀ handle ∈ r.instances.map (·.handle), handle.number < r.nextHandle
  called : ∀ c ∈ history, c.handle ∈ r.instances.map (·.handle)
  balance : ∀ handle, closings handle history + (r.entries.map (·.handle)).count handle ≤
    openings handle history
  once : ∀ handle, openings handle history ≤ 1
  numbered : (history.filterMap (·.issued?)).Pairwise (·.number < ·.number)
  bounded : r.nextHandle < Handle.bound

lemma count_of_perm {es es' left kept : List Entry} (h : es.Perm (es' ++ (left ++ kept)))
    (handle : Handle) : (es.map (·.handle)).count handle =
      (es'.map (·.handle)).count handle + ((left.map (·.handle)).count handle +
        (kept.map (·.handle)).count handle) := by
  rw [(h.map _).count_eq, List.map_append, List.count_append, List.map_append, List.count_append]

lemma sound_ofBus (bus : Event.Bus) : Sound (ofBus bus : Registry μ) [] := by
  refine ⟨List.nodup_nil, List.nodup_nil, List.Pairwise.nil, ?_, ?_, ?_, fun _ => Nat.le_refl 0,
    fun _ => Nat.zero_le 1, List.Pairwise.nil, Nat.zero_lt_succ _⟩
  · exact fun _ h => nomatch h
  · exact fun _ h => nomatch h
  · exact fun _ h => nomatch h

namespace Sound

variable {r r' : Registry μ} {history : List Call}

lemma handles (h : Sound r history) : (r.entries.map (·.handle)).Nodup := by
  apply h.ordered.imp
  rintro a b hlt rfl
  omega

lemma below (h : Sound r history) {e : Entry} (he : e ∈ r.entries) :
    e.handle.number < r.nextHandle := by
  apply h.issued
  apply h.built
  exact List.mem_map_of_mem he

lemma closings_eq_zero (h : Sound r history) {e : Entry} (he : e ∈ r.entries) :
    closings e.handle history = 0 := by
  have hpos : 0 < (r.entries.map (·.handle)).count e.handle :=
    List.count_pos_iff.mpr (List.mem_map_of_mem he)
  have hbalance := h.balance e.handle
  have honce := h.once e.handle
  omega

lemma fresh (h : Sound r history) {handle : Handle} (hn : r.nextHandle ≤ handle.number) :
    handle ∉ r.instances.map (·.handle) := by
  intro hc
  have := h.issued handle hc
  omega

lemma openings_fresh (h : Sound r history) {handle : Handle} (hn : r.nextHandle ≤ handle.number) :
    openings handle history = 0 := by
  refine openings_eq_zero fun c hc => Call.opens_of_ne ?_
  rintro rfl
  exact h.fresh hn (h.called c hc)

lemma issued_lt (h : Sound r history) {handle : Handle}
    (hm : handle ∈ history.filterMap (·.issued?)) : handle.number < r.nextHandle := by
  obtain ⟨c, hc, hi⟩ := List.mem_filterMap.mp hm
  have heq : c.handle = handle := by
    cases c with
    | initialised other name repository succeeded => exact Option.some.inj hi
    | executed => cases hi
    | stateRead => cases hi
    | closed => cases hi
  exact heq ▸ h.issued c.handle (h.called c hc)

/-- The entries may change where their names, repositories and handles stay the same, and modules
that were ever initialised may be asked for something. -/
lemma of_alike (h : Sound r history) {calls : List Call}
    (hnames : r'.entries.map (·.name) = r.entries.map (·.name))
    (hrepositories : r'.entries.filterMap (·.descriptor.repository) =
      r.entries.filterMap (·.descriptor.repository))
    (hhandles : r'.entries.map (·.handle) = r.entries.map (·.handle))
    (hnext : r'.nextHandle = r.nextHandle)
    (hinstances : r'.instances.map (·.handle) = r.instances.map (·.handle))
    (hcalls : ∀ c ∈ calls, c.isRequest ∧ c.handle ∈ r.instances.map (·.handle)) :
    Sound r' (history ++ calls) := by
  have hopens : ∀ handle, openings handle calls = 0 := fun handle =>
    openings_eq_zero fun c hc => (Call.of_isRequest (hcalls c hc).1 handle).1
  have hcloses : ∀ handle, closings handle calls = 0 := fun handle =>
    Device.closings_eq_zero fun c hc => (Call.of_isRequest (hcalls c hc).1 handle).2.1
  have hissues : calls.filterMap (·.issued?) = [] := List.filterMap_eq_nil_iff.mpr fun c hc =>
    (Call.of_isRequest (hcalls c hc).1 c.handle).2.2
  refine ⟨hnames ▸ h.names, hrepositories ▸ h.repositories, hhandles ▸ h.ordered, ?_, ?_, ?_, ?_,
    ?_, ?_, hnext ▸ h.bounded⟩
  · rw [hhandles, hinstances]
    exact h.built
  · rw [hinstances, hnext]
    exact h.issued
  · intro c hc
    rw [hinstances]
    rcases List.mem_append.mp hc with hc | hc
    · exact h.called c hc
    · exact (hcalls c hc).2
  · intro handle
    rw [openings_append, closings_append, hopens, hcloses, hhandles]
    exact h.balance handle
  · intro handle
    rw [openings_append, hopens]
    exact h.once handle
  · rw [List.filterMap_append, hissues, List.append_nil]
    exact h.numbered

/-- Some of the registered modules are closed, others are left out, and neither are registered any
more. -/
lemma of_closed (h : Sound r history) {es left : List Entry} (hsub : r'.entries.Sublist r.entries)
    (hperm : r.entries.Perm (es ++ (left ++ r'.entries))) (hnext : r'.nextHandle = r.nextHandle)
    (hinstances : r'.instances.map (·.handle) = r.instances.map (·.handle)) :
    Sound r' (history ++ es.map (·.closing)) := by
  refine ⟨h.names.sublist (hsub.map _), h.repositories.sublist (hsub.filterMap _),
    h.ordered.sublist (hsub.map _), ?_, ?_, ?_, ?_, ?_, ?_, hnext ▸ h.bounded⟩
  · intro handle hm
    rw [hinstances]
    exact h.built handle ((hsub.map _).subset hm)
  · rw [hinstances, hnext]
    exact h.issued
  · intro c hc
    rw [hinstances]
    rcases List.mem_append.mp hc with hc | hc
    · exact h.called c hc
    · obtain ⟨e, he, rfl⟩ := List.mem_map.mp hc
      have hm : e ∈ r.entries := hperm.mem_iff.mpr (List.mem_append_left _ he)
      exact h.built e.handle (List.mem_map_of_mem hm)
  · intro handle
    have hcount := count_of_perm hperm handle
    have hbalance := h.balance handle
    rw [openings_append, closings_append, openings_map_closing, closings_map_closing]
    omega
  · intro handle
    rw [openings_append, openings_map_closing]
    exact h.once handle
  · have hissues : (es.map (·.closing)).filterMap (·.issued?) = [] := by
      rw [List.filterMap_map]
      exact List.filterMap_eq_nil_iff.mpr fun _ _ => rfl
    rw [List.filterMap_append, hissues, List.append_nil]
    exact h.numbered

section Enrolled

variable {d : Descriptor} {handle : Handle}

lemma names_enrolled (h : Sound r history) (hd : d.name ∉ r.entries.map (·.name))
    (outcome : Outcome (Except String Json)) :
    ((r.entries ++ enrolled d handle outcome).map (·.name)).Nodup := by
  rcases enrolled_cases d handle outcome with he | he
  · rw [he, List.map_append]
    exact h.names.append (List.nodup_singleton _) (List.disjoint_singleton.mpr hd)
  · rw [he, List.append_nil]
    exact h.names

lemma repositories_enrolled (h : Sound r history)
    (hd : ∀ repository, d.repository = some repository →
      repository ∉ r.entries.filterMap (·.descriptor.repository))
    (outcome : Outcome (Except String Json)) :
    ((r.entries ++ enrolled d handle outcome).filterMap (·.descriptor.repository)).Nodup := by
  rcases enrolled_cases d handle outcome with he | he
  · rw [he, List.filterMap_append]
    cases hr : d.repository with
    | none => simpa [hr] using h.repositories
    | some repository =>
      have hs : [Entry.mk handle d].filterMap (·.descriptor.repository) = [repository] := by
        simp [hr]
      rw [hs]
      apply h.repositories.append (List.nodup_singleton _)
      exact List.disjoint_singleton.mpr (hd repository hr)
  · rw [he, List.append_nil]
    exact h.repositories

lemma ordered_enrolled (h : Sound r history) (hn : r.nextHandle ≤ handle.number)
    (outcome : Outcome (Except String Json)) :
    ((r.entries ++ enrolled d handle outcome).map (·.handle)).Pairwise (·.number < ·.number) := by
  rcases enrolled_cases d handle outcome with he | he
  · rw [he, List.map_append]
    refine List.pairwise_append.mpr ⟨h.ordered, List.pairwise_singleton _ _, ?_⟩
    intro old hm new hnew
    have hlt := h.issued old (h.built old hm)
    rw [List.mem_singleton.mp hnew]
    change old.number < handle.number
    omega
  · rw [he, List.append_nil]
    exact h.ordered

end Enrolled

/-- A module is initialised, and registered unless that fails. -/
lemma of_issued (h : Sound r history) {d : Descriptor} (hd : r.conflict? d = none)
    (hn : r.nextHandle + 1 < Handle.bound) (module : μ) (outcome : Outcome (Except String Json))
    (bus : Event.Bus) :
    Sound
      { r.issue module outcome.isCrash with
        entries := r.entries ++ enrolled d ⟨r.nextHandle⟩ outcome
        bus }
      (history ++ [.initialised ⟨r.nextHandle⟩ d.name d.repository outcome.isReady]) := by
  obtain ⟨-, hname, hrepository⟩ := conflict?_eq_none_iff.mp hd
  have hinstances : (r.issue module outcome.isCrash).instances.map (·.handle) =
      r.instances.map (·.handle) ++ [⟨r.nextHandle⟩] := by
    simp [issue]
  refine ⟨h.names_enrolled hname outcome, h.repositories_enrolled hrepository outcome,
    h.ordered_enrolled (Nat.le_refl _) outcome, ?_, ?_, ?_, ?_, ?_, ?_, hn⟩
  · intro handle hm
    rw [List.map_append] at hm
    rw [hinstances]
    rcases List.mem_append.mp hm with hm | hm
    · exact List.mem_append_left _ (h.built handle hm)
    · exact List.mem_append_right _ (handle_mem_enrolled hm)
  · intro handle hm
    rw [hinstances] at hm
    change handle.number < r.nextHandle + 1
    rcases List.mem_append.mp hm with hm | hm
    · have := h.issued handle hm
      omega
    · rw [List.mem_singleton.mp hm]
      exact Nat.lt_succ_self _
  · intro c hc
    rw [hinstances]
    rcases List.mem_append.mp hc with hc | hc
    · exact List.mem_append_left _ (h.called c hc)
    · rw [List.mem_singleton.mp hc]
      exact List.mem_append_right _ List.mem_cons_self
  · intro handle
    have hbalance := h.balance handle
    have hcloses : closings handle
        [.initialised ⟨r.nextHandle⟩ d.name d.repository outcome.isReady] = 0 := rfl
    rw [openings_append, closings_append, openings_initialised, hcloses, List.map_append,
      List.count_append]
    omega
  · intro handle
    have honce := h.once handle
    rw [openings_append]
    by_cases hne : handle = ⟨r.nextHandle⟩
    · have hzero : openings handle history = 0 :=
        h.openings_fresh (hne ▸ Nat.le_refl r.nextHandle)
      have hle : openings handle
          [.initialised ⟨r.nextHandle⟩ d.name d.repository outcome.isReady] ≤ 1 :=
        List.countP_le_length
      omega
    · have hzero : openings handle
          [.initialised ⟨r.nextHandle⟩ d.name d.repository outcome.isReady] = 0 := by
        refine openings_eq_zero fun c hc => Call.opens_of_ne ?_
        rw [List.mem_singleton.mp hc]
        exact Ne.symm hne
      omega
  · rw [List.filterMap_append]
    refine List.pairwise_append.mpr ⟨h.numbered, List.pairwise_singleton _ _, ?_⟩
    intro old hold new hnew
    have hlt := h.issued_lt hold
    rw [List.mem_singleton.mp hnew]
    exact hlt

end Sound

/-! ## One operation -/

/-- What an operation does to a registry, with its module calls and with the entries that it takes
out without closing their modules. -/
inductive Alters (r : Registry μ) : Registry μ → List Call → List Entry → Prop
  | serves {r' : Registry μ} {calls : List Call} (serves : Serves r r' calls) : Alters r r' calls []
  | allows (name : String) (allowed : Bool) :
      Alters r { r with entries := allow name allowed r.entries } [] []
  | closes {r' : Registry μ} {es left : List Entry} (sublist : r'.entries.Sublist r.entries)
      (perm : r.entries.Perm (es ++ (left ++ r'.entries)))
      (nextHandle : r'.nextHandle = r.nextHandle)
      (handles : r'.instances.map (·.handle) = r.instances.map (·.handle)) :
      Alters r r' (es.map (·.closing)) left
  | issues {d : Descriptor} (conflict : r.conflict? d = none)
      (bounded : r.nextHandle + 1 < Handle.bound) (module : μ)
      (outcome : Outcome (Except String Json)) (bus : Event.Bus) :
      Alters r
        { r.issue module outcome.isCrash with
          entries := r.entries ++ enrolled d ⟨r.nextHandle⟩ outcome
          bus }
        [.initialised ⟨r.nextHandle⟩ d.name d.repository outcome.isReady] []

lemma alters_refl (r : Registry μ) : Alters r r [] [] := .serves (serves_refl r)

section Alters

variable {r r' : Registry μ} {history calls : List Call} {left : List Entry}

lemma Sound.alters (h : Sound r history) (ha : Alters r r' calls left) :
    Sound r' (history ++ calls) := by
  cases ha with
  | serves serves =>
    exact h.of_alike (by rw [serves.entries]) (by rw [serves.entries]) (by rw [serves.entries])
      serves.nextHandle serves.handles serves.requests
  | allows name allowed =>
    have hrepositories : (allow name allowed r.entries).filterMap (·.descriptor.repository) =
        r.entries.filterMap (·.descriptor.repository) := by
      have hmap := allow_map (·.descriptor.repository) name allowed r.entries fun _ => rfl
      have hfilter := congrArg (List.filterMap id) hmap
      rw [List.filterMap_map, List.filterMap_map] at hfilter
      exact hfilter
    refine h.of_alike ?_ hrepositories ?_ rfl rfl fun c hc => by cases hc
    · exact allow_map _ _ _ _ fun _ => rfl
    · exact allow_map _ _ _ _ fun _ => rfl
  | closes sublist perm nextHandle handles => exact h.of_closed sublist perm nextHandle handles
  | issues conflict bounded module outcome bus =>
    exact h.of_issued conflict bounded module outcome bus

/-- Between two registries, what is initialised is registered or closed, and nothing else is. -/
def Balances (r r' : Registry μ) (calls : List Call) : Prop := ∀ handle,
  openings handle calls + (r.entries.map (·.handle)).count handle =
    closings handle calls + (r'.entries.map (·.handle)).count handle

lemma balances_refl (r : Registry μ) : Balances r r [] := fun _ => rfl

lemma Balances.trans {r'' : Registry μ} {calls' : List Call} (h : Balances r r' calls)
    (h' : Balances r' r'' calls') : Balances r r'' (calls ++ calls') := by
  intro handle
  have hfirst := h handle
  have hsecond := h' handle
  rw [openings_append, closings_append]
  omega

/-- Only entries that are left out unbalance a registry. -/
lemma Alters.balances (ha : Alters r r' calls []) : Balances r r' calls := by
  intro handle
  cases ha with
  | serves serves =>
    rw [openings_eq_zero fun c hc => (Call.of_isRequest (serves.requests c hc).1 handle).1,
      closings_eq_zero fun c hc => (Call.of_isRequest (serves.requests c hc).1 handle).2.1,
      serves.entries]
  | allows name allowed =>
    rw [allow_map (·.handle) name allowed r.entries fun _ => rfl]
    rfl
  | closes sublist perm nextHandle handles =>
    have hcount := count_of_perm perm handle
    rw [openings_map_closing, closings_map_closing]
    simp only [List.map_nil, List.count_nil] at hcount
    omega
  | @issues d conflict bounded module outcome bus =>
    have hcloses : closings handle
        [.initialised ⟨r.nextHandle⟩ d.name d.repository outcome.isReady] = 0 := rfl
    rw [openings_initialised, hcloses, List.map_append, List.count_append]
    omega

lemma Sound.of_serves (h : Sound r history) (hs : Serves r r' calls) :
    Sound r' (history ++ calls) :=
  h.alters (.serves hs)

/-- What holds of a registry and its history if every module that was taken out was closed. -/
structure Balanced (r : Registry μ) (history : List Call) : Prop extends Sound r history where
  complete : ∀ handle, openings handle history =
    closings handle history + (r.entries.map (·.handle)).count handle

lemma balanced_ofBus (bus : Event.Bus) : Balanced (ofBus bus : Registry μ) [] :=
  ⟨sound_ofBus bus, fun _ => rfl⟩

namespace Balanced

lemma step (h : Balanced r history) (hs : Sound r' (history ++ calls))
    (hb : Balances r r' calls) : Balanced r' (history ++ calls) := by
  refine ⟨hs, fun handle => ?_⟩
  have hcomplete := h.complete handle
  have hbalance := hb handle
  rw [openings_append, closings_append]
  omega

lemma alters (h : Balanced r history) (ha : Alters r r' calls []) :
    Balanced r' (history ++ calls) :=
  h.step (h.toSound.alters ha) ha.balances

lemma closings_eq (h : Balanced r history) (handle : Handle) :
    closings handle history =
      if openings handle history = 1 ∧ handle ∉ r.entries.map (·.handle) then 1 else 0 := by
  have hcomplete := h.complete handle
  have honce := h.once handle
  by_cases hm : handle ∈ r.entries.map (·.handle)
  · have hcount : (r.entries.map (·.handle)).count handle = 1 :=
      List.count_eq_one_of_mem h.handles hm
    rw [if_neg fun hc => hc.2 hm]
    omega
  · have hcount : (r.entries.map (·.handle)).count handle = 0 := List.count_eq_zero.mpr hm
    by_cases ho : openings handle history = 1
    · rw [if_pos ⟨ho, hm⟩]
      omega
    · rw [if_neg fun hc => ho hc.1]
      omega

end Balanced

end Alters

lemma alters_setAllowed (name : String) (allowed : Bool) (r : Registry μ) :
    Alters r (setAllowed name allowed r).state (setAllowed name allowed r).calls [] := by
  by_cases hm : name ∈ r.entries.map (·.name)
  · obtain ⟨-, hs, hc⟩ := setAllowed_of_mem allowed hm
    rw [hs, hc]
    exact .allows name allowed
  · obtain ⟨hs, hc⟩ := setAllowed_of_not_mem allowed hm
    rw [hs, hc]
    exact alters_refl r

section Operations

variable [DeviceModule μ]

lemma alters_add (env : Environment) (d : Descriptor) (module : μ) (r : Registry μ) :
    Alters r (add env d module r).state (add env d module r).calls [] := by
  cases hd : r.conflict? d with
  | some error =>
    rw [add_of_conflict env module hd]
    exact alters_refl r
  | none =>
    rw [add_of_no_conflict env module hd]
    split
    next => exact alters_refl r
    next hn =>
      obtain ⟨-, ⟨bus, hs⟩, hc⟩ := initialise_spec env d module r rfl
      rw [hs, hc]
      exact .issues hd (Nat.not_le.mp hn) _ _ bus

lemma alters_unload (env : Environment) (handle : Handle) {r : Registry μ}
    (h : (r.entries.map (·.handle)).Nodup) :
    Alters r (unload env handle r).state (unload env handle r).calls [] := by
  by_cases hm : handle ∈ r.entries.map (·.handle)
  · obtain ⟨e, he, rfl⟩ := List.mem_map.mp hm
    obtain ⟨ht, hc, -⟩ := unload_of_mem env h he
    rw [hc]
    change Alters r _ ([e].map (·.closing)) []
    refine Alters.closes ?_ ?_ ht.nextHandle ht.handles
    · rw [ht.entries]
      exact List.filter_sublist
    · rw [ht.entries]
      exact perm_cons_filter h he
  · rw [unload_of_not_mem env hm]
    exact alters_refl r

/-- All modules are taken out; those behind a crash are left out. -/
lemma alters_unloadAll (env : Environment) {r : Registry μ} (h : (r.entries.map (·.handle)).Nodup)
    {left : List Entry} (hleft : r.upToCrash r.entries.reverse ++ left = r.entries.reverse) :
    Alters r (unloadAll env r).state (unloadAll env r).calls left := by
  obtain ⟨he, hn, hi, hc⟩ := unloadAll_spec env h
  rw [hc]
  refine .closes ?_ ?_ hn hi
  · rw [he]
    exact List.nil_sublist _
  · rw [he, List.append_nil, hleft]
    exact (List.reverse_perm _).symm

end Operations

end Registry

end ManagementServer.Device

namespace ManagementServer.Catalog

open ManagementServer.Action (Preserves)
open Device (DeviceModule Implementations Registry)

variable {μ : Type} [DeviceModule μ]

/-- An invariant that the operations keep which a catalog makes use of. -/
structure Withstands (I : Registry μ → List Device.Call → Prop) : Prop where
  unload : ∀ env handle, Preserves I (Registry.unload env handle)
  setAllowed : ∀ name allowed, Preserves I (Registry.setAllowed name allowed)
  add : ∀ env x module, Preserves I (Registry.add env (descriptorFor x) module)

/-- What survives every change of a registry that leaves nothing out, a catalog's pass keeps. -/
lemma withstands_of_alters {I : Registry μ → List Device.Call → Prop}
    (hn : ∀ r history, I r history → (r.entries.map (·.handle)).Nodup)
    (h : ∀ r r' history calls, I r history → Registry.Alters r r' calls [] →
      I r' (history ++ calls)) : Withstands I where
  unload env handle r history hr :=
    h _ _ _ _ hr (Registry.alters_unload env handle (hn r history hr))
  setAllowed name allowed r _ hr := h _ _ _ _ hr (Registry.alters_setAllowed name allowed r)
  add env x module r _ hr := h _ _ _ _ hr (Registry.alters_add env (descriptorFor x) module r)

section Withstands

variable {I : Registry μ → List Device.Call → Prop} (hI : Withstands I)

include hI

lemma Withstands.removes (env : Environment) (e : Device.Entry) :
    Preserves I (remove env e : Action (Registry μ) _) := by
  refine Preserves.bind (hI.unload env e.handle) fun outcome => ?_
  rcases outcome with (_ | _) | _
  · exact Preserves.bind (Preserves.log _ _ _ _) fun _ => Preserves.pure _
  · exact Preserves.bind (Preserves.emit rfl) fun _ => Preserves.pure _
  · exact Preserves.pure _

lemma Withstands.dismisses (env : Environment) (p : Progress) (e : Device.Entry) :
    Preserves I (dismiss env p e : Action (Registry μ) _) := by
  refine Preserves.bind (hI.removes env e) fun outcome => ?_
  cases outcome with
  | returned _ => exact Preserves.pure _
  | crashed => exact Preserves.pure _

lemma Withstands.revises (env : Environment) (m : Manifest) (p : Progress) (e : Device.Entry) :
    Preserves I (revise env m p e : Action (Registry μ) _) := by
  unfold revise
  cases fate m e.descriptor with
  | keep => exact Preserves.pure _
  | remove => exact hI.dismisses env _ e
  | replace => exact hI.dismisses env _ e
  | allow allowed =>
    refine Preserves.bind (hI.setAllowed e.name allowed) fun outcome => ?_
    cases outcome with
    | ok _ => exact Preserves.pure _
    | error error => exact Preserves.bind (Preserves.emit rfl) fun _ => Preserves.pure _

lemma Withstands.revisesAll (env : Environment) (m : Manifest) (p : Progress)
    (es : List Device.Entry) :
    Preserves I (reviseAll env m p es : Action (Registry μ) _) := by
  induction es generalizing p with
  | nil => exact Preserves.pure _
  | cons e rest ih =>
    refine Preserves.bind (hI.revises env m p e) fun outcome => ?_
    cases outcome with
    | crashed => exact Preserves.pure _
    | returned p' => exact ih p'

lemma Withstands.loads (env : Environment) (f : Implementations μ) (p : Progress)
    (x : Manifest.Entry) : Preserves I (load env f p x) := by
  have hadd : Preserves I (Catalog.add env f x) := by
    unfold Catalog.add
    cases f.instantiate x.resolved with
    | error error => exact Preserves.pure _
    | ok module => exact hI.add env x module
  refine Preserves.bind hadd fun outcome => ?_
  rcases outcome with (error | handle) | _
  · exact Preserves.bind (Preserves.emit rfl) fun _ => Preserves.pure _
  · exact Preserves.bind (Preserves.emit rfl) fun _ => Preserves.pure _
  · exact Preserves.pure _

lemma Withstands.loadsAll (env : Environment) (f : Implementations μ) (p : Progress)
    (xs : List Manifest.Entry) : Preserves I (loadAll env f p xs) := by
  induction xs generalizing p with
  | nil => exact Preserves.pure _
  | cons x rest ih =>
    refine Preserves.bind Preserves.get fun r => ?_
    cases r.getByName x.name with
    | ok _ => exact ih p
    | error _ =>
      refine Preserves.bind (hI.loads env f p x) fun outcome => ?_
      cases outcome with
      | crashed => exact Preserves.pure _
      | returned p' => exact ih p'

/-- Whatever the operations keep that it makes use of, a catalog's pass keeps. -/
lemma Withstands.sync (env : Environment) (f : Implementations μ) (m : Manifest) :
    Preserves I (Catalog.sync env f m) := by
  refine Preserves.bind Preserves.get fun r => ?_
  refine Preserves.bind (hI.revisesAll env m .start r.entries) fun outcome => ?_
  cases outcome with
  | crashed => exact Preserves.pure _
  | returned p =>
    refine Preserves.bind (hI.loadsAll env f p m.modules) fun outcome => ?_
    cases outcome with
    | crashed => exact Preserves.pure _
    | returned p' => exact Preserves.bind (Preserves.log _ _ _ _) fun _ => Preserves.pure _

end Withstands

lemma preserves_sync (env : Environment) (f : Implementations μ) (m : Manifest) :
    Preserves Registry.Sound (sync env f m) :=
  (withstands_of_alters (fun _ _ h => h.handles) fun _ _ _ _ h ha => h.alters ha).sync env f m

lemma balances_sync (env : Environment) (f : Implementations μ) (m : Manifest) {r : Registry μ}
    {history : List Device.Call} (h : r.Sound history) :
    r.Balances (sync env f m r).state (sync env f m r).calls := by
  have hkeeps : Preserves (fun r' calls => r'.Sound (history ++ calls) ∧ r.Balances r' calls)
      (sync env f m) := by
    refine Withstands.sync (withstands_of_alters (fun _ _ h => h.1.handles) ?_) env f m
    rintro r' r'' calls calls' ⟨hsound, hbalances⟩ ha
    rw [← List.append_assoc]
    exact ⟨hsound.alters ha, hbalances.trans ha.balances⟩
  rw [← List.append_nil history] at h
  exact (hkeeps r [] ⟨h, Registry.balances_refl r⟩).2

lemma balanced_sync (env : Environment) (f : Implementations μ) (m : Manifest) :
    Preserves Registry.Balanced (sync env f m) := by
  intro r history h
  exact h.step (preserves_sync env f m r history h.toSound) (balances_sync env f m h.toSound)

end ManagementServer.Catalog

namespace ManagementServer.Device

open ManagementServer.Action (Preserves)

/-- What can be done with a module registry. The bus is shared with the subscribers, who may change
it at any time, and a module may be asked through an entry that is no longer registered. -/
inductive Operation (μ : Type) where
  | add (env : Environment) (d : Descriptor) (module : μ)
  | remove (env : Environment) (handle : Handle)
  | setAllowed (name : String) (allowed : Bool)
  | execute (env : Environment) (e : Entry) (session : SessionContext) (operation : String)
    (payload : Json)
  | stateData (env : Environment) (e : Entry)
  | closeAll (env : Environment)
  | changeBus (change : Event.Bus → Event.Bus)
  | sync (env : Environment) (f : Implementations μ) (m : Manifest)

namespace Operation

variable {μ : Type} [DeviceModule μ]

/-- Carries an operation out, whatever comes of it. -/
def act : Operation μ → Action (Registry μ) Unit
  | .add env d module => discard (Registry.add env d module)
  | .remove env handle => discard (Registry.unload env handle)
  | .setAllowed name allowed => discard (Registry.setAllowed name allowed)
  | .execute env e session operation payload =>
    discard (Registry.execute env e session operation payload)
  | .stateData env e => discard (Registry.stateData env e)
  | .closeAll env => discard (Registry.unloadAll env)
  | .changeBus change => Action.modify fun r => { r with bus := change r.bus }
  | .sync env f m => discard (Catalog.sync env f m)

/-- Carries operations out, one after the other. -/
def all : List (Operation μ) → Action (Registry μ) Unit
  | [] => pure ()
  | o :: rest => do
    o.act
    all rest

/-- Whether an operation is a pass over a manifest, which is made of operations of the other
kinds. -/
def isPass : Operation μ → Bool
  | .sync .. => true
  | _ => false

/-- An operation leaves no module out: if it closes all of them, none crashes before the last. -/
def LeavesNone (o : Operation μ) (r : Registry μ) : Prop :=
  ∀ env, o = .closeAll env → r.upToCrash r.entries.reverse = r.entries.reverse

lemma alters_act {o : Operation μ} {r : Registry μ} (ho : o.isPass = false)
    (h : (r.entries.map (·.handle)).Nodup) :
    ∃ left, Registry.Alters r (o.act r).state (o.act r).calls left ∧
      (o.LeavesNone r → left = []) := by
  have hdiscard : ∀ {α : Type} (x : Action (Registry μ) α) (left : List Entry),
      Registry.Alters r (x r).state (x r).calls left →
        Registry.Alters r (discard x r).state (discard x r).calls left := by
    intro α x left hx
    have hcalls : (discard x r).calls = (x r).calls :=
      (Action.calls_bind x _ r).trans (List.append_nil _)
    rw [hcalls]
    exact hx
  cases o with
  | add env d module => exact ⟨[], hdiscard _ _ (Registry.alters_add env d module r), fun _ => rfl⟩
  | remove env handle =>
    exact ⟨[], hdiscard _ _ (Registry.alters_unload env handle h), fun _ => rfl⟩
  | setAllowed name allowed =>
    exact ⟨[], hdiscard _ _ (Registry.alters_setAllowed name allowed r), fun _ => rfl⟩
  | execute env e session operation payload =>
    refine ⟨[], hdiscard _ _ (.serves ?_), fun _ => rfl⟩
    exact Registry.serves_execute env e session operation payload r
  | stateData env e =>
    exact ⟨[], hdiscard _ _ (.serves (Registry.serves_stateData env e r)), fun _ => rfl⟩
  | closeAll env =>
    obtain ⟨left, hleft⟩ := r.upToCrash_prefix r.entries.reverse
    refine ⟨left, hdiscard _ _ (Registry.alters_unloadAll env h hleft), fun hnone => ?_⟩
    rw [hnone env rfl] at hleft
    exact List.self_eq_append_right.mp hleft.symm
  | changeBus change => exact ⟨[], .serves (Registry.serves_bus r _), fun _ => rfl⟩
  | sync env f m => cases ho

lemma preserves_act (o : Operation μ) : Preserves Registry.Sound o.act := by
  intro r history h
  cases ho : o.isPass with
  | false =>
    obtain ⟨left, ha, -⟩ := alters_act ho h.handles
    exact h.alters ha
  | true =>
    cases o with
    | sync env f m => exact (Catalog.preserves_sync env f m).discard r history h
    | _ => cases ho

/-- What an operation takes out it closes, unless it closes all modules and one of them crashes. -/
lemma balances_act (o : Operation μ) {r : Registry μ} {history : List Call} (h : r.Sound history)
    (hnone : o.LeavesNone r) : r.Balances (o.act r).state (o.act r).calls := by
  cases ho : o.isPass with
  | false =>
    obtain ⟨left, ha, hleft⟩ := alters_act ho h.handles
    obtain rfl := hleft hnone
    exact ha.balances
  | true =>
    cases o with
    | sync env f m =>
      have hcalls : (act (.sync env f m) r).calls = (Catalog.sync env f m r).calls :=
        (Action.calls_bind _ _ r).trans (List.append_nil _)
      rw [hcalls]
      exact Catalog.balances_sync env f m h
    | _ => cases ho

lemma preserves_all (operations : List (Operation μ)) :
    Preserves Registry.Sound (all operations) := by
  induction operations with
  | nil => exact Preserves.pure ()
  | cons o rest ih => exact Preserves.bind (preserves_act o) fun _ => ih

end Operation

/-- What comes of operations on a new registry. -/
def Registry.after {μ : Type} [DeviceModule μ] (bus : Event.Bus)
    (operations : List (Operation μ)) : Result (Registry μ) Unit :=
  Operation.all operations (ofBus bus)

lemma Registry.sound_after {μ : Type} [DeviceModule μ] (bus : Event.Bus)
    (operations : List (Operation μ)) :
    Registry.Sound (Registry.after bus operations).state (Registry.after bus operations).calls :=
  Operation.preserves_all operations _ [] (Registry.sound_ofBus bus)

namespace Registry

variable {μ : Type} [SteadyModule μ]

end Registry

end ManagementServer.Device
