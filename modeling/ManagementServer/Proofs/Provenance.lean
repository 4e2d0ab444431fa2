import ManagementServer.Proofs.CatalogSync
import Mathlib.Data.List.Induction

/-!
# Where the registered modules come from

Along any passes of a catalog, a registered module is the one that some pass built for an entry of
its manifest, and it stays as long as the manifests ask for the same descriptor. Since a descriptor
does not name the implementation, an entry that asks for another one only does not replace the
module. No module crashes here when it is closed, so that every pass comes to its end unless an
initialisation crashes.
-/

namespace ManagementServer.Catalog

open Device (Handle Implementations Registry SteadyModule)

/-- One pass: its surroundings, and the manifest that it follows. -/
structure Pass where
  env : Environment
  manifest : Manifest

variable {μ : Type} [SteadyModule μ]

/-- The registry after some passes. -/
def follow (f : Implementations μ) (r : Registry μ) (passes : List Pass) : Registry μ :=
  passes.foldl (fun r p => (sync p.env f p.manifest r).state) r

/-- The attempts that loaded a module along some passes. -/
def loads (f : Implementations μ) (r : Registry μ) : List Pass → List (Trial μ)
  | [] => []
  | p :: rest =>
    (planned p.env f p.manifest r).filter (·.isLoaded) ++
      loads f (sync p.env f p.manifest r).state rest

/-- The handles that were given along some passes, with the implementation that each module was
built from. -/
def origins (f : Implementations μ) (r : Registry μ) (passes : List Pass) :
    List (Handle × String) :=
  (loads f r passes).map fun t => (t.handle, t.entry.resolved)

lemma follow_append (f : Implementations μ) (r : Registry μ) (passes rest : List Pass) :
    follow f r (passes ++ rest) = follow f (follow f r passes) rest :=
  List.foldl_append

lemma loads_append (f : Implementations μ) (r : Registry μ) (passes rest : List Pass) :
    loads f r (passes ++ rest) = loads f r passes ++ loads f (follow f r passes) rest := by
  induction passes generalizing r with
  | nil => rfl
  | cons p tail ih =>
    rw [List.cons_append, loads, loads, ih, List.append_assoc]
    rfl

/-- Some pass loaded a module for an entry, and every manifest since then asks for the same
descriptor, but for the permission. -/
def LoadedFor (f : Implementations μ) (start : Registry μ) (passes : List Pass) (handle : Handle)
    (y : Manifest.Entry) : Prop :=
  ∃ earlier p later, passes = earlier ++ p :: later ∧
    (∃ t ∈ planned p.env f p.manifest (follow f start earlier),
      t.isLoaded ∧ t.handle = handle ∧ t.entry = y) ∧
    ∀ q ∈ later, ∃ x ∈ q.manifest.modules,
      { descriptorFor y with allowed := x.allowed } = descriptorFor x

lemma LoadedFor.mem_loads {f : Implementations μ} {start : Registry μ} {passes : List Pass}
    {handle : Handle} {y : Manifest.Entry} (h : LoadedFor f start passes handle y) :
    ∃ t ∈ loads f start passes, t.handle = handle ∧ t.entry = y := by
  obtain ⟨earlier, p, later, rfl, ⟨t, ht, hl, hh, hy⟩, -⟩ := h
  refine ⟨t, ?_, hh, hy⟩
  rw [loads_append, loads]
  exact List.mem_append_right _ (List.mem_append_left _ (List.mem_filter.mpr ⟨ht, hl⟩))

lemma loadedFor_self {f : Implementations μ} {start : Registry μ} {passes : List Pass} {p : Pass}
    {t : Trial μ} (ht : t ∈ planned p.env f p.manifest (follow f start passes)) (hl : t.isLoaded) :
    LoadedFor f start (passes ++ [p]) t.handle t.entry :=
  ⟨passes, p, [], rfl, ⟨t, ht, hl, rfl, rfl⟩, fun _ hq => nomatch hq⟩

/-- One more manifest may ask for the same. -/
lemma LoadedFor.snoc {f : Implementations μ} {start : Registry μ} {passes : List Pass}
    {handle : Handle} {y : Manifest.Entry} (h : LoadedFor f start passes handle y) {p : Pass}
    {x : Manifest.Entry} (hx : x ∈ p.manifest.modules)
    (hyx : { descriptorFor y with allowed := x.allowed } = descriptorFor x) :
    LoadedFor f start (passes ++ [p]) handle y := by
  obtain ⟨earlier, q, later, rfl, hload, hlater⟩ := h
  refine ⟨earlier, q, later ++ [p], ?_, hload, ?_⟩
  · rw [List.append_assoc]
    rfl
  · intro q' hq
    rcases List.mem_append.mp hq with hq | hq
    · exact hlater q' hq
    · rw [List.mem_singleton.mp hq]
      exact ⟨x, hx, hyx⟩

/-- What holds of the registered modules and of the loaded ones along any passes. -/
structure Traces (f : Implementations μ) (start : Registry μ) (passes : List Pass) : Prop where
  origin : ∀ e ∈ (follow f start passes).entries, ∃ y, LoadedFor f start passes e.handle y ∧
    { descriptorFor y with allowed := e.descriptor.allowed } = e.descriptor
  built : ∀ t ∈ loads f start passes,
    t.handle ∈ (follow f start passes).instances.map (·.handle)
  distinct : ((loads f start passes).map (·.handle)).Nodup

lemma traces_nil (f : Implementations μ) (bus : Event.Bus) :
    Traces f (Registry.ofBus bus : Registry μ) [] :=
  ⟨(fun _ h => nomatch h), (fun _ h => nomatch h), List.nodup_nil⟩

lemma Traces.step {f : Implementations μ} {start : Registry μ} {passes : List Pass}
    (ht : Traces f start passes) {history : List Device.Call}
    (hr : (follow f start passes).Sound history) (p : Pass) (h : p.manifest.Valid) :
    Traces f start (passes ++ [p]) := by
  have hsync := synced p.env f h hr fun e _ => Registry.isBroken_steady _ e.handle
  have hfollow : follow f start (passes ++ [p]) =
      (sync p.env f p.manifest (follow f start passes)).state :=
    follow_append f start passes [p]
  have hloads : loads f start (passes ++ [p]) = loads f start passes ++
      (planned p.env f p.manifest (follow f start passes)).filter (·.isLoaded) := by
    rw [loads_append, loads, loads, List.append_nil]
  have hincreasing := trials_handles p.env f (follow f start passes).nextHandle
    (wanted p.manifest (follow f start passes).entries)
  change (planned p.env f p.manifest (follow f start passes)).Pairwise _ at hincreasing
  refine ⟨?_, ?_, ?_⟩
  · intro e he
    rw [hfollow, hsync.entries] at he
    rcases List.mem_append.mp he with he | he
    · obtain ⟨old, hold, hs⟩ := List.mem_filterMap.mp he
      obtain ⟨hhandle, -, x, hx, -, hd, hsame⟩ := settle_eq_some hs
      obtain ⟨y, hload, hyd⟩ := ht.origin old hold
      have hyx : { descriptorFor y with allowed := x.allowed } = descriptorFor x := by
        rw [← hsame, ← hyd]
      refine ⟨y, ?_, ?_⟩
      · rw [hhandle]
        exact hload.snoc hx hyx
      · rw [hd]
        exact hyx
    · obtain ⟨t, htm, rfl⟩ := List.mem_map.mp he
      obtain ⟨hp, hl⟩ := List.mem_filter.mp htm
      exact ⟨t.entry, loadedFor_self hp hl, rfl⟩
  · intro t htm
    rw [hloads] at htm
    rw [hfollow]
    rcases List.mem_append.mp htm with htm | htm
    · rw [hsync.handles]
      exact List.mem_append_left _ (ht.built t htm)
    · obtain ⟨hp, hl⟩ := List.mem_filter.mp htm
      obtain ⟨response, ha⟩ := Trial.answered_of_isLoaded hl
      obtain ⟨-, hi, -⟩ := hsync.fresh t hp response ha
      exact (Registry.instance?_isSome _ _).mp (Option.isSome_iff_exists.mpr ⟨_, hi⟩)
  · rw [hloads, List.map_append]
    refine List.Nodup.append ht.distinct ?_ ?_
    · refine List.pairwise_map.mpr (List.pairwise_filter.mpr (hincreasing.imp ?_))
      intro t t' hlt hl _ hc
      obtain ⟨response, ha⟩ := Trial.answered_of_isLoaded hl
      have hsome : t.outcome?.isSome := by simp [Trial.outcome?, ha]
      have hself := hlt hsome
      rw [hc] at hself
      omega
    · intro handle hold hnew
      obtain ⟨t, htm, rfl⟩ := List.mem_map.mp hold
      obtain ⟨t', htm', hc⟩ := List.mem_map.mp hnew
      have hlt := hr.issued t.handle (ht.built t htm)
      have hle := trials_handle_le (List.mem_filter.mp htm').1
      rw [hc] at hle
      omega

/-- The registry behind some passes, with the module calls that they made. -/
lemma traces_follow (f : Implementations μ) (bus : Event.Bus) (passes : List Pass)
    (h : ∀ p ∈ passes, p.manifest.fault? = none) :
    (∃ history, (follow f (Registry.ofBus bus) passes).Sound history) ∧
      Traces f (Registry.ofBus bus) passes := by
  induction passes using List.reverseRecOn with
  | nil => exact ⟨⟨[], Registry.sound_ofBus bus⟩, traces_nil f bus⟩
  | append_singleton rest p ih =>
    obtain ⟨⟨history, hr⟩, ht⟩ := ih fun q hq => h q (List.mem_append_left _ hq)
    have hp := Manifest.valid_of_fault? (h p (List.mem_append_right _ List.mem_cons_self))
    refine ⟨?_, ht.step hr p hp⟩
    rw [follow_append]
    exact ⟨_, preserves_sync p.env f p.manifest _ history hr⟩

/-- What holds of the registered modules behind a last pass, after some passes. -/
structure Provenance (f : Implementations μ) (start : Registry μ) (passes : List Pass)
    (last : Pass) : Prop where
  origin : ∀ e ∈ (follow f start (passes ++ [last])).entries, ∀ x ∈ last.manifest.modules,
    x.name = e.name → e.descriptor = descriptorFor x ∧
      ∃ y, LoadedFor f start (passes ++ [last]) e.handle y ∧
        { descriptorFor y with allowed := x.allowed } = descriptorFor x ∧
        ((e.handle, x.resolved) ∈ origins f start (passes ++ [last]) ↔ y.resolved = x.resolved)
  stays : ∀ e ∈ (follow f start passes).entries, ∀ x ∈ last.manifest.modules, x.name = e.name →
    (e.handle ∈ (follow f start (passes ++ [last])).entries.map (·.handle) ↔
      { e.descriptor with allowed := x.allowed } = descriptorFor x)

/-- A registered module was built from the implementation that its entry named when it was loaded.
That is the one which its entry names now exactly if the entry named it then already; a pass
replaces the module exactly if the entry asks for another descriptor. -/
theorem provenance_after (f : Implementations μ) (bus : Event.Bus) (passes : List Pass)
    (last : Pass) (h : ∀ p ∈ passes ++ [last], p.manifest.fault? = none) :
    Provenance f (Registry.ofBus bus) passes last := by
  obtain ⟨⟨history, hr⟩, -⟩ := traces_follow f bus passes fun p hp =>
    h p (List.mem_append_left _ hp)
  obtain ⟨-, ht⟩ := traces_follow f bus (passes ++ [last]) h
  have hm := Manifest.valid_of_fault? (h last (List.mem_append_right _ List.mem_cons_self))
  have hsync := synced last.env f hm hr fun e _ => Registry.isBroken_steady _ e.handle
  have hafter : follow f (Registry.ofBus bus) (passes ++ [last]) =
      (sync last.env f last.manifest (follow f (Registry.ofBus bus) passes)).state :=
    follow_append f _ passes [last]
  refine ⟨?_, ?_⟩
  · intro e he x hx hname
    have hd : e.descriptor = descriptorFor x := by
      rw [hafter] at he
      exact hsync.descriptor_eq hm he hx hname
    obtain ⟨y, hy, hyd⟩ := ht.origin e he
    obtain ⟨t, htm, hth, rfl⟩ := hy.mem_loads
    refine ⟨hd, t.entry, hy, ?_, ?_⟩
    · rw [hd] at hyd
      exact hyd
    · constructor
      · intro hin
        obtain ⟨t', htm', heq⟩ := List.mem_map.mp hin
        obtain ⟨hh, hkey⟩ := Prod.mk.inj heq
        rwa [List.inj_on_of_nodup_map ht.distinct htm' htm (hh.trans hth.symm)] at hkey
      · intro hkey
        rw [← hkey, ← hth]
        exact List.mem_map_of_mem htm
  · intro e he x hx hname
    rw [hafter]
    exact hsync.handle_mem_iff hm hr (fun t ht => trials_handle_le ht) he hx hname

/-- Two implementations that can be built. -/
def twofold : Implementations Device.ScriptedModule :=
  let module : Device.ScriptedModule := .ofScript ⟨none, [], [], .data .null⟩
  ⟨[("alpha", module), ("beta", module)]⟩

/-- A pass with one module, of a given implementation. -/
def Pass.ofKey (key : String) : Pass :=
  ⟨.calm, ⟨[⟨"device", some key, ["urn:d"], ["get"], true, none⟩]⟩⟩

theorem provenance_after_reimplementation :
    (∀ p ∈ [Pass.ofKey "alpha"] ++ [Pass.ofKey "beta"], p.manifest.fault? = none) ∧
      Provenance twofold (Registry.ofBus (.ofCapacity 4)) [Pass.ofKey "alpha"]
        (Pass.ofKey "beta") :=
  ⟨by decide +kernel, provenance_after _ _ _ _ (by decide +kernel)⟩

/-- An entry that asks for another implementation leaves the module of the former one in place. -/
theorem reimplementation_keeps_module :
    let start : Registry Device.ScriptedModule := .ofBus (.ofCapacity 4)
    let passes := [Pass.ofKey "alpha", Pass.ofKey "beta"]
    (∀ p ∈ passes, p.manifest.fault? = none) ∧
      ∃ e ∈ (follow twofold start passes).entries,
        ∃ x ∈ (Pass.ofKey "beta").manifest.modules, x.name = e.name ∧
          (e.handle, x.resolved) ∉ origins twofold start passes ∧
          (e.handle, "alpha") ∈ origins twofold start passes ∧
          e.handle ∈ (follow twofold start [Pass.ofKey "alpha"]).entries.map (·.handle) := by
  decide +kernel

end ManagementServer.Catalog
