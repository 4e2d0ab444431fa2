import ManagementServer.Proofs.CatalogSync

/-!
# Following the same manifest again

Behind a pass every registered module has just the descriptor that its entry asks for, so another
pass over the same manifest decides to keep them all (`fate_of_conforms`): only entries that could
not be loaded are attempted again, and where there is none the pass does nothing
(`Catalog.resynced_after`).
-/

namespace ManagementServer.Catalog

open Device (DeviceModule Implementations Outcome Registry Repository)

variable {μ : Type} {m : Manifest}

lemma Synced.conforms {r : Registry μ} {history : List Device.Call} {ts : List (Trial μ)}
    {result : Result (Registry μ) (Outcome Summary)} (hs : Synced m r history ts result) :
    Conforms m result.state := by
  intro e he
  rw [hs.entries] at he
  rcases List.mem_append.mp he with he | he
  · obtain ⟨old, -, hsettle⟩ := List.mem_filterMap.mp he
    obtain ⟨-, -, x, hx, -, hd, -⟩ := settle_eq_some hsettle
    exact ⟨x, hx, hd⟩
  · obtain ⟨t, ht, rfl⟩ := List.mem_map.mp he
    have hwanted := hs.order.subset (List.mem_map_of_mem (List.mem_filter.mp ht).1)
    exact ⟨t.entry, (mem_wanted.mp hwanted).1, rfl⟩

/-- A module that has just the descriptor that its entry asks for is kept. -/
lemma fate_of_conforms (h : m.Valid) {r : Registry μ} (hr : Conforms m r) {e : Device.Entry}
    (he : e ∈ r.entries) : fate m e.descriptor = .keep := by
  obtain ⟨x, hx, hd⟩ := hr e he
  have hget : m.get? (descriptorFor x).name = some x := h.get?_of_mem hx
  rw [hd, fate, hget]
  simp

/-- The entries that no module is registered for. -/
def missing (m : Manifest) (r : Registry μ) : List Manifest.Entry :=
  m.modules.filter fun x => x.name ∉ r.entries.map (·.name)

/-- Where a pass ends, the entries that no module is registered for are those that failed. -/
lemma Synced.failed_eq (h : m.Valid) {r : Registry μ} {history : List Device.Call}
    {ts : List (Trial μ)} {result : Result (Registry μ) (Outcome Summary)}
    (hs : Synced m r history ts result) {summary : Summary}
    (hv : result.value = .returned summary) :
    summary.failed = (missing m result.state).map (·.name) := by
  obtain ⟨hno, hall, rfl⟩ := hs.of_returned hv
  have hnames := trial_names_nodup h hs.order
  have hloaded : ∀ t ∈ ts, t.name ∉ ((ts.filter (·.isLoaded)).map (·.registered)).map (·.name) ↔
      t.isFailure = true := by
    intro t ht
    rw [Trial.isFailure, hno t ht, Bool.not_false, Bool.and_true, Bool.not_eq_true']
    constructor
    · intro hn
      by_contra hl
      refine hn (List.mem_map.mpr ⟨t.registered, List.mem_map_of_mem ?_, rfl⟩)
      exact List.mem_filter.mpr ⟨ht, by simpa using hl⟩
    · intro hl hin
      obtain ⟨e, he, hname⟩ := List.mem_map.mp hin
      obtain ⟨t', ht', rfl⟩ := List.mem_map.mp he
      obtain ⟨hm, hload⟩ := List.mem_filter.mp ht'
      rw [List.inj_on_of_nodup_map hnames hm ht hname, hl] at hload
      cases hload
  have hsplit : missing m result.state = (wanted m r.entries).filter fun x =>
      x.name ∉ ((ts.filter (·.isLoaded)).map (·.registered)).map (·.name) := by
    rw [missing, wanted, List.filter_filter, hs.entries, List.map_append]
    apply List.filter_congr
    intro x _
    rw [← Bool.decide_and, decide_eq_decide, List.mem_append, not_or, and_comm]
  have hfailed : ts.filter (·.isFailure) = ts.filter fun t =>
      t.name ∉ ((ts.filter (·.isLoaded)).map (·.registered)).map (·.name) := by
    apply List.filter_congr
    intro t ht
    rw [Bool.eq_iff_iff, decide_eq_true_iff]
    exact (hloaded t ht).symm
  rw [hsplit, ← hall, List.filter_map, List.map_map, report, hfailed]
  rfl

variable [DeviceModule μ]

/-- Modules that are all kept are left as they are. -/
lemma reviseAll_of_keep (env : Environment) (p : Progress) (r : Registry μ)
    {es : List Device.Entry} (hes : ∀ e ∈ es, fate m e.descriptor = .keep) :
    reviseAll env m p es r = ⟨.returned p, r, []⟩ := by
  induction es with
  | nil => rfl
  | cons e rest ih =>
    obtain ⟨he, hrest⟩ := List.forall_mem_cons.mp hes
    have hkeep : revise env m p e r = ⟨.returned p, r, []⟩ := by
      rw [revise, he]
      rfl
    rw [reviseAll, Action.bind_apply, hkeep]
    exact ih hrest

lemma loadAll_of_registered (env : Environment) (f : Implementations μ) (p : Progress)
    {r : Registry μ} {xs : List Manifest.Entry} (hxs : ∀ x ∈ xs, x.name ∈ r.entries.map (·.name)) :
    loadAll env f p xs r = ⟨.returned p, r, []⟩ := by
  induction xs with
  | nil => rfl
  | cons x rest ih =>
    obtain ⟨hx, hrest⟩ := List.forall_mem_cons.mp hxs
    rw [loadAll_of_mem env f p rest hx]
    exact ih hrest

/-- What a pass does to a registry in which every module has the descriptor of its entry: it only
attempts the entries that no module is registered for. -/
lemma sync_of_conforms (env : Environment) (f : Implementations μ) (h : m.Valid) {r : Registry μ}
    (hr : Conforms m r) :
    Loads (trials env f r.nextHandle (missing m r)) .start r
        (loadAll env f .start m.modules r) ∧
      (sync env f m r).state = (loadAll env f .start m.modules r).state ∧
      (sync env f m r).calls = (loadAll env f .start m.modules r).calls ∧
      ((loadAll env f .start m.modules r).value = .crashed → (sync env f m r).value = .crashed) ∧
      ∀ p, (loadAll env f .start m.modules r).value = .returned p →
        (sync env f m r).value = .returned p.summary := by
  have hkeep := reviseAll_of_keep env .start r fun e he => fate_of_conforms h hr he
  exact ⟨loadAll_spec env f h .start hr (fun x hx => hx) h.names, sync_spec env f m r hkeep rfl rfl⟩

/-- What another pass does behind a first one: the modules stay as they are, with their handles,
and what is initialised belongs to entries that failed in the first pass. Where none failed, nothing
is done. -/
structure Resynced (m : Manifest) (first again : Result (Registry μ) (Outcome Summary)) :
    Prop where
  entries : first.state.entries <+: again.state.entries
  instances : first.state.instances <+: again.state.instances
  calls : ∀ c ∈ again.calls, ∃ x ∈ m.modules, x.name ∉ first.state.entries.map (·.name) ∧
    (∀ summary, first.value = .returned summary → x.name ∈ summary.failed) ∧
    ∃ handle succeeded, first.state.nextHandle ≤ handle.number ∧
      c = .initialised handle x.name (x.repository.map Repository.mk) succeeded
  summary : ∀ summary, again.value = .returned summary →
    summary.removed = [] ∧ summary.updated = [] ∧
      ∀ earlier, first.value = .returned earlier →
        (summary.added ++ summary.failed).Perm earlier.failed
  unchanged : ∀ summary, first.value = .returned summary → summary.failed = [] →
    again.value = .returned .empty ∧ again.state = first.state ∧ again.calls = []

section Conforming

variable {env : Environment} {f : Implementations μ} {r : Registry μ}

lemma calls_of_conforms (h : m.Valid) (hr : Conforms m r) {c : Device.Call}
    (hc : c ∈ (sync env f m r).calls) :
    ∃ x ∈ missing m r, ∃ handle succeeded, r.nextHandle ≤ handle.number ∧
      c = .initialised handle x.name (x.repository.map Repository.mk) succeeded := by
  obtain ⟨hload, -, hcalls, -⟩ := sync_of_conforms env f h hr
  rw [hcalls, hload.calls] at hc
  obtain ⟨t, ht, hcall⟩ := List.mem_filterMap.mp hc
  obtain ⟨outcome, -, rfl⟩ := Option.map_eq_some_iff.mp hcall
  have hentry := ( trials_prefix _ _ _ _).subset (List.mem_map_of_mem ht)
  exact ⟨t.entry, hentry, t.handle, outcome.isReady, trials_handle_le ht, rfl⟩

lemma summary_of_conforms (h : m.Valid) (hr : Conforms m r) {summary : Summary}
    (hv : (sync env f m r).value = .returned summary) :
    summary.removed = [] ∧ summary.updated = [] ∧
      (summary.added ++ summary.failed).Perm ((missing m r).map (·.name)) := by
  obtain ⟨hload, -, -, hcrash, hreturn⟩ := sync_of_conforms env f h hr
  have hcomplete : (∀ t ∈ trials env f r.nextHandle (missing m r), t.isCrash = false) →
      (trials env f r.nextHandle (missing m r)).map (·.entry) = missing m r := trials_complete
  generalize trials env f r.nextHandle (missing m r) = ts at hload hcomplete
  have hvalue := hload.value
  cases hc : ts.any (·.isCrash) with
  | true =>
    rw [hc, if_pos rfl] at hvalue
    rw [hcrash hvalue] at hv
    cases hv
  | false =>
    rw [hc, if_neg Bool.false_ne_true, Progress.foldl_record] at hvalue
    rw [hreturn _ hvalue] at hv
    cases hv
    have hno : ∀ t ∈ ts, t.isCrash = false := by
      intro t ht
      simpa using List.any_eq_false.mp hc t ht
    have hperm := (List.filter_append_perm (·.isLoaded) ts).map (·.name)
    have hnames : (missing m r).map (·.name) = ts.map (·.name) := by
      rw [← hcomplete hno, List.map_map]
      rfl
    rw [hnames]
    simpa [Progress.start, Summary.empty] using hperm

lemma sync_of_missing_nil (h : m.Valid) (hr : Conforms m r) (hn : missing m r = []) :
    (sync env f m r).value = .returned .empty ∧ (sync env f m r).state = r ∧
      (sync env f m r).calls = [] := by
  have hload : loadAll env f .start m.modules r = ⟨.returned .start, r, []⟩ := by
    apply loadAll_of_registered
    intro x hx
    by_contra hc
    exact List.filter_eq_nil_iff.mp hn x hx (decide_eq_true hc)
  obtain ⟨-, hstate, hcalls, -, hreturn⟩ := sync_of_conforms env f h hr
  rw [hload] at hstate hcalls hreturn
  exact ⟨hreturn _ rfl, hstate, hcalls⟩

end Conforming

/-- After any operations, another pass over a manifest just followed does what is left to do. Only
if a module that the first one closes crashes then, that one does not come to its end. -/
theorem resynced_after (bus : Event.Bus) (operations : List (Device.Operation μ))
    (env env' : Environment) (f f' : Implementations μ) (m : Manifest) (h : m.fault? = none) :
    let before := (Registry.after bus operations).state
    let first := sync env f m before
    ((∀ e ∈ dropped m before.entries, before.isBroken e.handle = false) →
        Resynced m first (sync env' f' m first.state)) ∧
      ((∃ e ∈ dropped m before.entries, before.isBroken e.handle) → first.value = .crashed) := by
  have hvalid := Manifest.valid_of_fault? h
  have hsound := Registry.sound_after bus operations
  refine ⟨fun hb => ?_, fun hb => congrArg (·.value) (sync_crashes env f m hsound hb)⟩
  have hs := synced env f hvalid hsound hb
  generalize sync env f m (Registry.after bus operations).state = first at hs ⊢
  have hr := hs.conforms
  obtain ⟨hload, hstate, -⟩ := sync_of_conforms env' f' hvalid hr
  refine ⟨?_, ?_, ?_, ?_, ?_⟩
  · rw [hstate, hload.entries]
    exact List.prefix_append _ _
  · rw [hstate, hload.instances]
    exact List.prefix_append _ _
  · intro c hc
    obtain ⟨x, hx, handle, succeeded, hle, rfl⟩ := calls_of_conforms hvalid hr hc
    obtain ⟨hm, hn⟩ := List.mem_filter.mp hx
    refine ⟨x, hm, of_decide_eq_true hn, fun summary hv => ?_, handle, succeeded, hle, rfl⟩
    rw [hs.failed_eq hvalid hv]
    exact List.mem_map_of_mem hx
  · intro summary hv
    obtain ⟨hremoved, hupdated, hperm⟩ := summary_of_conforms hvalid hr hv
    refine ⟨hremoved, hupdated, fun earlier he => ?_⟩
    rw [hs.failed_eq hvalid he]
    exact hperm
  · intro summary hv hnone
    rw [hs.failed_eq hvalid hv] at hnone
    exact sync_of_missing_nil hvalid hr (List.map_eq_nil_iff.mp hnone)

/-- Behind a pass in which an entry fails, another one only attempts that entry again; once it has
succeeded, nothing is done any more. -/
theorem resynced_after_failure :
    let m := manifestOf [("kept", "plain", "get", true), ("late", "broken", "get", true)]
    let repaired : Implementations Device.ScriptedModule :=
      ⟨revisable.entries.map fun (key, _) => (key, .ofScript ⟨none, [], [], .data .null⟩)⟩
    let first := sync .calm revisable m (Registry.after (.ofCapacity 4) []).state
    let again := sync .calm repaired m first.state
    m.fault? = none ∧ Resynced m first again ∧
      (first.state.entries.map fun e => (e.name, e.handle.number)) = [("kept", 0)] ∧
      again.calls = [.initialised ⟨2⟩ "late" none true] ∧
      (again.state.entries.map fun e => (e.name, e.handle.number)) = [("kept", 0), ("late", 2)] ∧
      (sync .calm repaired m again.state).calls = [] := by
  refine ⟨by decide +kernel, (resynced_after _ [] _ _ _ _ _ (by decide +kernel)).1 ?_, ?_⟩
  · exact fun e _ => Registry.isBroken_steady _ e.handle
  · decide +kernel

end ManagementServer.Catalog
