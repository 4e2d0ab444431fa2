import ManagementServer.Proofs.CatalogSync
import ManagementServer.Proofs.Reports

/-!
# What fails in following a manifest

A pass reports the modules that it removes and then, in the order of the manifest, what came of each
entry that it attempted (`Catalog.reports_sync`). With a valid manifest an entry never fails because
of another module, whatever names and repositories move between modules: there is no such
implementation, or the initialisation fails, or the handles are used up (`Catalog.failures_after`).
-/

namespace ManagementServer

/-- The module that failed to load. -/
def HealthEvent.failed? : HealthEvent → Option String
  | .moduleFailed name _ => some name
  | _ => none

namespace Catalog

open Device (DeviceModule Handle Implementations ModuleError Outcome Registry Repository)

variable {μ : Type}

/-- The report of an attempt, unless it crashed. -/
def Trial.report? (t : Trial μ) : Option HealthEvent :=
  match t.attempt with
  | .refused error => some (.moduleFailed t.name error)
  | .answered response =>
    match response.outcome with
    | .returned (.ok _) => some (.moduleLoaded t.name t.handle t.entry.allowed)
    | .returned (.error message) => some (.moduleFailed t.name (.initFailed t.name message))
    | .crashed => none

lemma Trial.failed?_report? (t : Trial μ) :
    t.report?.bind (·.failed?) = if t.isFailure then some t.name else none := by
  obtain ⟨x, handle, attempt⟩ := t
  rcases attempt with error | ⟨(message | running) | _, module, effects⟩
  · rfl
  · rfl
  · rfl
  · rfl

lemma filterMap_failed? (ts : List (Trial μ)) :
    (ts.filterMap (·.report?)).filterMap (·.failed?) =
      (ts.filter (·.isFailure)).map (·.name) := by
  rw [List.filterMap_filterMap]
  induction ts with
  | nil => rfl
  | cons t rest ih =>
    rw [List.filterMap_cons, Trial.failed?_report?, List.filter_cons, ih]
    cases t.isFailure with
    | true => rfl
    | false => rfl

/-- The report that a module is gone. -/
def removal (e : Device.Entry) : HealthEvent := .moduleRemoved e.name

/-! ## The reports of the two passes -/

variable [DeviceModule μ]

lemma reports_dismiss (env : Environment) (p : Progress) {r : Registry μ} {e : Device.Entry}
    (h : (r.entries.map (·.handle)).Nodup) (he : e ∈ r.entries) :
    (dismiss env p e r).reports = if r.isBroken e.handle then [] else [removal e] := by
  have hv := (Registry.unload_of_mem env h he).2.2
  have hremove : (remove env e r).reports = if r.isBroken e.handle then [] else [removal e] := by
    rw [remove, Action.reports_bind, Registry.discreet_unload env e.handle r, hv]
    cases r.isBroken e.handle with
    | true => rfl
    | false => rfl
  rw [dismiss, Action.reports_bind, hremove, (remove_of_mem env h he).2.2]
  cases r.isBroken e.handle with
  | true => rfl
  | false => rfl

lemma reports_revise (env : Environment) (m : Manifest) (p : Progress) {r : Registry μ}
    {e : Device.Entry} (he : e ∈ r.entries) (hhandles : (r.entries.map (·.handle)).Nodup) :
    (revise env m p e r).reports =
      if r.isBroken e.handle then [] else (dropped m [e]).map removal := by
  have hspec := fate_spec m e
  have hremoved : ∀ p' : Progress, settle m e = none → (dismiss env p' e r).reports =
      if r.isBroken e.handle then [] else (dropped m [e]).map removal := by
    intro p' hs
    have hdropped : dropped m [e] = [e] := by simp [dropped, hs]
    rw [reports_dismiss env p' hhandles he, hdropped]
    rfl
  unfold revise
  cases hf : fate m e.descriptor with
  | keep =>
    simp only [hf] at hspec
    simp [dropped, hspec]
  | allow allowed =>
    simp only [hf] at hspec
    have hv := (Registry.setAllowed_of_mem allowed (List.mem_map_of_mem he)).1
    have hdropped : dropped m [e] = [] := by simp [dropped, hspec.1]
    rw [Action.reports_bind, Registry.discreet_setAllowed e.name allowed r, hv, hdropped]
    simp
  | remove =>
    simp only [hf] at hspec
    exact hremoved _ hspec.1
  | replace =>
    simp only [hf] at hspec
    exact hremoved _ hspec.1

/-- The first pass reports the removals, up to a module that crashes when it is closed. -/
lemma reports_reviseAll (env : Environment) (m : Manifest) (p : Progress) {r : Registry μ}
    {done todo : List Device.Entry} (hr : r.entries = done ++ todo)
    (hnames : (r.entries.map (·.name)).Nodup) (hhandles : (r.entries.map (·.handle)).Nodup) :
    ∃ es, (reviseAll env m p todo r).reports = es.map removal ∧
      ((∀ e ∈ dropped m todo, r.isBroken e.handle = false) → es = dropped m todo) := by
  induction todo generalizing r p done with
  | nil => exact ⟨[], rfl, fun _ => rfl⟩
  | cons e rest ih =>
    have he : e ∈ r.entries := hr ▸ List.mem_append_right _ List.mem_cons_self
    have hdropped : dropped m (e :: rest) = dropped m [e] ++ dropped m rest :=
      List.filter_append [e] rest
    rw [reviseAll, Action.reports_bind, reports_revise env m p he hhandles]
    by_cases hb : settle m e = none → r.isBroken e.handle = false
    · have hstep := revise_spec env m p hr hnames hhandles hb
      have hnames' := hnames.sublist (hstep.sublist hr (kept_names_sublist m [e]))
      have hhandles' := hhandles.sublist (hstep.sublist hr (kept_handles_sublist m [e]))
      obtain ⟨es, hreports, hall⟩ := ih (p.revised m [e]) hstep.entries hnames' hhandles'
      have hfirst : (if r.isBroken e.handle then [] else (dropped m [e]).map removal) =
          (dropped m [e]).map removal := by
        cases hs : settle m e with
        | none => rw [hb hs, if_neg Bool.false_ne_true]
        | some kept => simp [dropped, hs]
      refine ⟨dropped m [e] ++ es, ?_, fun hsound => ?_⟩
      · rw [hstep.value, hreports, hfirst, List.map_append]
      · rw [hdropped, hall fun e' he' => ?_]
        rw [hstep.isBroken_eq (handle_not_mem_dropped hr hhandles he')]
        exact hsound e' (mem_dropped_cons he')
    · obtain ⟨hs, hn⟩ := Classical.not_imp.mp hb
      have hbroken : r.isBroken e.handle = true := Bool.not_eq_false _ ▸ hn
      refine ⟨[], ?_, fun hsound => absurd (hsound e (mem_dropped_self hs)) hn⟩
      rw [revise_crashes env m p he hhandles hs hbroken, if_pos hbroken]
      rfl

lemma reports_load (env : Environment) (f : Implementations μ) (p : Progress) {r : Registry μ}
    {x : Manifest.Entry} (hx : r.conflict? (descriptorFor x) = none) :
    (load env f p x r).reports = (trial env f r.nextHandle x).report?.toList := by
  have hadd : (add env f x r).reports = [] := by
    unfold add
    cases f.instantiate x.resolved with
    | error error => rfl
    | ok module => exact Registry.discreet_add env (descriptorFor x) module r
  unfold load
  rw [Action.reports_bind, hadd]
  unfold trial Trial.report?
  cases ha : attempt env f r.nextHandle x with
  | refused error =>
    rw [add_refused hx ha]
    rfl
  | answered response =>
    rw [(add_answered hx ha).1]
    obtain ⟨outcome, module, effects⟩ := response
    rcases outcome with (message | running) | _
    · rfl
    · rfl
    · rfl

/-- What the second pass reports of its attempts, and that each of them takes one of the handles
that there are. -/
structure Tells (ts : List (Trial μ)) (r : Registry μ)
    (x : Result (Registry μ) (Outcome Progress)) : Prop where
  reports : x.reports = ts.filterMap (·.report?)
  handles : ∀ t ∈ ts, t.handle.number ≤ x.state.nextHandle
  nextHandle : r.nextHandle ≤ x.state.nextHandle

lemma tells_loadAll (env : Environment) (f : Implementations μ) {m : Manifest} (h : m.Valid)
    (p : Progress) {r : Registry μ} {xs : List Manifest.Entry} (hr : Conforms m r)
    (hm : ∀ x ∈ xs, x ∈ m.modules) (hxs : (xs.map (·.name)).Nodup) :
    Tells (trials env f r.nextHandle (xs.filter fun x => x.name ∉ r.entries.map (·.name))) r
      (loadAll env f p xs r) := by
  induction xs generalizing p r with
  | nil =>
    refine ⟨rfl, ?_, Nat.le_refl _⟩
    exact fun t ht => nomatch ht
  | cons x rest ih =>
    obtain ⟨hmx, hmrest⟩ := List.forall_mem_cons.mp hm
    obtain ⟨hfirst, hrest⟩ := List.nodup_cons.mp hxs
    by_cases hn : x.name ∈ r.entries.map (·.name)
    · rw [List.filter_cons_of_neg (by simpa using hn), loadAll_of_mem env f p rest hn]
      exact ih p hr hmrest hrest
    · have hx := conflict?_eq_none h hr hmx hn
      obtain ⟨hload, hnext⟩ := load_spec env f p hx
      have hle := Trial.le_next (trial env f r.nextHandle x)
      have hreports := reports_load env f p hx
      rw [← hnext] at hle
      rw [List.filter_cons_of_pos (by simpa using hn), trials]
      cases hc : (trial env f r.nextHandle x).isCrash with
      | true =>
        rw [loadAll_of_crash env f p rest hn hx hc, if_pos rfl]
        refine ⟨?_, List.forall_mem_singleton.mpr hle, hle⟩
        rw [List.filterMap_eq_flatMap_toList, List.flatMap_singleton]
        exact hreports
      | false =>
        have htail := ih (p.record (trial env f r.nextHandle x)) (hload.conforms hr hmx) hmrest
          hrest
        rw [hload.filter_names hfirst, hnext] at htail
        rw [loadAll_of_load env f p rest hn hx hc rfl, if_neg Bool.false_ne_true]
        have hbehind : r.nextHandle ≤ _ := Nat.le_trans hle htail.nextHandle
        refine ⟨?_, List.forall_mem_cons.mpr ⟨hbehind, htail.handles⟩, hbehind⟩
        rw [List.filterMap_eq_flatMap_toList, List.flatMap_cons, ← hreports,
          ← List.filterMap_eq_flatMap_toList, ← htail.reports]
        exact List.filterMap_append

lemma sync_reports (env : Environment) (f : Implementations μ) (m : Manifest) (r : Registry μ)
    {x y : Result (Registry μ) (Outcome Progress)} (hx : reviseAll env m .start r.entries r = x)
    {p : Progress} (hp : x.value = .returned p) (hy : loadAll env f p m.modules x.state = y) :
    (sync env f m r).reports = x.reports ++ y.reports := by
  unfold sync
  simp only [Action.bind_apply, Action.get_apply, hx, hp, hy]
  cases y.value with
  | crashed => simp [Result.reports]
  | returned p => simp [Result.reports, Occurrence.report?]

/-- A pass reports the removals and then what came of its attempts. -/
lemma reports_sync (env : Environment) (f : Implementations μ) {m : Manifest} (h : m.Valid)
    {r : Registry μ} {history : List Device.Call} (hr : r.Sound history)
    (hb : ∀ e ∈ dropped m r.entries, r.isBroken e.handle = false) :
    (sync env f m r).reports =
        (dropped m r.entries).map removal ++ (planned env f m r).filterMap (·.report?) ∧
      ∀ t ∈ planned env f m r, t.handle.number ≤ (sync env f m r).state.nextHandle := by
  have hentries : r.entries = [] ++ r.entries := (List.nil_append r.entries).symm
  have hrevise := reviseAll_spec env m .start hentries hr.names hr.handles hb
  obtain ⟨es, hreports, hes⟩ := reports_reviseAll env m .start hentries hr.names hr.handles
  obtain rfl := hes hb
  have hload := tells_loadAll env f h (Progress.start.revised m r.entries) hrevise.conforms
    (fun x hx => hx) h.names
  rw [hrevise.entries, hrevise.nextHandle, List.nil_append, List.append_nil] at hload
  constructor
  · rw [sync_reports env f m r rfl hrevise.value rfl, hreports, hload.reports]
    rfl
  · rw [(sync_spec env f m r rfl hrevise.value rfl).1]
    exact hload.handles

/-! ## What stands in the way of an entry -/

/-- Why an entry cannot be loaded, when some handle is the next: there is no such implementation,
the module says in its initialisation why it fails, or the handles are used up. -/
inductive Obstacle (env : Environment) (f : Implementations μ) (next : Nat) (x : Manifest.Entry) :
    ModuleError → Prop
  | unknown (h : f.entries.lookup x.resolved = none) :
    Obstacle env f next x (.unknownImplementation x.resolved)
  | failing {module : μ} {handle : Handle} {message : String}
      (h : f.entries.lookup x.resolved = some module)
      (hinit : (DeviceModule.init env ⟨handle, x.name, x.repository.map Repository.mk⟩
        module).outcome = .returned (.error message)) :
    Obstacle env f next x (.initFailed x.name message)
  | exhausted (h : Handle.bound ≤ next + 1) : Obstacle env f next x .handlesExhausted

lemma Obstacle.mono {env : Environment} {f : Implementations μ} {next next' : Nat}
    {x : Manifest.Entry} {error : ModuleError} (h : Obstacle env f next x error)
    (hle : next ≤ next') : Obstacle env f next' x error := by
  cases h with
  | unknown h => exact .unknown h
  | failing h hinit => exact .failing h hinit
  | exhausted h => exact .exhausted (by omega)

lemma obstacle_of_trial {env : Environment} {f : Implementations μ} {next : Nat}
    {x : Manifest.Entry} {name : String} {error : ModuleError}
    (h : (trial env f next x).report? = some (.moduleFailed name error)) :
    x.name = name ∧ Obstacle env f next x error := by
  unfold trial attempt Device.Implementations.instantiate at h
  cases hf : f.entries.lookup x.resolved with
  | none =>
    rw [hf] at h
    cases h
    exact ⟨rfl, .unknown hf⟩
  | some module =>
    simp only [hf] at h
    by_cases hb : Handle.bound ≤ next + 1
    · rw [if_pos hb] at h
      cases h
      exact ⟨rfl, .exhausted hb⟩
    · rw [if_neg hb] at h
      simp only [Trial.report?] at h
      split at h
      · cases h
      · rename_i message ho
        cases h
        exact ⟨rfl, .failing hf ho⟩
      · cases h

lemma exists_trial_of_mem {env : Environment} {f : Implementations μ} {next : Nat}
    {xs : List Manifest.Entry} {t : Trial μ} (ht : t ∈ trials env f next xs) :
    t = trial env f t.handle.number t.entry := by
  induction xs generalizing next with
  | nil => cases ht
  | cons x rest ih =>
    unfold trials at ht
    rcases List.mem_cons.mp ht with rfl | ht
    · rfl
    · split at ht
      · cases ht
      · exact ih ht

/-- After any operations, a pass with a valid manifest reports a failure only of an entry that has
an obstacle of its own, and its summary lists just these failures. -/
theorem failures_after (bus : Event.Bus) (operations : List (Device.Operation μ))
    (env : Environment) (f : Implementations μ) (m : Manifest) (h : m.fault? = none) :
    let result := sync env f m (Registry.after bus operations).state
    (∀ name error, HealthEvent.moduleFailed name error ∈ result.reports →
      ∃ x ∈ m.modules, x.name = name ∧ Obstacle env f result.state.nextHandle x error) ∧
    ∀ summary, result.value = .returned summary →
      summary.failed = result.reports.filterMap (·.failed?) := by
  have hvalid := Manifest.valid_of_fault? h
  have hsound := Registry.sound_after bus operations
  generalize (Registry.after bus operations).state = r at *
  have hremoval : ∀ {es : List Device.Entry} {name : String} {error : ModuleError},
      HealthEvent.moduleFailed name error ∉ es.map removal := by
    intro es name error hin
    obtain ⟨e, -, he⟩ := List.mem_map.mp hin
    cases he
  by_cases hb : ∀ e ∈ dropped m r.entries, r.isBroken e.handle = false
  · have hsynced := synced env f hvalid hsound hb
    obtain ⟨hreports, hhandles⟩ := reports_sync env f hvalid hsound hb
    have hremoved : ((dropped m r.entries).map removal).filterMap (·.failed?) = [] := by
      rw [List.filterMap_map]
      exact List.filterMap_eq_nil_iff.mpr fun _ _ => rfl
    refine ⟨fun name error hin => ?_, fun summary hv => ?_⟩
    · rw [hreports] at hin
      obtain ⟨t, ht, hreport⟩ :=
        List.mem_filterMap.mp ((List.mem_append.mp hin).resolve_left hremoval)
      rw [exists_trial_of_mem ht] at hreport
      obtain ⟨hname, hobstacle⟩ := obstacle_of_trial hreport
      have hwanted := hsynced.order.subset (List.mem_map_of_mem ht)
      exact ⟨t.entry, (mem_wanted.mp hwanted).1, hname, hobstacle.mono (hhandles t ht)⟩
    · rw [(hsynced.of_returned hv).2.2]
      rw [hreports, List.filterMap_append, hremoved, filterMap_failed?]
      rfl
  -- A module that crashes when it is closed ends the pass before any entry is attempted.
  · have hbroken : ∃ e ∈ dropped m r.entries, r.isBroken e.handle := by
      simpa using hb
    obtain ⟨es, hreports, -⟩ := reports_reviseAll env m .start (List.nil_append r.entries).symm
      hsound.names hsound.handles
    have hsync := sync_crashes env f m hsound hbroken
    refine ⟨fun name error hin => ?_, fun summary hv => ?_⟩
    · have hin' : HealthEvent.moduleFailed name error ∈
          (reviseAll env m .start r.entries r).reports := by
        rw [hsync] at hin
        exact hin
      rw [hreports] at hin'
      exact absurd hin' hremoval
    · rw [hsync] at hv
      cases hv

/-- A manifest of entries, by name, implementation, and repository. -/
def ownersOf (entries : List (String × String × String)) : Manifest :=
  ⟨entries.map fun (name, key, repository) =>
    ⟨name, some key, ["urn:d"], ["get"], true, some repository⟩⟩

/-- Two modules swap their repositories without a conflict, while an entry has no implementation
and another one, which is to take over a repository, fails. -/
theorem failures_after_swap :
    let before : List (Device.Operation Device.ScriptedModule) := [.sync .calm revisable (ownersOf
      [("left", "plain", "a"), ("right", "plain", "b"), ("spare", "plain", "c")])]
    let swapped := ownersOf
      [("right", "plain", "a"), ("left", "plain", "b"), ("spare", "lost", "d"),
        ("heir", "broken", "c")]
    let result := sync .calm revisable swapped (Registry.after (.ofCapacity 4) before).state
    swapped.fault? = none ∧
      ((∀ name error, HealthEvent.moduleFailed name error ∈ result.reports →
        ∃ x ∈ swapped.modules, x.name = name ∧
          Obstacle .calm revisable result.state.nextHandle x error) ∧
      ∀ summary, result.value = .returned summary →
        summary.failed = result.reports.filterMap (·.failed?)) ∧
      result.reports.filterMap (·.failed?) = ["spare", "heir"] ∧
      (result.state.entries.map fun e => (e.name, e.descriptor.repository.map (·.name))) =
        [("right", some "a"), ("left", some "b")] := by
  refine ⟨by decide +kernel, failures_after _ _ _ _ _ (by decide +kernel), by decide +kernel,
    by decide +kernel⟩

end Catalog

end ManagementServer
