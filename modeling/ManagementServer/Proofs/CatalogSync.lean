import ManagementServer.Proofs.CatalogPlan

/-!
# Following a manifest

A pass of the catalog does what the manifest asks for: the modules that stay, those that are closed,
those that are loaded, and what is reported (`Synced`), for any registry that operations lead to and
any valid manifest.
-/

namespace ManagementServer.Catalog

open Device (DeviceModule Handle Implementations ModuleError Outcome Registry Repository Response)

variable {μ : Type}

/-- What holds of a pass over a registry, with the module calls before it and the attempts that it
makes. -/
structure Synced (m : Manifest) (r : Registry μ) (history : List Device.Call)
    (ts : List (Trial μ)) (result : Result (Registry μ) (Outcome Summary)) : Prop where
  order : ts.map (·.entry) <+: wanted m r.entries
  entries : result.state.entries =
    kept m r.entries ++ (ts.filter (·.isLoaded)).map (·.registered)
  handles : result.state.instances.map (·.handle) =
    r.instances.map (·.handle) ++ (ts.filterMap (·.instance?)).map (·.handle)
  calls : result.calls = (dropped m r.entries).map (·.closing) ++ ts.filterMap (·.call?)
  stays : ∀ e ∈ r.entries, (settle m e).isSome → ∃ i, r.instance? e.handle = some i ∧
    result.state.instance? e.handle = some i ∧
    Device.closings e.handle (history ++ result.calls) = 0
  leaves : ∀ e ∈ r.entries, settle m e = none →
    Device.closings e.handle history = 0 ∧ Device.closings e.handle result.calls = 1
  fresh : ∀ t ∈ ts, ∀ response, t.attempt = .answered response →
    r.nextHandle ≤ t.handle.number ∧
      result.state.instance? t.handle =
        some ⟨t.handle, response.module, response.outcome.isCrash⟩ ∧
      (history ++ result.calls).filter (·.handle == t.handle) =
        [.initialised t.handle t.name (t.entry.repository.map Repository.mk)
          response.outcome.isReady]
  returns : (∀ t ∈ ts, t.isCrash = false) →
    ts.map (·.entry) = wanted m r.entries ∧ result.value = .returned (report m r.entries ts)
  crashes : (∃ t ∈ ts, t.isCrash) → result.value = .crashed
  distinct : ((report m r.entries ts).removed ++ (report m r.entries ts).added ++
    (report m r.entries ts).updated ++ (report m r.entries ts).failed).Nodup

/-- Behind a pass, a module has the descriptor that its entry asks for. -/
lemma Synced.descriptor_eq {m : Manifest} (h : m.Valid) {r : Registry μ}
    {history : List Device.Call} {ts : List (Trial μ)}
    {result : Result (Registry μ) (Outcome Summary)} (hs : Synced m r history ts result)
    {e : Device.Entry} (he : e ∈ result.state.entries) {x : Manifest.Entry} (hx : x ∈ m.modules)
    (hname : x.name = e.name) : e.descriptor = descriptorFor x := by
  rw [hs.entries] at he
  rcases List.mem_append.mp he with he | he
  · obtain ⟨old, -, hsettle⟩ := List.mem_filterMap.mp he
    obtain ⟨-, hold, y, hy, hyname, hd, -⟩ := settle_eq_some hsettle
    have hxy : x.name = y.name := hname.trans (hold.trans hyname.symm)
    rw [hd, List.inj_on_of_nodup_map h.names hx hy hxy]
  · obtain ⟨t, ht, rfl⟩ := List.mem_map.mp he
    have hentry := hs.order.subset (List.mem_map_of_mem (List.mem_filter.mp ht).1)
    have hxt : x.name = t.entry.name := hname
    rw [List.inj_on_of_nodup_map h.names hx (mem_wanted.mp hentry).1 hxt]
    rfl

/-- A registered module stays in a pass exactly if its entry asks for the same descriptor, but for
the permission. -/
lemma Synced.handle_mem_iff {m : Manifest} (h : m.Valid) {r : Registry μ}
    {history : List Device.Call} (hr : r.Sound history) {ts : List (Trial μ)}
    {result : Result (Registry μ) (Outcome Summary)} (hs : Synced m r history ts result)
    (hts : ∀ t ∈ ts, r.nextHandle ≤ t.handle.number)
    {e : Device.Entry} (he : e ∈ r.entries) {x : Manifest.Entry} (hx : x ∈ m.modules)
    (hname : x.name = e.name) :
    e.handle ∈ result.state.entries.map (·.handle) ↔
      { e.descriptor with allowed := x.allowed } = descriptorFor x := by
  have hsettle : settle m e =
      if { e.descriptor with allowed := x.allowed } = descriptorFor x then
        some ⟨e.handle, descriptorFor x⟩
      else none := by
    have hget := h.get?_of_mem hx
    rw [hname] at hget
    rw [settle, hget]
  rw [hs.entries, List.map_append, List.mem_append]
  constructor
  · intro hin
    by_contra hd
    rw [if_neg hd] at hsettle
    rcases hin with hin | hin
    · obtain ⟨e', he', hh⟩ := List.mem_map.mp hin
      obtain ⟨old, hold, hs'⟩ := List.mem_filterMap.mp he'
      have hsame : old.handle = e.handle := (settle_eq_some hs').1.symm.trans hh
      rw [List.inj_on_of_nodup_map hr.handles hold he hsame, hsettle] at hs'
      cases hs'
    · obtain ⟨e', he', hh⟩ := List.mem_map.mp hin
      obtain ⟨t, ht, rfl⟩ := List.mem_map.mp he'
      have hle := hts t (List.mem_filter.mp ht).1
      have hlt := hr.issued e.handle (hr.built _ (List.mem_map_of_mem he))
      rw [← hh] at hlt
      exact Nat.lt_irrefl _ (Nat.lt_of_lt_of_le hlt hle)
  · intro hd
    rw [if_pos hd] at hsettle
    exact Or.inl (List.mem_map.mpr ⟨_, List.mem_filterMap.mpr ⟨e, he, hsettle⟩, rfl⟩)

/-- A pass that ends has attempted all that was to be loaded, and nothing crashed. -/
lemma Synced.of_returned {m : Manifest} {r : Registry μ} {history : List Device.Call}
    {ts : List (Trial μ)} {result : Result (Registry μ) (Outcome Summary)}
    (hs : Synced m r history ts result) {summary : Summary}
    (hv : result.value = .returned summary) :
    (∀ t ∈ ts, t.isCrash = false) ∧ ts.map (·.entry) = wanted m r.entries ∧
      summary = report m r.entries ts := by
  have hno : ∀ t ∈ ts, t.isCrash = false := by
    intro t ht
    by_contra hc
    rw [hs.crashes ⟨t, ht, by simpa using hc⟩] at hv
    cases hv
  obtain ⟨hall, hreport⟩ := hs.returns hno
  exact ⟨hno, hall, Outcome.returned.inj (hv.symm.trans hreport)⟩

/-! ## What the passes make of a registry -/

/-- What was done so far, with what the first pass does about some more modules. -/
def Progress.revised (m : Manifest) (p : Progress) (es : List Device.Entry) : Progress :=
  ⟨{ p.summary with
      removed := p.summary.removed ++ unlisted m es
      updated := p.summary.updated ++ toggled m es },
    p.replaced ++ outdated m es⟩

lemma Progress.revised_append (m : Manifest) (p : Progress) (es es' : List Device.Entry) :
    p.revised m (es ++ es') = (p.revised m es).revised m es' := by
  simp [revised, unlisted, toggled, outdated]

lemma Progress.revised_nil (m : Manifest) (p : Progress) : p.revised m [] = p := by
  simp [revised, unlisted, toggled, outdated]

/-- What the first pass makes of some of the registered modules, with those before and behind
them. -/
structure Revises (m : Manifest) (done todo rest : List Device.Entry) (p : Progress)
    (r : Registry μ) (x : Result (Registry μ) (Outcome Progress)) : Prop where
  entries : x.state.entries = done ++ kept m todo ++ rest
  nextHandle : x.state.nextHandle = r.nextHandle
  handles : x.state.instances.map (·.handle) = r.instances.map (·.handle)
  others : ∀ handle, handle ∉ (dropped m todo).map (·.handle) →
    x.state.instance? handle = r.instance? handle
  calls : x.calls = (dropped m todo).map (·.closing)
  value : x.value = .returned (p.revised m todo)

/-- What was done so far, with one more attempt. -/
def Progress.record (p : Progress) (t : Trial μ) : Progress :=
  if t.isLoaded then p.load t.name else p.fail t.name

lemma Progress.foldl_record (ts : List (Trial μ)) (p : Progress) :
    ts.foldl Progress.record p =
      ⟨{ p.summary with
          added := p.summary.added ++
            (ts.filter fun t => t.isLoaded && !p.replaced.contains t.name).map (·.name)
          updated := p.summary.updated ++
            (ts.filter fun t => t.isLoaded && p.replaced.contains t.name).map (·.name)
          failed := p.summary.failed ++ (ts.filter fun t => !t.isLoaded).map (·.name) },
        p.replaced⟩ := by
  induction ts generalizing p with
  | nil => simp
  | cons t rest ih =>
    rw [List.foldl_cons, ih]
    cases hl : t.isLoaded with
    | false => simp [record, fail, hl]
    | true =>
      by_cases hr : t.name ∈ p.replaced
      · simp [record, load, update, hl, hr]
      · simp [record, load, hl, hr]

/-- What the progress of a pass comes to is what is to be reported. -/
lemma report_eq {m : Manifest} (h : m.Valid) {es : List Device.Entry} {ts : List (Trial μ)}
    (hts : ts.map (·.entry) <+: wanted m es) (hc : ∀ t ∈ ts, t.isCrash = false) :
    (ts.foldl Progress.record (Progress.start.revised m es)).summary = report m es ts := by
  have hreplaced : ∀ t ∈ ts,
      (outdated m es).contains t.name = (es.map (·.name)).contains t.name := by
    intro t ht
    rw [Bool.eq_iff_iff, List.contains_iff_mem, List.contains_iff_mem]
    exact mem_outdated h (hts.subset (List.mem_map_of_mem ht))
  have hadded : (ts.filter fun t => t.isLoaded && !(outdated m es).contains t.name) =
      ts.filter fun t => t.isLoaded && !(es.map (·.name)).contains t.name := by
    apply List.filter_congr
    intro t ht
    rw [hreplaced t ht]
  have hupdated : (ts.filter fun t => t.isLoaded && (outdated m es).contains t.name) =
      ts.filter fun t => t.isLoaded && (es.map (·.name)).contains t.name := by
    apply List.filter_congr
    intro t ht
    rw [hreplaced t ht]
  have hfailed : (ts.filter fun t => !t.isLoaded) = ts.filter (·.isFailure) := by
    apply List.filter_congr
    intro t ht
    rw [Trial.isFailure, hc t ht, Bool.not_false, Bool.and_true]
  rw [Progress.foldl_record]
  simp only [Progress.revised, Progress.start, Summary.empty, List.nil_append, hadded, hupdated,
    hfailed]
  rfl

/-- What the second pass makes of a registry by some attempts. -/
structure Loads (ts : List (Trial μ)) (p : Progress) (r : Registry μ)
    (x : Result (Registry μ) (Outcome Progress)) : Prop where
  entries : x.state.entries = r.entries ++ (ts.filter (·.isLoaded)).map (·.registered)
  instances : x.state.instances = r.instances ++ ts.filterMap (·.instance?)
  calls : x.calls = ts.filterMap (·.call?)
  value : x.value =
    if ts.any (·.isCrash) then .crashed else .returned (ts.foldl Progress.record p)

lemma Loads.cons {t : Trial μ} {ts : List (Trial μ)} {p : Progress} {r : Registry μ}
    {x y : Result (Registry μ) (Outcome Progress)} (h : Loads [t] p r x) (hc : t.isCrash = false)
    (h' : Loads ts (p.record t) x.state y) :
    Loads (t :: ts) p r ⟨y.value, y.state, x.journal ++ y.journal⟩ := by
  refine ⟨?_, ?_, ?_, ?_⟩
  · rw [← List.singleton_append, List.filter_append, List.map_append, ← List.append_assoc,
      ← h.entries]
    exact h'.entries
  · rw [← List.singleton_append, List.filterMap_append, ← List.append_assoc, ← h.instances]
    exact h'.instances
  · rw [← List.singleton_append, List.filterMap_append, ← h.calls, ← h'.calls]
    exact List.filterMap_append
  · rw [List.any_cons, hc, Bool.false_or]
    exact h'.value

lemma Loads.instance?_of_some {ts : List (Trial μ)} {p : Progress} {r : Registry μ}
    {x : Result (Registry μ) (Outcome Progress)} (h : Loads ts p r x) {handle : Handle}
    {i : Device.Instance μ} (hi : r.instance? handle = some i) :
    x.state.instance? handle = some i := by
  rw [Registry.instance?, h.instances, List.find?_append]
  change (r.instance? handle).or _ = _
  rw [hi]
  rfl

lemma Loads.instance?_of_answered {ts : List (Trial μ)} {p : Progress} {r : Registry μ}
    {x : Result (Registry μ) (Outcome Progress)} (h : Loads ts p r x)
    (hts : ts.Pairwise fun t t' => t.outcome?.isSome → t.handle.number < t'.handle.number)
    {t : Trial μ} (ht : t ∈ ts) (hnew : r.instance? t.handle = none)
    {response : Response μ (Except String Json)} (ha : t.attempt = .answered response) :
    x.state.instance? t.handle = some ⟨t.handle, response.module, response.outcome.isCrash⟩ := by
  have hinstance : t.instance? = some ⟨t.handle, response.module, response.outcome.isCrash⟩ := by
    simp [Trial.instance?, ha]
  have hfilter := filter_handle_eq hts (·.instance?) (·.handle)
    (fun t' i hi => Trial.instance?_eq_some hi) ht hinstance
  rw [Registry.instance?, h.instances, List.find?_append]
  change (r.instance? t.handle).or _ = _
  rw [hnew, Option.none_or, ← List.head?_filter, hfilter]
  rfl

lemma any_isCrash_eq_false {ts : List (Trial μ)} (h : ∀ t ∈ ts, t.isCrash = false) :
    ts.any (·.isCrash) = false := by
  refine List.any_eq_false.mpr fun t ht => ?_
  rw [h t ht]
  exact Bool.false_ne_true

/-! ## The calls of a pass -/

lemma closings_calls {m : Manifest} {es : List Device.Entry} (hes : (es.map (·.handle)).Nodup)
    {e : Device.Entry} (he : e ∈ es) (ts : List (Trial μ)) :
    Device.closings e.handle ((dropped m es).map (·.closing) ++ ts.filterMap (·.call?)) =
      if (settle m e).isNone then 1 else 0 := by
  rw [Device.closings_append, closings_trials, closings_dropped hes he, Nat.add_zero]

/-- The initialisation of a module is the first call of it, and the only one of the pass. -/
lemma filter_calls_of_answered (m : Manifest) {r : Registry μ} {history : List Device.Call}
    (hr : r.Sound history) {ts : List (Trial μ)}
    (hts : ts.Pairwise fun t t' => t.outcome?.isSome → t.handle.number < t'.handle.number)
    {t : Trial μ} (ht : t ∈ ts) (hle : r.nextHandle ≤ t.handle.number)
    {response : Response μ (Except String Json)} (ha : t.attempt = .answered response) :
    (history ++ ((dropped m r.entries).map (·.closing) ++ ts.filterMap (·.call?))).filter
        (·.handle == t.handle) =
      [.initialised t.handle t.name (t.entry.repository.map Repository.mk)
        response.outcome.isReady] := by
  have hnew : t.handle ∉ r.instances.map (·.handle) := hr.fresh hle
  have hcall : t.call? = some (.initialised t.handle t.name
      (t.entry.repository.map Repository.mk) response.outcome.isReady) := by
    simp [Trial.call?, Trial.outcome?, ha]
  have hfilter := filter_handle_eq hts (·.call?) (·.handle)
    (fun t' c hc => Trial.call?_eq_some hc) ht hcall
  have hbefore : history.filter (·.handle == t.handle) = [] := by
    refine List.filter_eq_nil_iff.mpr fun c hc he => hnew ?_
    rw [← beq_iff_eq.mp he]
    exact hr.called c hc
  have hclosed : ((dropped m r.entries).map (·.closing)).filter (·.handle == t.handle) = [] := by
    refine List.filter_eq_nil_iff.mpr fun c hc he => hnew ?_
    obtain ⟨e, hm, rfl⟩ := List.mem_map.mp hc
    rw [← beq_iff_eq.mp he]
    exact hr.built _ (List.mem_map_of_mem (List.mem_filter.mp hm).1)
  rw [List.filter_append, List.filter_append, hbefore, hclosed, hfilter]
  rfl

/-! ## The first pass -/

/-- What is done with a registered module leaves the others where they are. -/
lemma Revises.sublist {m : Manifest} {p : Progress} {r : Registry μ} {done rest : List Device.Entry}
    {e : Device.Entry} {x : Result (Registry μ) (Outcome Progress)}
    (h : Revises m done [e] rest p r x)
    (hr : r.entries = done ++ e :: rest) {β : Type} {g : Device.Entry → β}
    (hg : ((kept m [e]).map g).Sublist ([e].map g)) :
    (x.state.entries.map g).Sublist (r.entries.map g) := by
  rw [h.entries, hr, List.append_cons, List.map_append, List.map_append, List.map_append,
    List.map_append]
  exact ((List.Sublist.refl _).append hg).append (List.Sublist.refl _)

lemma Revises.conforms {m : Manifest} {es : List Device.Entry} {p : Progress} {r : Registry μ}
    {x : Result (Registry μ) (Outcome Progress)} (h : Revises m [] es [] p r x) :
    Conforms m x.state := by
  intro e he
  rw [h.entries, List.nil_append, List.append_nil] at he
  obtain ⟨old, -, hs⟩ := List.mem_filterMap.mp he
  obtain ⟨-, -, x, hx, -, hd, -⟩ := settle_eq_some hs
  exact ⟨x, hx, hd⟩

lemma filter_handle {done rest : List Device.Entry} {e : Device.Entry}
    (h : ((done ++ e :: rest).map (·.handle)).Nodup) :
    (done ++ e :: rest).filter (·.handle != e.handle) = done ++ rest := by
  rw [List.map_append, List.map_cons] at h
  obtain ⟨-, hrest, hdisjoint⟩ := List.nodup_append.mp h
  have hdone : done.filter (·.handle != e.handle) = done := by
    refine List.filter_eq_self.mpr fun other ho => bne_iff_ne.mpr ?_
    exact hdisjoint _ (List.mem_map_of_mem ho) _ List.mem_cons_self
  have hbehind : rest.filter (·.handle != e.handle) = rest := by
    refine List.filter_eq_self.mpr fun other ho => bne_iff_ne.mpr ?_
    intro hc
    exact (List.nodup_cons.mp hrest).1 (List.mem_map.mpr ⟨other, ho, hc⟩)
  rw [List.filter_append, List.filter_cons_of_neg (by simp), hdone, hbehind]

lemma mem_dropped_self {m : Manifest} {e : Device.Entry} {rest : List Device.Entry}
    (h : settle m e = none) : e ∈ dropped m (e :: rest) :=
  List.mem_filter.mpr ⟨List.mem_cons_self, by rw [h]; rfl⟩

lemma mem_dropped_cons {m : Manifest} {e e' : Device.Entry} {rest : List Device.Entry}
    (h : e' ∈ dropped m rest) : e' ∈ dropped m (e :: rest) := by
  obtain ⟨hm, hs⟩ := List.mem_filter.mp h
  exact List.mem_filter.mpr ⟨List.mem_cons_of_mem _ hm, hs⟩

lemma handle_not_mem_dropped {m : Manifest} {r : Registry μ} {done rest : List Device.Entry}
    {e e' : Device.Entry} (hr : r.entries = done ++ e :: rest)
    (h : (r.entries.map (·.handle)).Nodup) (he : e' ∈ dropped m rest) :
    e'.handle ∉ (dropped m [e]).map (·.handle) := by
  intro hc
  obtain ⟨other, ho, heq⟩ := List.mem_map.mp hc
  obtain rfl := List.mem_singleton.mp (List.mem_filter.mp ho).1
  rw [hr, List.map_append, List.map_cons] at h
  have hrest := (List.nodup_append.mp h).2.1
  exact (List.nodup_cons.mp hrest).1 (List.mem_map.mpr ⟨e', (List.mem_filter.mp he).1, heq.symm⟩)

lemma Revises.isBroken_eq [DeviceModule μ] {m : Manifest} {done todo rest : List Device.Entry}
    {p : Progress} {r : Registry μ} {x : Result (Registry μ) (Outcome Progress)}
    (h : Revises m done todo rest p r x) {handle : Handle}
    (hn : handle ∉ (dropped m todo).map (·.handle)) :
    x.state.isBroken handle = r.isBroken handle := by
  rw [Registry.isBroken, h.others handle hn, Registry.isBroken]

variable [DeviceModule μ]

lemma remove_of_mem (env : Environment) {r : Registry μ} {e : Device.Entry}
    (h : (r.entries.map (·.handle)).Nodup) (he : e ∈ r.entries) :
    Registry.Touches e.handle { r with entries := r.entries.filter (·.handle != e.handle) }
        (remove env e r).state ∧
      (remove env e r).calls = [e.closing] ∧
      (remove env e r).value = Registry.ending (r.isBroken e.handle) := by
  obtain ⟨ht, hc, hv⟩ := Registry.unload_of_mem env h he
  unfold remove Registry.ending
  rw [Action.calls_bind, Action.bind_apply]
  simp only [hv, hc]
  cases r.isBroken e.handle with
  | true => exact ⟨ht, rfl, rfl⟩
  | false => exact ⟨ht, rfl, rfl⟩

lemma dismiss_of_mem (env : Environment) (p : Progress) {r : Registry μ} {e : Device.Entry}
    (h : (r.entries.map (·.handle)).Nodup) (he : e ∈ r.entries) :
    Registry.Touches e.handle { r with entries := r.entries.filter (·.handle != e.handle) }
        (dismiss env p e r).state ∧
      (dismiss env p e r).calls = [e.closing] ∧
      (dismiss env p e r).value = if r.isBroken e.handle then .crashed else .returned p := by
  obtain ⟨ht, hc, hv⟩ := remove_of_mem env h he
  unfold dismiss
  rw [Action.calls_bind, Action.bind_apply]
  simp only [hv, hc, Registry.ending]
  cases r.isBroken e.handle with
  | true => exact ⟨ht, rfl, rfl⟩
  | false => exact ⟨ht, rfl, rfl⟩

lemma revises_of_removed (env : Environment) {m : Manifest} {p p' : Progress} {r : Registry μ}
    {done rest : List Device.Entry} {e : Device.Entry} (hr : r.entries = done ++ e :: rest)
    (hhandles : (r.entries.map (·.handle)).Nodup) (hs : settle m e = none)
    (hb : r.isBroken e.handle = false) (hp : p' = p.revised m [e]) :
    Revises m done [e] rest p r (dismiss env p' e r) := by
  have he : e ∈ r.entries := hr ▸ List.mem_append_right _ List.mem_cons_self
  obtain ⟨ht, hc, hv⟩ := dismiss_of_mem env p' hhandles he
  have hdropped : dropped m [e] = [e] := by simp [dropped, hs]
  refine ⟨?_, ht.nextHandle, ht.handles, ?_, ?_, ?_⟩
  · apply ht.entries.trans
    change r.entries.filter (·.handle != e.handle) = _
    rw [hr] at hhandles ⊢
    rw [filter_handle hhandles]
    simp [kept, hs]
  · intro handle hn
    apply ht.others handle
    rintro rfl
    rw [hdropped] at hn
    exact hn List.mem_cons_self
  · rw [hc, hdropped]
    rfl
  · rw [hv, hb, hp]
    rfl

lemma revise_spec (env : Environment) (m : Manifest) (p : Progress) {r : Registry μ}
    {done rest : List Device.Entry} {e : Device.Entry} (hr : r.entries = done ++ e :: rest)
    (hnames : (r.entries.map (·.name)).Nodup) (hhandles : (r.entries.map (·.handle)).Nodup)
    (hb : settle m e = none → r.isBroken e.handle = false) :
    Revises m done [e] rest p r (revise env m p e r) := by
  have hspec := fate_spec m e
  unfold revise
  cases hf : fate m e.descriptor with
  | keep =>
    simp only [hf] at hspec
    have hlisted := get?_isSome_of_settle hspec
    refine ⟨?_, rfl, rfl, fun _ _ => rfl, ?_, ?_⟩
    · simp [kept, hspec, hr]
    · simp [dropped, hspec]
    · simp [Progress.revised, unlisted, toggled, outdated, hspec,
        Option.isSome_iff_ne_none.mp hlisted]
  | allow allowed =>
    simp only [hf] at hspec
    obtain ⟨hs, ha⟩ := hspec
    have hlisted := get?_isSome_of_settle hs
    have hn : e.name ∈ r.entries.map (·.name) := by simp [hr]
    have hfirst : e.name ∉ done.map (·.name) := by
      rw [hr, List.map_append, List.map_cons] at hnames
      intro hc
      exact (List.nodup_append.mp hnames).2.2 _ hc _ List.mem_cons_self rfl
    obtain ⟨hv, hstate, hc⟩ := Registry.setAllowed_of_mem allowed hn
    have hdropped : dropped m [e] = [] := by simp [dropped, hs]
    simp only [Action.bind_apply, hv, hstate]
    refine ⟨?_, rfl, rfl, fun _ _ => rfl, ?_, ?_⟩
    · change Registry.allow e.name allowed r.entries = _
      rw [hr, Registry.allow_append allowed hfirst]
      simp [kept, hs]
    · rw [hdropped, Result.calls, Action.pure_apply, List.append_nil]
      exact hc
    · simp [Progress.revised, Progress.update, unlisted, toggled, outdated, hs, ha,
        Option.isSome_iff_ne_none.mp hlisted]
  | remove =>
    simp only [hf] at hspec
    obtain ⟨hs, hx⟩ := hspec
    apply revises_of_removed env hr hhandles hs (hb hs)
    simp [Progress.revised, Progress.remove, unlisted, toggled, outdated, hs, hx]
  | replace =>
    simp only [hf] at hspec
    obtain ⟨hs, hx⟩ := hspec
    apply revises_of_removed env hr hhandles hs (hb hs)
    simp [Progress.revised, Progress.replace, unlisted, toggled, outdated, hs, hx,
      Option.isSome_iff_ne_none.mp hx]

lemma revise_crashes (env : Environment) (m : Manifest) (p : Progress) {r : Registry μ}
    {e : Device.Entry} (he : e ∈ r.entries) (hhandles : (r.entries.map (·.handle)).Nodup)
    (hs : settle m e = none) (hb : r.isBroken e.handle) :
    (revise env m p e r).value = .crashed := by
  have hspec := fate_spec m e
  have hdismiss : ∀ p', (dismiss env p' e r).value = .crashed := by
    intro p'
    rw [(dismiss_of_mem env p' hhandles he).2.2, if_pos hb]
  unfold revise
  cases hf : fate m e.descriptor with
  | keep =>
    simp only [hf, hs] at hspec
    cases hspec
  | allow allowed =>
    simp only [hf, hs] at hspec
    cases hspec.1
  | remove => exact hdismiss _
  | replace => exact hdismiss _

lemma reviseAll_spec (env : Environment) (m : Manifest) (p : Progress) {r : Registry μ}
    {done todo : List Device.Entry} (hr : r.entries = done ++ todo)
    (hnames : (r.entries.map (·.name)).Nodup) (hhandles : (r.entries.map (·.handle)).Nodup)
    (hb : ∀ e ∈ dropped m todo, r.isBroken e.handle = false) :
    Revises m done todo [] p r (reviseAll env m p todo r) := by
  induction todo generalizing r p done with
  | nil =>
    refine ⟨?_, rfl, rfl, fun _ _ => rfl, rfl, ?_⟩
    · change r.entries = _
      simpa [kept] using hr
    · exact congrArg Outcome.returned (Progress.revised_nil m p).symm
  | cons e rest ih =>
    have hstep := revise_spec env m p hr hnames hhandles (hb e ∘ mem_dropped_self)
    have hr' : (revise env m p e r).state.entries = (done ++ kept m [e]) ++ rest := hstep.entries
    have hnames' := hnames.sublist (hstep.sublist hr (kept_names_sublist m [e]))
    have hhandles' := hhandles.sublist (hstep.sublist hr (kept_handles_sublist m [e]))
    have hb' : ∀ e' ∈ dropped m rest, (revise env m p e r).state.isBroken e'.handle = false := by
      intro e' he'
      rw [hstep.isBroken_eq (handle_not_mem_dropped hr hhandles he')]
      exact hb e' (mem_dropped_cons he')
    have hrest := ih (p.revised m [e]) hr' hnames' hhandles' hb'
    have hkept : kept m (e :: rest) = kept m [e] ++ kept m rest :=
      List.filterMap_append (l := [e])
    have hdropped : dropped m (e :: rest) = dropped m [e] ++ dropped m rest :=
      List.filter_append [e] rest
    rw [reviseAll, Action.bind_apply, hstep.value]
    refine ⟨?_, hrest.nextHandle.trans hstep.nextHandle, hrest.handles.trans hstep.handles,
      ?_, ?_, ?_⟩
    · rw [hkept, ← List.append_assoc]
      exact hrest.entries
    · intro handle hn
      rw [hdropped, List.map_append, List.mem_append, not_or] at hn
      exact (hrest.others handle hn.2).trans (hstep.others handle hn.1)
    · rw [hdropped, List.map_append, ← hrest.calls, ← hstep.calls]
      exact List.filterMap_append
    · apply hrest.value.trans
      rw [← Progress.revised_append]
      rfl

/-- A module that is to go and crashes when it is closed ends the pass. -/
lemma reviseAll_crashes (env : Environment) (m : Manifest) (p : Progress) {r : Registry μ}
    {done todo : List Device.Entry} (hr : r.entries = done ++ todo)
    (hnames : (r.entries.map (·.name)).Nodup) (hhandles : (r.entries.map (·.handle)).Nodup)
    (hb : ∃ e ∈ dropped m todo, r.isBroken e.handle) :
    (reviseAll env m p todo r).value = .crashed := by
  induction todo generalizing r p done with
  | nil =>
    obtain ⟨e, he, -⟩ := hb
    cases he
  | cons e rest ih =>
    have hmem : e ∈ r.entries := hr ▸ List.mem_append_right _ List.mem_cons_self
    rw [reviseAll, Action.bind_apply]
    by_cases hfirst : settle m e = none → r.isBroken e.handle = false
    · have hstep := revise_spec env m p hr hnames hhandles hfirst
      obtain ⟨e', he', hbroken⟩ := hb
      have hlater : e' ∈ dropped m rest := by
        obtain ⟨hm, hs⟩ := List.mem_filter.mp he'
        rcases List.mem_cons.mp hm with rfl | hm
        · rw [hfirst (Option.isNone_iff_eq_none.mp hs)] at hbroken
          cases hbroken
        · exact List.mem_filter.mpr ⟨hm, hs⟩
      rw [← hstep.isBroken_eq (handle_not_mem_dropped hr hhandles hlater)] at hbroken
      rw [hstep.value]
      exact ih _ hstep.entries (hnames.sublist (hstep.sublist hr (kept_names_sublist m [e])))
        (hhandles.sublist (hstep.sublist hr (kept_handles_sublist m [e]))) ⟨e', hlater, hbroken⟩
    · obtain ⟨hs, hn⟩ := Classical.not_imp.mp hfirst
      rw [revise_crashes env m p hmem hhandles hs (Bool.not_eq_false _ ▸ hn)]
      rfl

/-! ## The second pass -/

lemma add_refused {env : Environment} {f : Implementations μ} {r : Registry μ}
    {x : Manifest.Entry} {error : ModuleError} (hx : r.conflict? (descriptorFor x) = none)
    (h : attempt env f r.nextHandle x = .refused error) :
    add env f x r = ⟨.returned (.error error), r, []⟩ := by
  unfold attempt at h
  unfold add
  cases hf : f.instantiate x.resolved with
  | error e =>
    rw [hf] at h
    obtain rfl := Attempt.refused.inj h
    rfl
  | ok module =>
    simp only [hf] at h
    split at h
    · rename_i hb
      obtain rfl := Attempt.refused.inj h
      simp only [Registry.add_of_no_conflict env module hx, if_pos hb]
    · cases h

lemma add_answered {env : Environment} {f : Implementations μ} {r : Registry μ}
    {x : Manifest.Entry} {response : Response μ (Except String Json)}
    (hx : r.conflict? (descriptorFor x) = none)
    (h : attempt env f r.nextHandle x = .answered response) :
    (add env f x r).value =
        Registry.registration (descriptorFor x) ⟨r.nextHandle⟩ response.outcome ∧
      (∃ bus, (add env f x r).state =
        { r.issue response.module response.outcome.isCrash with
          entries := r.entries ++
            Registry.enrolled (descriptorFor x) ⟨r.nextHandle⟩ response.outcome
          bus }) ∧
      (add env f x r).calls =
        [.initialised ⟨r.nextHandle⟩ x.name (x.repository.map Repository.mk)
          response.outcome.isReady] := by
  unfold attempt at h
  unfold add
  cases hf : f.instantiate x.resolved with
  | error e =>
    rw [hf] at h
    cases h
  | ok module =>
    simp only [hf] at h
    split at h
    · cases h
    · rename_i hb
      have hinit := Attempt.answered.inj h
      simp only [Registry.add_of_no_conflict env module hx, if_neg hb]
      exact Registry.initialise_spec env (descriptorFor x) module r hinit

lemma load_spec (env : Environment) (f : Implementations μ) (p : Progress) {r : Registry μ}
    {x : Manifest.Entry} (hx : r.conflict? (descriptorFor x) = none) :
    Loads [trial env f r.nextHandle x] p r (load env f p x r) ∧
      (load env f p x r).state.nextHandle = (trial env f r.nextHandle x).next := by
  unfold load trial
  cases ha : attempt env f r.nextHandle x with
  | refused error =>
    simp only [Action.bind_apply, add_refused hx ha]
    refine ⟨⟨?_, ?_, ?_, ?_⟩, ?_⟩
    · exact (List.append_nil _).symm
    · exact (List.append_nil _).symm
    · rfl
    · rfl
    · rfl
  | answered response =>
    obtain ⟨hv, ⟨bus, hs⟩, hc⟩ := add_answered hx ha
    have hcalls : ∀ tail : List Occurrence, tail.filterMap (·.call?) = [] →
        ((add env f x r).journal ++ tail).filterMap (·.call?) =
          [.initialised ⟨r.nextHandle⟩ x.name (x.repository.map Repository.mk)
            response.outcome.isReady] := by
      intro tail ht
      rw [List.filterMap_append, ht, List.append_nil]
      exact hc
    obtain ⟨outcome, module, effects⟩ := response
    simp only [Action.bind_apply, hv, hs]
    rcases outcome with (message | running) | _
    · refine ⟨⟨?_, ?_, ?_, ?_⟩, ?_⟩
      · rfl
      · rfl
      · exact hcalls _ rfl
      · rfl
      · rfl
    · refine ⟨⟨?_, ?_, ?_, ?_⟩, ?_⟩
      · rfl
      · rfl
      · exact hcalls _ rfl
      · rfl
      · rfl
    · refine ⟨⟨?_, ?_, ?_, ?_⟩, ?_⟩
      · rfl
      · rfl
      · exact hcalls _ rfl
      · rfl
      · rfl

lemma Loads.mem_entries {env : Environment} {f : Implementations μ} {next : Nat}
    {x : Manifest.Entry} {p : Progress} {r : Registry μ}
    {y : Result (Registry μ) (Outcome Progress)} (h : Loads [trial env f next x] p r y)
    {e : Device.Entry} (he : e ∈ y.state.entries) :
    e ∈ r.entries ∨ e.descriptor = descriptorFor x := by
  rw [h.entries] at he
  rcases List.mem_append.mp he with he | he
  · exact Or.inl he
  · obtain ⟨t, ht, rfl⟩ := List.mem_map.mp he
    rw [List.mem_singleton.mp (List.mem_filter.mp ht).1]
    exact Or.inr rfl

/-- An attempt with an entry changes nothing for the entries of other names. -/
lemma Loads.filter_names {env : Environment} {f : Implementations μ} {next : Nat}
    {x : Manifest.Entry} {p : Progress} {r : Registry μ}
    {y : Result (Registry μ) (Outcome Progress)} (h : Loads [trial env f next x] p r y)
    {rest : List Manifest.Entry} (hx : x.name ∉ rest.map (·.name)) :
    (rest.filter fun other => other.name ∉ y.state.entries.map (·.name)) =
      rest.filter fun other => other.name ∉ r.entries.map (·.name) := by
  apply List.filter_congr
  intro other ho
  have hiff : other.name ∈ y.state.entries.map (·.name) ↔
      other.name ∈ r.entries.map (·.name) := by
    constructor
    · intro hin
      obtain ⟨e, hm, hname⟩ := List.mem_map.mp hin
      rcases h.mem_entries hm with hm | hd
      · exact List.mem_map.mpr ⟨e, hm, hname⟩
      · have hsame : e.name = x.name := congrArg Device.Descriptor.name hd
        refine absurd (List.mem_map.mpr ⟨other, ho, ?_⟩) hx
        rw [← hname, hsame]
    · intro hin
      rw [h.entries, List.map_append]
      exact List.mem_append_left _ hin
  simp only [hiff]

lemma Loads.conforms {env : Environment} {f : Implementations μ} {m : Manifest} {next : Nat}
    {x : Manifest.Entry} {p : Progress} {r : Registry μ}
    {y : Result (Registry μ) (Outcome Progress)} (h : Loads [trial env f next x] p r y)
    (hr : Conforms m r) (hx : x ∈ m.modules) : Conforms m y.state := by
  intro e he
  rcases h.mem_entries he with he | hd
  · exact hr e he
  · exact ⟨x, hx, hd⟩

lemma loadAll_of_mem (env : Environment) (f : Implementations μ) (p : Progress) {r : Registry μ}
    {x : Manifest.Entry} (rest : List Manifest.Entry) (hn : x.name ∈ r.entries.map (·.name)) :
    loadAll env f p (x :: rest) r = loadAll env f p rest r := by
  obtain ⟨e, he⟩ := (Registry.getByName_isOk r x.name).mpr hn
  rw [loadAll]
  simp only [Action.bind_apply, Action.get_apply, he]
  rfl

section Unregistered

variable (env : Environment) (f : Implementations μ) (p : Progress) {r : Registry μ}
  {x : Manifest.Entry} (rest : List Manifest.Entry) (hn : x.name ∉ r.entries.map (·.name))
  (hx : r.conflict? (descriptorFor x) = none)

include hn hx

lemma loadAll_of_crash (hc : (trial env f r.nextHandle x).isCrash = true) :
    loadAll env f p (x :: rest) r =
      ⟨.crashed, (load env f p x r).state, (load env f p x r).journal⟩ := by
  obtain ⟨error, he⟩ := Registry.getByName_error hn
  have hv := (load_spec env f p hx).1.value
  rw [List.any_cons, hc, Bool.true_or, if_pos rfl] at hv
  rw [loadAll]
  simp only [Action.bind_apply, Action.get_apply, he, hv, Action.pure_apply, List.append_nil,
    List.nil_append]

lemma loadAll_of_load (hc : (trial env f r.nextHandle x).isCrash = false)
    {y : Result (Registry μ) (Outcome Progress)}
    (hy : loadAll env f (p.record (trial env f r.nextHandle x)) rest (load env f p x r).state = y) :
    loadAll env f p (x :: rest) r =
      ⟨y.value, y.state, (load env f p x r).journal ++ y.journal⟩ := by
  obtain ⟨error, he⟩ := Registry.getByName_error hn
  have hv := (load_spec env f p hx).1.value
  rw [List.any_cons, hc, List.any_nil, Bool.or_self, if_neg Bool.false_ne_true] at hv
  rw [loadAll]
  simp only [Action.bind_apply, Action.get_apply, he, hv, List.nil_append]
  rw [← hy]
  rfl

end Unregistered

/-- The second pass attempts the entries that are not registered. -/
lemma loadAll_spec (env : Environment) (f : Implementations μ) {m : Manifest} (h : m.Valid)
    (p : Progress) {r : Registry μ} {xs : List Manifest.Entry} (hr : Conforms m r)
    (hm : ∀ x ∈ xs, x ∈ m.modules) (hxs : (xs.map (·.name)).Nodup) :
    Loads (trials env f r.nextHandle (xs.filter fun x => x.name ∉ r.entries.map (·.name))) p r
      (loadAll env f p xs r) := by
  induction xs generalizing p r with
  | nil => exact ⟨(List.append_nil _).symm, (List.append_nil _).symm, rfl, rfl⟩
  | cons x rest ih =>
    obtain ⟨hmx, hmrest⟩ := List.forall_mem_cons.mp hm
    obtain ⟨hfirst, hrest⟩ := List.nodup_cons.mp hxs
    by_cases hn : x.name ∈ r.entries.map (·.name)
    · rw [List.filter_cons_of_neg (by simpa using hn), loadAll_of_mem env f p rest hn]
      exact ih p hr hmrest hrest
    · have hx := conflict?_eq_none h hr hmx hn
      obtain ⟨hload, hnext⟩ := load_spec env f p hx
      rw [List.filter_cons_of_pos (by simpa using hn), trials]
      cases hc : (trial env f r.nextHandle x).isCrash with
      | true =>
        rw [loadAll_of_crash env f p rest hn hx hc]
        refine ⟨hload.entries, hload.instances, hload.calls, ?_⟩
        rw [List.any_cons, hc]
        rfl
      | false =>
        rw [loadAll_of_load env f p rest hn hx hc rfl, if_neg Bool.false_ne_true]
        apply hload.cons hc
        have htail := ih (p.record (trial env f r.nextHandle x)) (hload.conforms hr hmx) hmrest
          hrest
        rw [hload.filter_names hfirst, hnext] at htail
        exact htail

/-! ## The whole pass -/

/-- A pass is the first one over the registered modules, and then the second over the entries. -/
lemma sync_spec (env : Environment) (f : Implementations μ) (m : Manifest) (r : Registry μ)
    {x y : Result (Registry μ) (Outcome Progress)} (hx : reviseAll env m .start r.entries r = x)
    {p : Progress} (hp : x.value = .returned p) (hy : loadAll env f p m.modules x.state = y) :
    (sync env f m r).state = y.state ∧ (sync env f m r).calls = x.calls ++ y.calls ∧
      (y.value = .crashed → (sync env f m r).value = .crashed) ∧
      ∀ p, y.value = .returned p → (sync env f m r).value = .returned p.summary := by
  unfold sync
  simp only [Action.bind_apply, Action.get_apply, hx, hp, hy]
  cases hv : y.value with
  | crashed =>
    refine ⟨rfl, ?_, fun _ => rfl, fun _ hp => by cases hp⟩
    simp [Result.calls]
  | returned p =>
    refine ⟨rfl, ?_, (fun hc => by cases hc), fun q hq => ?_⟩
    · simp [Result.calls, Occurrence.call?]
    · cases hq
      rfl

lemma synced (env : Environment) (f : Implementations μ) {m : Manifest} (h : m.Valid)
    {r : Registry μ} {history : List Device.Call} (hr : r.Sound history)
    (hb : ∀ e ∈ dropped m r.entries, r.isBroken e.handle = false) :
    Synced m r history (planned env f m r) (sync env f m r) := by
  have hrevise := reviseAll_spec env m .start (List.nil_append r.entries).symm hr.names hr.handles
    hb
  have hfirst : (reviseAll env m .start r.entries r).state.entries = kept m r.entries := by
    rw [hrevise.entries, List.nil_append, List.append_nil]
  have hconforms : Conforms m (reviseAll env m .start r.entries r).state := hrevise.conforms
  have hload := loadAll_spec env f h (Progress.start.revised m r.entries) hconforms
    (fun x hx => hx) h.names
  rw [hfirst, hrevise.nextHandle] at hload
  change Loads (planned env f m r) _ _ _ at hload
  have horder : (planned env f m r).map (·.entry) <+: wanted m r.entries := trials_prefix _ _ _ _
  have hincreasing := trials_handles env f r.nextHandle (wanted m r.entries)
  change (planned env f m r).Pairwise _ at hincreasing
  have hatleast : ∀ t ∈ planned env f m r, r.nextHandle ≤ t.handle.number := fun t ht =>
    trials_handle_le ht
  have hcomplete : (∀ t ∈ planned env f m r, t.isCrash = false) →
      (planned env f m r).map (·.entry) = wanted m r.entries := trials_complete
  generalize planned env f m r = ts at hload horder hincreasing hatleast hcomplete ⊢
  obtain ⟨hstate, hcalls, hcrash, hreturn⟩ := sync_spec env f m r rfl hrevise.value rfl
  rw [hrevise.calls, hload.calls] at hcalls
  refine ⟨horder, ?_, ?_, hcalls, ?_, ?_, ?_, ?_, ?_, report_nodup h hr.names horder⟩
  · rw [hstate, hload.entries, hfirst]
  · rw [hstate, hload.instances, List.map_append, hrevise.handles]
  · intro e he hs
    have hn : ¬(settle m e).isNone := by
      rw [← Option.not_isSome, hs]
      exact Bool.false_ne_true
    obtain ⟨i, hi⟩ := Option.isSome_iff_exists.mp
      ((Registry.instance?_isSome r e.handle).mpr (hr.built _ (List.mem_map_of_mem he)))
    have hdropped : e.handle ∉ (dropped m r.entries).map (·.handle) := fun hc =>
      hn ((handle_mem_dropped hr.handles he).mp hc)
    refine ⟨i, hi, ?_, ?_⟩
    · rw [hstate]
      exact hload.instance?_of_some ((hrevise.others e.handle hdropped).trans hi)
    · rw [Device.closings_append, hcalls, closings_calls hr.handles he, if_neg hn,
        hr.closings_eq_zero he]
  · intro e he hs
    refine ⟨hr.closings_eq_zero he, ?_⟩
    rw [hcalls, closings_calls hr.handles he, hs]
    rfl
  · intro t ht response ha
    refine ⟨hatleast t ht, ?_, ?_⟩
    · have hnew : (reviseAll env m .start r.entries r).state.instance? t.handle = none := by
        rw [← Option.not_isSome_iff_eq_none, Registry.instance?_isSome, hrevise.handles]
        exact hr.fresh (hatleast t ht)
      rw [hstate]
      exact hload.instance?_of_answered hincreasing ht hnew ha
    · rw [hcalls]
      exact filter_calls_of_answered m hr hincreasing ht (hatleast t ht) ha
  · intro hno
    have hv := hload.value
    rw [any_isCrash_eq_false hno, if_neg Bool.false_ne_true] at hv
    refine ⟨hcomplete hno, ?_⟩
    rw [hreturn _ hv, report_eq h horder hno]
  · rintro ⟨t, ht, hc⟩
    apply hcrash
    rw [hload.value, if_pos (List.any_eq_true.mpr ⟨t, ht, hc⟩)]

lemma sync_crashes (env : Environment) (f : Implementations μ) (m : Manifest) {r : Registry μ}
    {history : List Device.Call} (hr : r.Sound history)
    (hb : ∃ e ∈ dropped m r.entries, r.isBroken e.handle) :
    sync env f m r = ⟨.crashed, (reviseAll env m .start r.entries r).state,
      (reviseAll env m .start r.entries r).journal⟩ := by
  have hrevise := reviseAll_crashes env m .start (List.nil_append r.entries).symm hr.names
    hr.handles hb
  unfold sync
  simp only [Action.bind_apply, Action.get_apply, hrevise, Action.pure_apply, List.nil_append,
    List.append_nil]

/-- Modules of which one cannot be initialised. -/
def revisable : Implementations Device.ScriptedModule :=
  let script (initFault : Option String) : Device.ScriptedModule :=
    .ofScript ⟨initFault, [], [], .data .null⟩
  ⟨[("broken", script (some "no device")), ("plain", script none)]⟩

/-- A manifest of entries, by name, implementation, operation, and permission. -/
def manifestOf (entries : List (String × String × String × Bool)) : Manifest :=
  ⟨entries.map fun (name, key, operation, allowed) =>
    ⟨name, some key, ["urn:d"], [operation], allowed, none⟩⟩

end ManagementServer.Catalog
