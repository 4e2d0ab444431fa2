import ManagementServer.Proofs.ConnectionLoop
import ManagementServer.Proofs.Descriptors
import ManagementServer.Proofs.ModuleLifetimes

/-!
# Which modules a session reaches

The modules that are asked to execute an operation depend on the bases of the session's capabilities
only, not on their queries or their order. A session that holds what the server says it can do
reaches every module that may be reached at all.
-/

namespace ManagementServer

namespace Text

variable {p q : Char → Bool}

lemma trimChars_append_left {blanks : List Char} (h : ∀ c ∈ blanks, p c = true)
    (cs : List Char) : trimChars p (blanks ++ cs) = trimChars p cs := by
  rw [trimChars, List.dropWhile_append_of_pos h, trimChars]

lemma trimChars_append_right {blanks : List Char} (h : ∀ c ∈ blanks, p c = true)
    (cs : List Char) : trimChars p (cs ++ blanks) = trimChars p cs := by
  have hblanks : blanks.dropWhile p = [] := List.dropWhile_eq_nil_iff.mpr h
  rw [trimChars, trimChars, List.dropWhile_append]
  split
  · rename_i hempty
    rw [List.isEmpty_iff] at hempty
    rw [hempty, hblanks]
  · rw [List.reverse_append,
      List.dropWhile_append_of_pos fun c hc => h c (List.mem_reverse.mp hc)]

/-- A text is what trimming leaves of it, between blanks. -/
lemma trimChars_split (p : Char → Bool) (cs : List Char) :
    ∃ before behind, (∀ c ∈ before, p c = true) ∧ (∀ c ∈ behind, p c = true) ∧
      cs = before ++ (trimChars p cs ++ behind) := by
  refine ⟨cs.takeWhile p, (cs.dropWhile p).rtakeWhile p, fun c hc => List.mem_takeWhile_imp hc,
    fun c hc => List.mem_rtakeWhile_imp hc, ?_⟩
  rw [trimChars_eq_rdropWhile, List.rdropWhile_append_rtakeWhile, List.takeWhile_append_dropWhile]

/-- What is cut off behind a character that is not blank is cut off a trimmed text as well. -/
lemma trimChars_takeWhile (h : ∀ c, p c = true → q c = true) (cs : List Char) :
    trimChars p ((trimChars p cs).takeWhile q) = trimChars p (cs.takeWhile q) := by
  obtain ⟨before, behind, hbefore, hbehind, hcs⟩ := trimChars_split p cs
  conv_rhs => rw [hcs]
  rw [List.takeWhile_append_of_pos fun c hc => h c (hbefore c hc), trimChars_append_left hbefore,
    List.takeWhile_append]
  split
  · rename_i hwhole
    have hall : (trimChars p cs).takeWhile q = trimChars p cs :=
      (List.takeWhile_prefix q).eq_of_length hwhole
    rw [hall, List.takeWhile_eq_self_iff.mpr fun c hc => h c (hbehind c hc),
      trimChars_append_right hbehind]
  · rfl

end Text

namespace Capability

/-- Blanks around a URI are not part of its base. -/
lemma base_trim (uri : String) : base (Text.trim uri) = base uri := by
  have hblank (c : Char) (h : Text.isBlankChar c = true) : (c != '?') = true := by
    rw [bne_iff_ne]
    rintro rfl
    exact absurd h (by decide)
  simp only [base, Text.trim, String.toList_ofList]
  rw [Text.trimChars_takeWhile hblank]

/-- A URI with a query, if there is one. -/
def withQuery (uri : String) : Option String → String
  | none => uri
  | some query => uri ++ "?" ++ query

/-- The query is not part of the base. -/
lemma base_withQuery (uri : String) (query : Option String) :
    base (withQuery uri query) = base uri := by
  cases query with
  | none => rfl
  | some query =>
    have hcut : (uri ++ "?" ++ query).toList.takeWhile (· != '?') =
        uri.toList.takeWhile (· != '?') := by
      rw [String.toList_append, String.toList_append, List.append_assoc, List.takeWhile_append]
      split
      · rename_i hwhole
        have hmark : ("?".toList ++ query.toList).takeWhile (· != '?') = [] := rfl
        rw [hmark, List.append_nil]
        exact ((List.takeWhile_prefix _).eq_of_length hwhole).symm
      · rfl
    rw [withQuery, base, hcut, base]

end Capability

namespace CapabilitySet

/-- The bases of the capabilities. -/
def bases (s : CapabilitySet) : List String := s.uris.map Capability.base

lemma contains_iff {s : CapabilitySet} {uri : String} :
    s.contains uri = true ↔ Capability.base uri ∈ s.bases := by
  simp [contains, bases]

lemma intersects_iff {s other : CapabilitySet} :
    s.intersects other = true ↔ ∃ base ∈ s.bases, base ∈ other.bases := by
  simp [intersects, contains_iff, bases]

lemma mem_bases_insert {s : CapabilitySet} {uri base : String} :
    base ∈ (s.insert uri).bases ↔
      base ∈ s.bases ∨ Text.trim uri ≠ "" ∧ base = Capability.base uri := by
  rw [insert, tryInsert]
  split
  · rename_i hrefused
    rw [Bool.or_eq_true, beq_iff_eq, contains_iff, Capability.base_trim] at hrefused
    refine ⟨.inl, fun h => h.elim id ?_⟩
    rintro ⟨hblank, rfl⟩
    exact hrefused.resolve_left hblank
  · rename_i hadded
    rw [Bool.or_eq_true, beq_iff_eq, not_or] at hadded
    simp [bases, Capability.base_trim, hadded.1]

lemma mem_bases_insertAll {s : CapabilitySet} {uris : List String} {base : String} :
    base ∈ (s.insertAll uris).bases ↔
      base ∈ s.bases ∨ ∃ uri ∈ uris, Text.trim uri ≠ "" ∧ base = Capability.base uri := by
  induction uris generalizing s with
  | nil => simp [insertAll]
  | cons uri rest ih =>
    have hcons : s.insertAll (uri :: rest) = (s.insert uri).insertAll rest := rfl
    rw [hcons, ih, mem_bases_insert, or_assoc, List.exists_mem_cons_iff]

lemma mem_bases_extend {s other : CapabilitySet} (h : other.IsProper) {base : String} :
    base ∈ (s.extend other).bases ↔ base ∈ s.bases ∨ base ∈ other.bases := by
  rw [extend, mem_bases_insertAll]
  refine or_congr_right ⟨?_, fun hbase => ?_⟩
  · rintro ⟨uri, huri, -, rfl⟩
    exact List.mem_map_of_mem huri
  · obtain ⟨uri, huri, rfl⟩ := List.mem_map.mp hbase
    obtain ⟨hblank, htrim⟩ := h.trimmed uri huri
    exact ⟨uri, huri, by rw [htrim]; exact hblank, rfl⟩

end CapabilitySet

namespace Device

open ManagementServer.Action (Preserves)

namespace Registry

variable {μ : Type}

/-! ## The modules that match -/

lemma isEligible_iff {operation : String} {s : CapabilitySet} {e : Entry} :
    isEligible operation s e = true ↔
      e.descriptor.allowed = true ∧ e.descriptor.implements operation = true ∧
        ∃ base ∈ e.descriptor.capabilities.bases, base ∈ s.bases := by
  simp only [isEligible, Bool.and_eq_true, CapabilitySet.intersects_iff, and_assoc]

lemma isEligible_mono {s s' : CapabilitySet} (h : s.bases ⊆ s'.bases) {operation : String}
    {e : Entry} (he : isEligible operation s e = true) : isEligible operation s' e = true := by
  obtain ⟨hallowed, himplements, base, hbase, hheld⟩ := isEligible_iff.mp he
  exact isEligible_iff.mpr ⟨hallowed, himplements, base, hbase, h hheld⟩

lemma matching_mono (r : Registry μ) (operation : String) {s s' : CapabilitySet}
    (h : s.bases ⊆ s'.bases) :
    (r.matching operation s).Sublist (r.matching operation s') :=
  List.monotone_filter_right r.entries fun _ => isEligible_mono h

lemma matching_congr (r : Registry μ) (operation : String) {s s' : CapabilitySet}
    (h : ∀ base, base ∈ s.bases ↔ base ∈ s'.bases) :
    r.matching operation s = r.matching operation s' := by
  refine List.filter_congr fun e _ => Bool.eq_iff_iff.mpr ⟨?_, ?_⟩
  · exact isEligible_mono fun base => (h base).mp
  · exact isEligible_mono fun base => (h base).mpr

/-! ## What the registered modules can do -/

/-- The capabilities of every registered module are a proper set. -/
def IsDescribed (r : Registry μ) : Prop :=
  ∀ e ∈ r.entries, e.descriptor.capabilities.IsProper

lemma mem_bases_capabilities {r : Registry μ} (h : r.IsDescribed) {base : String} :
    base ∈ r.capabilities.bases ↔
      ∃ e ∈ r.entries, e.descriptor.allowed = true ∧ base ∈ e.descriptor.capabilities.bases := by
  have hfold (es : List Entry) (hes : ∀ e ∈ es, e.descriptor.capabilities.IsProper)
      (s : CapabilitySet) :
      base ∈ (es.foldl (fun acc e => acc.extend e.descriptor.capabilities) s).bases ↔
        base ∈ s.bases ∨ ∃ e ∈ es, base ∈ e.descriptor.capabilities.bases := by
    induction es generalizing s with
    | nil => simp
    | cons e rest ih =>
      rw [List.foldl_cons, ih (fun e' he' => hes e' (List.mem_cons_of_mem _ he')),
        CapabilitySet.mem_bases_extend (hes e List.mem_cons_self), or_assoc,
        List.exists_mem_cons_iff]
  rw [capabilities, hfold _ fun e he => h e (List.mem_of_mem_filter he)]
  simp [CapabilitySet.bases, CapabilitySet.empty, and_assoc]

/-! ## What the server says it can do -/

/-- What the server answers when it is asked for its capabilities. -/
def advertised (r : Registry μ) : CapabilitySet :=
  CapabilitySet.serverBase.extend r.capabilities

lemma capabilities_isProper (r : Registry μ) : r.capabilities.IsProper := by
  have hfold (es : List Entry) (s : CapabilitySet) (hs : s.IsProper) :
      (es.foldl (fun acc e => acc.extend e.descriptor.capabilities) s).IsProper := by
    induction es generalizing s with
    | nil => exact hs
    | cons e rest ih => exact ih _ (hs.insertAll e.descriptor.capabilities.uris)
  exact hfold _ _ CapabilitySet.isProper_empty

/-- A session that says hello with what the server has answered holds just that. -/
lemma ofList_advertised (r : Registry μ) :
    CapabilitySet.ofList r.advertised.uris = r.advertised :=
  CapabilitySet.ofList_uris ((CapabilitySet.isProper_ofList _).insertAll r.capabilities.uris)

lemma mem_bases_advertised {r : Registry μ} (h : r.IsDescribed) {e : Entry}
    (he : e ∈ r.entries) (hallowed : e.descriptor.allowed = true) {base : String}
    (hbase : base ∈ e.descriptor.capabilities.bases) : base ∈ r.advertised.bases :=
  (CapabilitySet.mem_bases_extend r.capabilities_isProper).mpr
    (.inr ((mem_bases_capabilities h).mpr ⟨e, he, hallowed, hbase⟩))

lemma matching_advertised {r : Registry μ} (h : r.IsDescribed) (operation : String) :
    r.matching operation r.advertised =
      r.entries.filter fun e => e.descriptor.allowed && e.descriptor.implements operation &&
        !e.descriptor.capabilities.uris.isEmpty := by
  refine List.filter_congr fun e he => Bool.eq_iff_iff.mpr ?_
  rw [isEligible_iff, Bool.and_eq_true, Bool.and_eq_true, and_assoc]
  refine and_congr_right fun hallowed => and_congr_right fun _ => ?_
  rw [Bool.not_eq_true', List.isEmpty_eq_false_iff_exists_mem]
  constructor
  · rintro ⟨base, hbase, -⟩
    obtain ⟨uri, huri, -⟩ := List.mem_map.mp hbase
    exact ⟨uri, huri⟩
  · rintro ⟨uri, huri⟩
    have hbase := List.mem_map_of_mem (f := Capability.base) huri
    exact ⟨_, hbase, mem_bases_advertised h he hallowed hbase⟩

lemma matching_of_disjoint {r : Registry μ} (h : r.IsDescribed) (operation : String)
    {s : CapabilitySet} (hs : ∀ base ∈ s.bases, base ∉ r.advertised.bases) :
    r.matching operation s = [] := by
  refine List.filter_eq_nil_iff.mpr fun e he heligible => ?_
  obtain ⟨hallowed, -, base, hbase, hheld⟩ := isEligible_iff.mp heligible
  exact hs base hheld (mem_bases_advertised h he hallowed hbase)

/-! ## Registries that are in use -/

/-- What holds of a registry behind any operations, with the capabilities of its modules. -/
def SoundlyDescribed (r : Registry μ) (history : List Call) : Prop :=
  r.Sound history ∧ r.IsDescribed

lemma IsDescribed.of_map {r r' : Registry μ} (h : r.IsDescribed)
    (hmap : r'.entries.map (·.descriptor.capabilities) =
      r.entries.map (·.descriptor.capabilities)) : r'.IsDescribed := by
  intro e he
  have hmem := List.mem_map_of_mem (f := (·.descriptor.capabilities)) he
  rw [hmap] at hmem
  obtain ⟨old, hold, hsame⟩ := List.mem_map.mp hmem
  exact hsame ▸ h old hold

lemma describes_setAllowed (name : String) (allowed : Bool) :
    Preserves SoundlyDescribed (setAllowed name allowed : Action (Registry μ) _) := by
  rintro r history ⟨hsound, h⟩
  refine ⟨hsound.alters (alters_setAllowed name allowed r), ?_⟩
  by_cases hm : name ∈ r.entries.map (·.name)
  · rw [(setAllowed_of_mem allowed hm).2.1]
    exact h.of_map (allow_map _ name allowed r.entries fun _ => rfl)
  · rw [(setAllowed_of_not_mem allowed hm).1]
    exact h

section Operations

variable [DeviceModule μ]

lemma describes_add (env : Environment) {d : Descriptor} (hd : d.capabilities.IsProper)
    (module : μ) : Preserves SoundlyDescribed (add env d module) := by
  rintro r history ⟨hsound, h⟩
  refine ⟨hsound.alters (alters_add env d module r), ?_⟩
  rcases add_spec env d module r with ⟨error, heq⟩ | ⟨outcome, -, hentries, -⟩
  · rw [heq]
    exact h
  · intro e he
    rw [hentries] at he
    rcases List.mem_append.mp he with he | he
    · exact h e he
    · rcases enrolled_cases d ⟨r.nextHandle⟩ outcome with hone | hnone
      · rw [hone, List.mem_singleton] at he
        rw [he]
        exact hd
      · rw [hnone] at he
        cases he

lemma describes_unload (env : Environment) (handle : Handle) :
    Preserves SoundlyDescribed (unload env handle : Action (Registry μ) _) := by
  rintro r history ⟨hsound, h⟩
  refine ⟨hsound.alters (alters_unload env handle hsound.handles), ?_⟩
  by_cases hm : handle ∈ r.entries.map (·.handle)
  · obtain ⟨e, he, rfl⟩ := List.mem_map.mp hm
    obtain ⟨ht, -⟩ := unload_of_mem env hsound.handles he
    intro kept hkept
    rw [ht.entries] at hkept
    exact h kept (List.mem_of_mem_filter hkept)
  · rw [unload_of_not_mem env hm]
    exact h

lemma describes_sync (env : Environment) (f : Implementations μ) (m : Manifest) :
    Preserves SoundlyDescribed (Catalog.sync env f m) :=
  Catalog.Withstands.sync
    { unload := describes_unload
      setAllowed := describes_setAllowed
      add := fun env x module =>
        describes_add env (CapabilitySet.isProper_ofList x.capabilities) module } env f m

end Operations

end Registry

variable {μ : Type} [DeviceModule μ]

/-- The capabilities of a module that is registered are a proper set. -/
def Operation.IsDescribed : Operation μ → Prop
  | .add _ d _ => d.capabilities.IsProper
  | _ => True

lemma Operation.describes_act {o : Operation μ} (ho : o.IsDescribed) :
    Preserves Registry.SoundlyDescribed o.act := by
  cases o with
  | add env d module => exact (Registry.describes_add env ho module).discard
  | remove env handle => exact (Registry.describes_unload env handle).discard
  | setAllowed name allowed => exact (Registry.describes_setAllowed name allowed).discard
  | execute env e session operation payload =>
    refine Preserves.discard ?_
    rintro r history ⟨hsound, h⟩
    have hserves := Registry.serves_execute env e session operation payload r
    exact ⟨hsound.of_serves hserves, fun e he => h e (hserves.entries ▸ he)⟩
  | stateData env e =>
    refine Preserves.discard ?_
    rintro r history ⟨hsound, h⟩
    have hserves := Registry.serves_stateData env e r
    exact ⟨hsound.of_serves hserves, fun e he => h e (hserves.entries ▸ he)⟩
  | closeAll env =>
    refine Preserves.discard ?_
    rintro r history ⟨hsound, -⟩
    obtain ⟨left, hleft⟩ := r.upToCrash_prefix r.entries.reverse
    refine ⟨hsound.alters (Registry.alters_unloadAll env hsound.handles hleft), fun e he => ?_⟩
    rw [(Registry.unloadAll_spec env hsound.handles).1] at he
    cases he
  | changeBus change =>
    rintro r history ⟨hsound, h⟩
    exact ⟨hsound.alters (.serves (Registry.serves_bus r _)), h⟩
  | sync env f m => exact (Registry.describes_sync env f m).discard

lemma Operation.describes_all {operations : List (Operation μ)}
    (h : ∀ o ∈ operations, o.IsDescribed) :
    Preserves Registry.SoundlyDescribed (Operation.all operations) := by
  induction operations with
  | nil => exact Preserves.pure ()
  | cons o rest ih =>
    exact Preserves.bind (describes_act (h o List.mem_cons_self)) fun _ =>
      ih fun o' ho' => h o' (List.mem_cons_of_mem _ ho')

lemma Registry.isDescribed_after (bus : Event.Bus) {operations : List (Operation μ)}
    (h : ∀ o ∈ operations, o.IsDescribed) :
    (Registry.after bus operations).state.IsDescribed :=
  (Operation.describes_all h _ [] ⟨Registry.sound_ofBus bus, fun _ he => nomatch he⟩).2

/-- The modules of a registry that match depend on the bases of a session's capabilities only, so
neither on their queries nor on their order, and with more bases more modules match. The server
answers a connection that asks for its capabilities with a set that every module matches which is
allowed, implements the operation and has a capability; no module matches a set that has no base in
common with it. -/
theorem matching_by_bases (bus : Event.Bus) {operations : List (Operation μ)}
    (hdescribed : ∀ o ∈ operations, o.IsDescribed) (operation : String) :
    let r := (Registry.after bus operations).state
    (∀ s s' : CapabilitySet, (∀ base, base ∈ s.bases ↔ base ∈ s'.bases) →
        r.matching operation s = r.matching operation s') ∧
      (∀ (s s' : CapabilitySet) (named named' : List (String × Option String)),
        (named.map (·.1)).Perm (named'.map (·.1)) →
          s.uris = named.map (fun n => Capability.withQuery n.1 n.2) →
            s'.uris = named'.map (fun n => Capability.withQuery n.1 n.2) →
              r.matching operation s = r.matching operation s') ∧
      (∀ s s' : CapabilitySet, s.bases ⊆ s'.bases →
        (r.matching operation s).Sublist (r.matching operation s')) ∧
      (∀ (l : Server.Loop) (env : Environment) (size : Nat) (shared : Server.Shared μ),
        shared.modules = r → l.phase = .describing →
          (l.step env size shared).value = l.goTo (.answering (.capabilities r.advertised))) ∧
      r.matching operation (.ofList r.advertised.uris) =
        r.entries.filter (fun e => e.descriptor.allowed && e.descriptor.implements operation &&
          !e.descriptor.capabilities.uris.isEmpty) ∧
      ∀ s : CapabilitySet, (∀ base ∈ s.bases, base ∉ r.advertised.bases) →
        r.matching operation s = [] := by
  intro r
  have h : r.IsDescribed := Registry.isDescribed_after bus hdescribed
  refine ⟨fun s s' => r.matching_congr operation, ?_, fun s s' => r.matching_mono operation, ?_,
    ?_, fun s => Registry.matching_of_disjoint h operation⟩
  · intro s s' named named' hperm hs hs'
    have hbases (t : CapabilitySet) (ns : List (String × Option String))
        (ht : t.uris = ns.map fun n => Capability.withQuery n.1 n.2) :
        t.bases = (ns.map (·.1)).map Capability.base := by
      simp [CapabilitySet.bases, ht, Capability.base_withQuery]
    refine r.matching_congr operation fun base => ?_
    rw [hbases s named hs, hbases s' named' hs']
    exact (hperm.map Capability.base).mem_iff
  · intro l env size shared hmodules hphase
    rw [Server.Loop.step_describing hphase, hmodules]
    rfl
  · rw [r.ofList_advertised]
    exact Registry.matching_advertised h operation

/-- Two modules, of which one is not allowed. Its capability is not among those of the server. -/
theorem matching_by_bases_pair :
    let module := ScriptedModule.ofScript ⟨none, [], [], .data .null⟩
    let operations : List (Operation ScriptedModule) :=
      [.add .calm ⟨"device", .ofList ["urn:d?revision=2024-01-01"], ["get"], none, true⟩ module,
        .add .calm ⟨"spare", .ofList ["urn:s"], ["get"], none, true⟩ module,
        .setAllowed "spare" false]
    let r := (Registry.after (.ofCapacity 4) operations).state
    (∀ o ∈ operations, o.IsDescribed) ∧
      r.matching "get" ⟨["urn:s", "urn:d?b=1"]⟩ = r.matching "get" ⟨["urn:d", "urn:s?a=2"]⟩ ∧
      (r.matching "get" (.ofList r.advertised.uris)).map (·.name) = ["device"] ∧
      r.matching "get" ⟨["urn:s"]⟩ = [] := by
  intro module operations r
  have hdescribed : ∀ o ∈ operations, o.IsDescribed := by
    intro o ho
    simp only [operations, List.mem_cons, List.not_mem_nil, or_false] at ho
    rcases ho with rfl | rfl | rfl
    · exact CapabilitySet.isProper_ofList _
    · exact CapabilitySet.isProper_ofList _
    · trivial
  obtain ⟨-, hqueries, -, -, hadvertised, hdisjoint⟩ :=
    matching_by_bases (.ofCapacity 4) hdescribed "get"
  refine ⟨hdescribed, ?_, ?_, hdisjoint _ ?_⟩
  · exact hqueries _ _ [("urn:s", none), ("urn:d", some "b=1")]
      [("urn:d", none), ("urn:s", some "a=2")] (List.Perm.swap _ _ _) rfl rfl
  · rw [hadvertised]
    decide +kernel
  · decide +kernel

end Device

end ManagementServer
