import ManagementServer.Proofs.RegistryHistory

/-!
# Actions that do not ask a module

Two registries that differ in the module of one handle at most (`Registry.Touches`) are told apart
only by asking that module for something, or by closing it when it crashes then. Everything else
comes to the same in both (`Registry.Isolated`): registering and removing modules, asking another
module, and following a manifest.
-/

namespace ManagementServer.Device

variable {μ α β : Type}

namespace Registry

variable {handle : Handle} {r s : Registry μ}

lemma Touches.symm (h : Touches handle r s) : Touches handle s r :=
  ⟨h.entries.symm, h.nextHandle.symm, h.handles.symm, fun other hn => (h.others other hn).symm⟩

lemma Touches.find?_eq (h : Touches handle r s) (p : Entry → Bool) : s.find? p = r.find? p := by
  rw [find?, h.entries, find?]

lemma Touches.getByName_eq (h : Touches handle r s) (name : String) :
    s.getByName name = r.getByName name := by
  rw [getByName, h.find?_eq, getByName]

lemma Touches.getByHandle_eq (h : Touches handle r s) (other : Handle) :
    s.getByHandle other = r.getByHandle other := by
  rw [getByHandle, h.find?_eq, getByHandle]

lemma Touches.conflict?_eq (h : Touches handle r s) (d : Descriptor) :
    s.conflict? d = r.conflict? d := by
  unfold conflict? find?
  rw [h.entries]

/-- Whether the module of a handle has crashed. -/
def hasCrashed (r : Registry μ) (handle : Handle) : Bool :=
  (r.instance? handle).any (·.hasCrashed)

lemma hasCrashed_of_instance? (h : r.hasCrashed handle) :
    ∃ i, r.instance? handle = some i ∧ i.hasCrashed = true := by
  obtain ⟨i, hi⟩ := Option.isSome_iff_exists.mp (Option.isSome_of_any h)
  rw [hasCrashed, hi] at h
  exact ⟨i, hi, h⟩

/-- What an action comes to in two registries that differ in the module of one handle at most: the
same, but for what that module does when it is closed. -/
structure Alike (handle : Handle) (r s : Registry μ) (x y : Result (Registry μ) α) : Prop where
  value : y.value = x.value
  state : Touches handle x.state y.state
  calls : y.calls = x.calls
  others : (∀ c ∈ x.calls, c.handle ≠ handle) → y.journal = x.journal ∧
    ∃ events : List Event.Notification, x.state.bus = events.foldl Event.Bus.publish r.bus ∧
      y.state.bus = events.foldl Event.Bus.publish s.bus

lemma Alike.bind {x : Action (Registry μ) α} {f : α → Action (Registry μ) β}
    (h : Alike handle r s (x r) (x s))
    (h' : Alike handle (x r).state (x s).state (f (x r).value (x r).state)
      (f (x r).value (x s).state)) : Alike handle r s ((x >>= f) r) ((x >>= f) s) := by
  refine ⟨?_, ?_, ?_, fun hc => ?_⟩
  · rw [Action.bind_apply, h.value]
    exact h'.value
  · rw [Action.bind_apply, Action.bind_apply, h.value]
    exact h'.state
  · rw [Action.calls_bind, Action.calls_bind, h.value, h.calls, h'.calls]
  · rw [Action.calls_bind] at hc
    obtain ⟨hc, hc'⟩ := List.forall_mem_append.mp hc
    obtain ⟨hjournal, events, hr, hs⟩ := h.others hc
    obtain ⟨hjournal', events', hr', hs'⟩ := h'.others hc'
    refine ⟨?_, events ++ events', ?_, ?_⟩
    · rw [Action.bind_apply, Action.bind_apply, h.value, hjournal, hjournal']
    · rw [List.foldl_append, ← hr]
      exact hr'
    · rw [List.foldl_append, ← hs, Action.bind_apply, h.value]
      exact hs'

lemma Touches.isSome_eq (h : Touches handle r s) (other : Handle) :
    (s.instance? other).isSome = (r.instance? other).isSome := by
  rw [Bool.eq_iff_iff, instance?_isSome, instance?_isSome, h.handles]

variable [DeviceModule μ]

/-- Wherever the module of a handle is closed in those calls, it does not crash. -/
def ClosesWell (r : Registry μ) (handle : Handle) (calls : List Call) : Prop :=
  r.isBroken handle → closings handle calls = 0

lemma ClosesWell.left {calls calls' : List Call} (h : r.ClosesWell handle (calls ++ calls')) :
    r.ClosesWell handle calls := by
  intro hb
  have hnone := h hb
  rw [closings_append] at hnone
  omega

lemma ClosesWell.right {calls calls' : List Call} (h : r.ClosesWell handle (calls ++ calls'))
    (hi : s.instance? handle = r.instance? handle) : s.ClosesWell handle calls' := by
  intro hb
  rw [isBroken, hi] at hb
  have hnone := h hb
  rw [closings_append] at hnone
  omega

/-- What an action that is isolated comes to in a registry. -/
structure IsolatedAt (handle : Handle) (own : Prop) (r : Registry μ) (x : Action (Registry μ) α) :
    Prop where
  alike : ∀ s, Touches handle r s →
    (own → (r.instance? handle).isSome ∧ r.ClosesWell handle (x r).calls ∧
      s.ClosesWell handle (x s).calls) → Alike handle r s (x r) (x s)
  unasked : ∀ c ∈ (x r).calls, c.isRequest → c.handle ≠ handle
  crashed : r.hasCrashed handle → (x r).state.hasCrashed handle

/-- An action that comes to the same whatever module a handle stands for, asks that module for
nothing, and lets it not recover from a crash. `own` says whether it may close the module, which
must not crash then. -/
structure Isolated (handle : Handle) (own : Prop) (x : Action (Registry μ) α) : Prop where
  isolatedAt : ∀ r, IsolatedAt handle own r x
  kept : ¬own → ∀ r i, r.instance? handle = some i → (x r).state.instance? handle = some i

namespace Isolated

variable {own own' : Prop}

lemma mono {x : Action (Registry μ) α} (hx : Isolated handle own x) (h : own → own') :
    Isolated handle own' x := by
  refine ⟨fun r => ?_, fun hn => hx.kept fun ho => hn (h ho)⟩
  obtain ⟨halike, hunasked, hcrashed⟩ := hx.isolatedAt r
  exact ⟨fun s hs hg => halike s hs fun ho => hg (h ho), hunasked, hcrashed⟩

/-- At most one of two steps closes the module. -/
lemma bind_disjoint {x : Action (Registry μ) α} {f : α → Action (Registry μ) β}
    (hx : Isolated handle own x) (hf : ∀ a, Isolated handle own' (f a)) (hd : own → ¬own') :
    Isolated handle (own ∨ own') (x >>= f) := by
  refine ⟨fun r => ⟨fun s hs hg => ?_, fun c hc => ?_, fun hc => ?_⟩, fun hn r i hi => ?_⟩
  · simp only [Action.calls_bind] at hg
    have hfirst := (hx.isolatedAt r).alike s hs fun ho =>
      ⟨(hg (.inl ho)).1, (hg (.inl ho)).2.1.left, (hg (.inl ho)).2.2.left⟩
    refine hfirst.bind (((hf _).isolatedAt _).alike _ hfirst.state fun ho' => ?_)
    obtain ⟨hi, hr, hs'⟩ := hg (.inr ho')
    obtain ⟨i, hi⟩ := Option.isSome_iff_exists.mp hi
    obtain ⟨j, hj⟩ := Option.isSome_iff_exists.mp ((hs.isSome_eq handle).trans (by rw [hi]; rfl))
    have hkept := hx.kept (fun ho => hd ho ho')
    rw [hfirst.value] at hs'
    refine ⟨by rw [hkept r i hi]; rfl, hr.right ?_, hs'.right ?_⟩
    · rw [hkept r i hi, hi]
    · rw [hkept s j hj, hj]
  · rw [Action.calls_bind] at hc
    rcases List.mem_append.mp hc with hc | hc
    · exact (hx.isolatedAt r).unasked c hc
    · exact ((hf _).isolatedAt _).unasked c hc
  · exact ((hf _).isolatedAt _).crashed ((hx.isolatedAt r).crashed hc)
  · exact (hf _).kept (fun ho => hn (.inr ho)) _ i (hx.kept (fun ho => hn (.inl ho)) r i hi)

lemma bind {x : Action (Registry μ) α} {f : α → Action (Registry μ) β} (hx : Isolated handle own x)
    (hf : ∀ a, Isolated handle False (f a)) : Isolated handle own (x >>= f) :=
  (hx.bind_disjoint hf fun _ h => h).mono fun h => h.resolve_right id

lemma bind_own {x : Action (Registry μ) α} {f : α → Action (Registry μ) β}
    (hx : Isolated handle False x) (hf : ∀ a, Isolated handle own (f a)) :
    Isolated handle own (x >>= f) :=
  (hx.bind_disjoint hf False.elim).mono fun h => h.resolve_left id

/-- What is done may depend on what the registry shows of itself. -/
lemma getAt {f : Registry μ → Action (Registry μ) α} (hf : Isolated handle own (f r))
    (hs : ∀ s, Touches handle r s → f s = f r) :
    IsolatedAt handle own r (Action.get >>= f) := by
  have hat : ∀ s, (Action.get >>= f) s = f s s := fun _ => rfl
  obtain ⟨halike, hunasked, hcrashed⟩ := hf.isolatedAt r
  refine ⟨fun s h hg => ?_, hunasked, hcrashed⟩
  rw [hat, hat, hs s h] at hg ⊢
  exact halike s h hg

lemma get {f : Registry μ → Action (Registry μ) α} (hf : ∀ r, Isolated handle own (f r))
    (hs : ∀ r s, Touches handle r s → f s = f r) : Isolated handle own (Action.get >>= f) :=
  ⟨fun r => getAt (hf r) (hs r), fun hn r => (hf r).kept hn r⟩

/-- A step without calls. -/
lemma of_silent {x : Action (Registry μ) α} (hv : ∀ r s, Touches handle r s →
      (x s).value = (x r).value ∧ Touches handle (x r).state (x s).state ∧
        (x s).journal = (x r).journal)
    (hc : ∀ r, (x r).calls = [])
    (hi : ∀ r i, r.instance? handle = some i → (x r).state.instance? handle = some i)
    (hb : ∃ events : List Event.Notification, ∀ r,
      (x r).state.bus = events.foldl Event.Bus.publish r.bus) : Isolated handle False x := by
  refine ⟨fun r => ⟨fun s h _ => ?_, fun c hm => ?_, fun hcrash => ?_⟩, fun _ => hi⟩
  · obtain ⟨hvalue, hstate, hjournal⟩ := hv r s h
    obtain ⟨events, hb⟩ := hb
    refine ⟨hvalue, hstate, ?_, fun _ => ⟨hjournal, events, hb r, hb s⟩⟩
    rw [hc, hc]
  · rw [hc] at hm
    cases hm
  · obtain ⟨i, hinstance, hcrashed⟩ := hasCrashed_of_instance? hcrash
    rw [hasCrashed, hi r i hinstance]
    exact hcrashed

lemma pure (a : α) : Isolated handle False (Pure.pure a : Action (Registry μ) α) :=
  of_silent (fun _ _ h => ⟨rfl, h, rfl⟩) (fun _ => rfl) (fun _ _ h => h) ⟨[], fun _ => rfl⟩

lemma log (level : Log.Level) (target : Log.Target) (message : String)
    (fields : List (String × Json)) :
    Isolated handle False (Action.log level target message fields : Action (Registry μ) Unit) :=
  of_silent (fun _ _ h => ⟨rfl, h, rfl⟩) (fun _ => rfl) (fun _ _ h => h) ⟨[], fun _ => rfl⟩

lemma modify {f : Registry μ → Registry μ}
    (hf : ∀ r s, Touches handle r s → Touches handle (f r) (f s))
    (hi : ∀ r i, r.instance? handle = some i → (f r).instance? handle = some i)
    (hb : ∀ r, (f r).bus = r.bus) : Isolated handle False (Action.modify f) :=
  of_silent (fun r s h => ⟨rfl, hf r s h, rfl⟩) (fun _ => rfl) hi ⟨[], hb⟩

/-- Lets something happen that is no request to the module. -/
lemma emit {o : Occurrence} (ho : ∀ c, o.call? = some c → c.isRequest → c.handle ≠ handle) :
    Isolated handle False (Action.emit o : Action (Registry μ) Unit) := by
  refine ⟨fun r => ⟨fun s h _ => ?_, fun c hc => ?_, fun hc => hc⟩, fun _ _ _ hi => hi⟩
  · exact ⟨rfl, h, rfl, fun _ => ⟨rfl, [], rfl, rfl⟩⟩
  · obtain ⟨o', ho', hcall⟩ := List.mem_filterMap.mp hc
    rw [List.mem_singleton.mp ho'] at hcall
    exact ho c hcall

/-- Only the entries change. -/
lemma modify_entries (f : List Entry → List Entry) :
    Isolated handle False
      (Action.modify fun r : Registry μ => { r with entries := f r.entries }) := by
  refine modify (fun r s h => ?_) (fun r i hi => hi) fun _ => rfl
  refine ⟨?_, h.nextHandle, h.handles, h.others⟩
  exact congrArg f h.entries

lemma store_other {other : Handle} (ho : other ≠ handle) (module : μ) (crashed : Bool) :
    Isolated handle False (Action.modify (Registry.store other module crashed)) := by
  refine modify (fun r s h => ?_) (fun r i hi => ?_) fun _ => rfl
  · have hr := touches_store other module crashed r
    have hs := touches_store other module crashed s
    refine ⟨h.entries, h.nextHandle, hs.handles.trans (h.handles.trans hr.handles.symm), ?_⟩
    intro third hn
    rw [instance?_store, instance?_store, h.others third hn]
  · exact ((touches_store other module crashed r).others handle ho.symm).trans hi

lemma perform (env : Environment) (effects : List Effect) :
    Isolated handle False (Registry.perform env effects : Action (Registry μ) Unit) := by
  induction effects with
  | nil => exact pure ()
  | cons effect rest ih =>
    cases effect with
    | publish event body =>
      refine bind ?_ fun _ => ih
      refine of_silent (fun r s h => ⟨rfl, ?_, rfl⟩) (fun _ => rfl) (fun r i hi => hi) ?_
      · exact ⟨h.entries, h.nextHandle, h.handles, h.others⟩
      · exact ⟨[.at env.now event body], fun _ => rfl⟩
    | log record => exact bind (emit fun c hc => by cases hc) fun _ => ih

lemma setAllowed (name : String) (allowed : Bool) :
    Isolated handle False (Registry.setAllowed name allowed : Action (Registry μ) _) := by
  refine get (fun r => ?_) fun r s h => ?_
  · cases r.getByName name with
    | error error => exact pure _
    | ok e => exact bind (modify_entries _) fun _ => bind (log _ _ _ _) fun _ => pure _
  · rw [h.getByName_eq]

lemma initialise (env : Environment) (d : Descriptor) (issued : Handle) (module : μ) :
    Isolated handle False (Registry.initialise env d issued module) := by
  refine bind (modify (fun r s h => ?_) (fun r i hi => ?_) fun _ => rfl) fun _ => ?_
  · refine ⟨h.entries, congrArg (· + 1) h.nextHandle, ?_, fun other hn => ?_⟩
    · rw [List.map_append, List.map_append, h.handles]
    · have hother := h.others other hn
      unfold instance? at hother ⊢
      rw [List.find?_append, List.find?_append, hother]
  · unfold instance? at hi ⊢
    rw [List.find?_append, hi]
    rfl
  refine bind (emit fun c hc hr => ?_) fun _ => bind (perform env _) fun _ => ?_
  · obtain rfl := Option.some.inj hc
    cases hr
  · split
    · exact pure _
    · exact pure _
    · exact bind (log _ _ _ _) fun _ => bind (modify_entries (· ++ [⟨issued, d⟩])) fun _ => pure _

lemma add (env : Environment) (d : Descriptor) (module : μ) :
    Isolated handle False (Registry.add env d module) := by
  refine get (fun r => ?_) fun r s h => ?_
  · cases r.conflict? d with
    | some error => exact pure _
    | none =>
      dsimp only
      split
      · exact pure _
      · exact initialise env d _ module
  · rw [h.conflict?_eq, h.nextHandle]

/-! ## Closing modules -/

lemma close_other (env : Environment) {e : Entry} (he : e.handle ≠ handle) :
    Isolated handle False (Registry.close env e : Action (Registry μ) _) := by
  refine bind (emit fun c hc hr => ?_) fun _ => get (fun r => ?_) fun r s h => ?_
  · obtain rfl := Option.some.inj hc
    cases hr
  · cases r.instance? e.handle with
    | none => exact pure _
    | some i =>
      dsimp only
      split
      · refine bind (store_other he _ _) fun _ => bind (perform env _) fun _ => ?_
        exact bind (log _ _ _ _) fun _ => pure _
      · exact bind (store_other he _ _) fun _ => bind (perform env _) fun _ => pure _
  · rw [h.others e.handle he]

/-- The module itself is closed whatever it is. -/
lemma close_own (env : Environment) (e : Entry) :
    Isolated e.handle True (Registry.close env e : Action (Registry μ) _) := by
  have hone : closings e.handle [e.closing] = 1 := by
    have hcount := closings_map_closing e.handle [e]
    rwa [List.map_singleton, List.map_singleton, List.count_singleton_self] at hcount
  have hsound : ∀ r : Registry μ, r.ClosesWell e.handle [e.closing] →
      r.isBroken e.handle = false := by
    intro r hr
    cases hb : r.isBroken e.handle with
    | false => rfl
    | true =>
      have hnone := hr hb
      rw [hone] at hnone
      cases hnone
  refine ⟨fun r => ⟨fun s h hg => ?_, ?_, fun hc => ?_⟩, fun hn => absurd trivial hn⟩
  · obtain ⟨hr, hcalls, hvalue⟩ := close_spec env e r
    obtain ⟨hs, hcalls', hvalue'⟩ := close_spec env e s
    obtain ⟨-, hwell, hwell'⟩ := hg trivial
    rw [hcalls] at hwell
    rw [hcalls'] at hwell'
    refine ⟨?_, (hr.symm.trans h).trans hs, hcalls'.trans hcalls.symm, fun hc => ?_⟩
    · rw [hvalue, hvalue', hsound r hwell, hsound s hwell']
    · rw [hcalls] at hc
      exact absurd rfl (hc e.closing List.mem_cons_self)
  · rw [(close_spec env e r).2.1]
    exact List.forall_mem_singleton.mpr fun hrequest => by cases hrequest
  · obtain ⟨i, hi, hcrashed⟩ := hasCrashed_of_instance? hc
    have hstored : ∀ (module : μ) (crashed : Bool),
        (r.store e.handle module crashed).hasCrashed e.handle := by
      intro module crashed
      rw [hasCrashed, instance?_store, hi]
      simp [handle_of_instance? hi, hcrashed]
    unfold Registry.close
    simp only [Action.bind_apply, Action.emit_apply, Action.get_apply, hi]
    cases (DeviceModule.close i.module).outcome with
    | returned _ => exact ((perform env _).isolatedAt _).crashed (hstored _ false)
    | crashed => exact ((perform env _).isolatedAt _).crashed (hstored _ true)

lemma close (env : Environment) (e : Entry) :
    Isolated handle (e.handle = handle) (Registry.close env e : Action (Registry μ) _) := by
  by_cases he : e.handle = handle
  · rw [← he]
    exact (close_own env e).mono fun _ => rfl
  · exact (close_other env he).mono False.elim

lemma unload (env : Environment) (other : Handle) :
    Isolated handle (other = handle) (Registry.unload env other : Action (Registry μ) _) := by
  refine get (fun r => ?_) fun r s h => ?_
  · cases hg : r.getByHandle other with
    | error error => exact (pure _).mono False.elim
    | ok e =>
      obtain rfl := handle_of_getByHandle hg
      refine bind_own (modify_entries fun es => es.filter (·.handle != e.handle)) fun _ => ?_
      refine bind (close env e) fun outcome => ?_
      cases outcome with
      | crashed => exact pure _
      | returned _ => exact pure _
  · rw [h.getByHandle_eq]

lemma closeEach (env : Environment) {es : List Entry} (h : (es.map (·.handle)).Nodup) :
    Isolated handle (handle ∈ es.map (·.handle))
      (Registry.closeEach env es : Action (Registry μ) _) := by
  induction es with
  | nil => exact (pure _).mono False.elim
  | cons e rest ih =>
    obtain ⟨hfirst, hrest⟩ := List.nodup_cons.mp h
    have hsteps : Isolated handle (e.handle = handle ∨ handle ∈ rest.map (·.handle))
        (Registry.closeEach env (e :: rest) : Action (Registry μ) _) := by
      refine bind_disjoint (close env e) (fun outcome => ?_) ?_
      · cases outcome with
        | crashed => exact (pure _).mono False.elim
        | returned _ => exact ih hrest
      · rintro rfl
        exact hfirst
    refine hsteps.mono fun hm => List.mem_cons.mpr ?_
    exact hm.imp_left Eq.symm

lemma unloadAll (env : Environment) {r : Registry μ} (h : (r.entries.map (·.handle)).Nodup) :
    IsolatedAt handle True r (Registry.unloadAll env) := by
  have hreverse : (r.entries.reverse.map (·.handle)).Nodup := by
    rw [List.map_reverse, List.nodup_reverse]
    exact h
  have htake {β : Type} (f : List Entry → Action (Registry μ) β) : takeAll >>= f =
      Action.get >>= fun r =>
        Action.modify (fun r => { r with entries := [] }) >>= fun _ => f r.entries := rfl
  rw [Registry.unloadAll, htake]
  refine getAt (bind_own (modify_entries fun _ => []) fun _ => ?_) fun s hs => ?_
  · refine bind ((closeEach env hreverse).mono fun _ => trivial) fun outcome => ?_
    cases outcome with
    | crashed => exact pure _
    | returned _ => exact pure _
  · rw [hs.entries]

section Requests

variable {e : Entry} (he : e.handle ≠ handle)

include he

lemma execute (env : Environment) (session : SessionContext) (operation : String) (payload : Json) :
    Isolated handle False
      (Registry.execute env e session operation payload : Action (Registry μ) _) := by
  refine get (fun r => ?_) fun r s h => ?_
  · cases r.instance? e.handle with
    | none => exact pure _
    | some i =>
      dsimp only
      split
      · exact bind (log _ _ _ _) fun _ => pure _
      · refine bind (emit fun c hc _ => ?_) fun _ => ?_
        · obtain rfl := Option.some.inj hc
          exact he
        · split
          · exact bind (store_other he _ _) fun _ => bind (perform env _) fun _ => pure _
          · refine bind (store_other he _ _) fun _ => bind (perform env _) fun _ => ?_
            exact bind (log _ _ _ _) fun _ => pure _
  · rw [h.others e.handle he]

lemma stateData (env : Environment) :
    Isolated handle False (Registry.stateData env e : Action (Registry μ) _) := by
  refine get (fun r => ?_) fun r s h => ?_
  · cases r.instance? e.handle with
    | none => exact pure _
    | some i =>
      dsimp only
      split
      · exact pure _
      · refine bind (emit fun c hc _ => ?_) fun _ => ?_
        · obtain rfl := Option.some.inj hc
          exact he
        · split
          · refine bind (store_other he _ _) fun _ => bind (perform env _) fun _ => ?_
            split
            · exact pure _
            · exact pure _
          · refine bind (store_other he _ _) fun _ => bind (perform env _) fun _ => ?_
            exact bind (log _ _ _ _) fun _ => pure _
  · rw [h.others e.handle he]

end Requests

end Isolated

lemma IsolatedAt.map {own : Prop} {x : Action (Registry μ) α} (hx : IsolatedAt handle own r x)
    (g : α → β) : IsolatedAt handle own r (do return g (← x)) := by
  have hcalls : ∀ s, ((do return g (← x) : Action (Registry μ) β) s).calls = (x s).calls := fun s =>
    (Action.calls_bind x _ s).trans (List.append_nil _)
  obtain ⟨halike, hunasked, hcrashed⟩ := hx
  refine ⟨fun s hs hg => ?_, ?_, hcrashed⟩
  · rw [hcalls, hcalls] at hg
    have hfirst := halike s hs hg
    exact hfirst.bind (((Isolated.pure _).isolatedAt _).alike _ hfirst.state False.elim)
  · rw [hcalls]
    exact hunasked

end Registry

end ManagementServer.Device

namespace ManagementServer.Catalog

open Device (DeviceModule Handle Implementations Registry)
open Device.Registry (Isolated IsolatedAt)

variable {μ : Type} [DeviceModule μ] {handle : Handle}

lemma isolated_remove (env : Environment) (e : Device.Entry) :
    Isolated handle (e.handle = handle) (remove env e : Action (Registry μ) _) := by
  refine Isolated.bind (Isolated.unload env e.handle) fun outcome => ?_
  rcases outcome with (_ | _) | _
  · exact Isolated.bind (Isolated.log _ _ _ _) fun _ => Isolated.pure _
  · exact Isolated.bind (Isolated.emit fun c hc => by cases hc) fun _ => Isolated.pure _
  · exact Isolated.pure _

lemma isolated_dismiss (env : Environment) (p : Progress) (e : Device.Entry) :
    Isolated handle (e.handle = handle) (dismiss env p e : Action (Registry μ) _) := by
  refine Isolated.bind (isolated_remove env e) fun outcome => ?_
  cases outcome with
  | crashed => exact Isolated.pure _
  | returned _ => exact Isolated.pure _

lemma isolated_revise (env : Environment) (m : Manifest) (p : Progress) (e : Device.Entry) :
    Isolated handle (e.handle = handle) (revise env m p e : Action (Registry μ) _) := by
  unfold revise
  cases fate m e.descriptor with
  | keep => exact (Isolated.pure _).mono False.elim
  | remove => exact isolated_dismiss env _ e
  | replace => exact isolated_dismiss env _ e
  | allow allowed =>
    refine (?_ : Isolated handle False _).mono False.elim
    refine Isolated.bind (Isolated.setAllowed e.name allowed) fun outcome => ?_
    cases outcome with
    | ok _ => exact Isolated.pure _
    | error error =>
      exact Isolated.bind (Isolated.emit fun c hc => by cases hc) fun _ => Isolated.pure _

lemma isolated_reviseAll (env : Environment) (m : Manifest) (p : Progress)
    {es : List Device.Entry} (h : (es.map (·.handle)).Nodup) :
    Isolated handle (handle ∈ es.map (·.handle))
      (reviseAll env m p es : Action (Registry μ) _) := by
  induction es generalizing p with
  | nil => exact (Isolated.pure _).mono False.elim
  | cons e rest ih =>
    obtain ⟨hfirst, hrest⟩ := List.nodup_cons.mp h
    have hsteps : Isolated handle (e.handle = handle ∨ handle ∈ rest.map (·.handle))
        (reviseAll env m p (e :: rest) : Action (Registry μ) _) := by
      refine Isolated.bind_disjoint (isolated_revise env m p e) (fun outcome => ?_) ?_
      · cases outcome with
        | crashed => exact (Isolated.pure _).mono False.elim
        | returned p => exact ih p hrest
      · rintro rfl
        exact hfirst
    refine hsteps.mono fun hm => List.mem_cons.mpr ?_
    exact hm.imp_left Eq.symm

lemma isolated_load (env : Environment) (f : Implementations μ) (p : Progress)
    (x : Manifest.Entry) : Isolated handle False (load env f p x) := by
  have hadd : Isolated handle False (add env f x) := by
    unfold add
    cases f.instantiate x.resolved with
    | error error => exact Isolated.pure _
    | ok module => exact Isolated.add env _ module
  refine Isolated.bind hadd fun outcome => ?_
  rcases outcome with (error | issued) | _
  · exact Isolated.bind (Isolated.emit fun c hc => by cases hc) fun _ => Isolated.pure _
  · exact Isolated.bind (Isolated.emit fun c hc => by cases hc) fun _ => Isolated.pure _
  · exact Isolated.pure _

lemma isolated_loadAll (env : Environment) (f : Implementations μ) (p : Progress)
    (xs : List Manifest.Entry) : Isolated handle False (loadAll env f p xs) := by
  induction xs generalizing p with
  | nil => exact Isolated.pure _
  | cons x rest ih =>
    refine Isolated.get (fun r => ?_) fun r s h => ?_
    · cases r.getByName x.name with
      | ok e => exact ih p
      | error error =>
        refine Isolated.bind (isolated_load env f p x) fun outcome => ?_
        cases outcome with
        | crashed => exact Isolated.pure _
        | returned p => exact ih p
    · rw [h.getByName_eq]

lemma isolated_sync (env : Environment) (f : Implementations μ) (m : Manifest) {r : Registry μ}
    (h : (r.entries.map (·.handle)).Nodup) : IsolatedAt handle True r (sync env f m) := by
  refine Isolated.getAt ?_ fun s hs => ?_
  · have hrevise :
        Isolated handle True (reviseAll env m .start r.entries : Action (Registry μ) _) :=
      (isolated_reviseAll env m .start h).mono fun _ => trivial
    refine hrevise.bind fun outcome => ?_
    cases outcome with
    | crashed => exact Isolated.pure _
    | returned p =>
      refine Isolated.bind (isolated_loadAll env f p m.modules) fun outcome => ?_
      cases outcome with
      | crashed => exact Isolated.pure _
      | returned p => exact Isolated.bind (Isolated.log _ _ _ _) fun _ => Isolated.pure _
  · rw [hs.entries]

end ManagementServer.Catalog
