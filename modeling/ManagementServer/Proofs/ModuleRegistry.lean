import ManagementServer.Device.Registry
import ManagementServer.Proofs.Action
import Mathlib.Data.List.Nodup
import Mathlib.Data.List.Pairwise

/-!
# The module registry through its operations

What each operation of the registry does to its entries and to the modules that were ever
initialised, and which calls it makes on them.
-/

namespace ManagementServer

/-- Surroundings in which nothing fails. -/
def Environment.calm : Environment := ⟨0, "Linux", "x86_64", fun _ => .ok [], none, none⟩

lemma eq_of_nodup_filterMap {α β : Type} {f : α → Option β} {l : List α}
    (h : (l.filterMap f).Nodup) {a a' : α} (ha : a ∈ l) (ha' : a' ∈ l) {b : β}
    (hb : f a = some b) (hb' : f a' = some b) : a = a' := by
  by_contra hne
  have hpairwise := List.pairwise_filterMap.mp h
  have hsymm : Std.Symm fun a a' => ∀ b, f a = some b → ∀ b', f a' = some b' → b ≠ b' :=
    ⟨fun a a' haa b hb b' hb' => (haa b' hb' b hb).symm⟩
  exact hpairwise.forall ha ha' hne b hb b hb' rfl

namespace Device

/-- Whether a call initialises a module, and with success. -/
def Call.opens (handle : Handle) : Call → Bool
  | .initialised other _ _ succeeded => other == handle && succeeded
  | _ => false

/-- Whether a call closes a module. -/
def Call.closes (handle : Handle) : Call → Bool
  | .closed other _ => other == handle
  | _ => false

/-- Whether a call asks a module to execute an operation or to report its state. -/
def Call.isRequest : Call → Bool
  | .executed .. | .stateRead .. => true
  | _ => false

/-- The handle that a call hands out. -/
def Call.issued? : Call → Option Handle
  | .initialised handle _ _ _ => some handle
  | _ => none

/-- How often a module was initialised with success. -/
def openings (handle : Handle) (calls : List Call) : Nat := calls.countP (·.opens handle)

/-- How often a module was closed. -/
def closings (handle : Handle) (calls : List Call) : Nat := calls.countP (·.closes handle)

@[simp] lemma openings_append (handle : Handle) (calls calls' : List Call) :
    openings handle (calls ++ calls') = openings handle calls + openings handle calls' :=
  List.countP_append

@[simp] lemma closings_append (handle : Handle) (calls calls' : List Call) :
    closings handle (calls ++ calls') = closings handle calls + closings handle calls' :=
  List.countP_append

lemma openings_eq_zero {handle : Handle} {calls : List Call}
    (h : ∀ c ∈ calls, c.opens handle = false) : openings handle calls = 0 :=
  List.countP_eq_zero.mpr fun c hc => by simp [h c hc]

lemma closings_eq_zero {handle : Handle} {calls : List Call}
    (h : ∀ c ∈ calls, c.closes handle = false) : closings handle calls = 0 :=
  List.countP_eq_zero.mpr fun c hc => by simp [h c hc]

lemma Call.opens_of_ne {handle : Handle} {c : Call} (h : c.handle ≠ handle) :
    c.opens handle = false := by
  cases c with
  | initialised other name repository succeeded =>
    have : (other == handle) = false := beq_eq_false_iff_ne.mpr h
    simp [opens, this]
  | executed other name operation => rfl
  | stateRead other name => rfl
  | closed other name => rfl

lemma Call.of_isRequest {c : Call} (h : c.isRequest) (handle : Handle) :
    c.opens handle = false ∧ c.closes handle = false ∧ c.issued? = none := by
  cases c with
  | initialised => cases h
  | executed => exact ⟨rfl, rfl, rfl⟩
  | stateRead => exact ⟨rfl, rfl, rfl⟩
  | closed => cases h

/-- The call that closes a module. -/
def Entry.closing (e : Entry) : Call := .closed e.handle e.name

lemma closings_map_closing (handle : Handle) (es : List Entry) :
    closings handle (es.map (·.closing)) = (es.map (·.handle)).count handle := by
  rw [closings, List.count, List.countP_map, List.countP_map]
  rfl

lemma openings_map_closing (handle : Handle) (es : List Entry) :
    openings handle (es.map (·.closing)) = 0 := by
  refine openings_eq_zero fun c hc => ?_
  obtain ⟨e, -, rfl⟩ := List.mem_map.mp hc
  rfl

/-- Whether a module answered its initialiser with a configuration. -/
def Outcome.isReady : Outcome (Except String Json) → Bool
  | .returned (.ok _) => true
  | _ => false

/-- The event that an effect publishes. -/
def Effect.event? (env : Environment) : Effect → Option Event.Notification
  | .publish event body => some (.at env.now event body)
  | .log _ => none

namespace Registry

variable {μ α : Type}

/-- At most the module of one handle is another one; nothing else changes but the bus. -/
structure Touches (handle : Handle) (r r' : Registry μ) : Prop where
  entries : r'.entries = r.entries
  nextHandle : r'.nextHandle = r.nextHandle
  handles : r'.instances.map (·.handle) = r.instances.map (·.handle)
  others : ∀ other, other ≠ handle → r'.instance? other = r.instance? other

lemma touches_refl (handle : Handle) (r : Registry μ) : Touches handle r r :=
  ⟨rfl, rfl, rfl, fun _ _ => rfl⟩

lemma Touches.trans {handle : Handle} {r r' r'' : Registry μ} (h : Touches handle r r')
    (h' : Touches handle r' r'') : Touches handle r r'' :=
  ⟨h'.entries.trans h.entries, h'.nextHandle.trans h.nextHandle, h'.handles.trans h.handles,
    fun other hn => (h'.others other hn).trans (h.others other hn)⟩

/-- Modules are asked for something, as long as they were initialised, and no more is done to
them. -/
structure Serves (r r' : Registry μ) (calls : List Call) : Prop where
  entries : r'.entries = r.entries
  nextHandle : r'.nextHandle = r.nextHandle
  handles : r'.instances.map (·.handle) = r.instances.map (·.handle)
  requests : ∀ c ∈ calls, c.isRequest ∧ c.handle ∈ r.instances.map (·.handle)

lemma serves_refl (r : Registry μ) : Serves r r [] := ⟨rfl, rfl, rfl, fun _ h => nomatch h⟩

lemma Serves.trans {r r' r'' : Registry μ} {calls calls' : List Call} (h : Serves r r' calls)
    (h' : Serves r' r'' calls') : Serves r r'' (calls ++ calls') := by
  refine ⟨h'.entries.trans h.entries, h'.nextHandle.trans h.nextHandle,
    h'.handles.trans h.handles, ?_⟩
  intro c hc
  rcases List.mem_append.mp hc with hc | hc
  · exact h.requests c hc
  · rw [← h.handles]
    exact h'.requests c hc

lemma serves_bus (r : Registry μ) (bus : Event.Bus) : Serves r { r with bus } [] :=
  ⟨rfl, rfl, rfl, fun _ h => nomatch h⟩

lemma instance?_isSome (r : Registry μ) (handle : Handle) :
    (r.instance? handle).isSome ↔ handle ∈ r.instances.map (·.handle) := by
  rw [instance?, List.find?_isSome, List.mem_map]
  simp only [beq_iff_eq]

lemma instance?_store (handle other : Handle) (module : μ) (crashed : Bool) (r : Registry μ) :
    (r.store other module crashed).instance? handle =
      (r.instance? handle).map fun i =>
        if i.handle == other then { i with module, hasCrashed := i.hasCrashed || crashed }
        else i := by
  rw [instance?, store, List.find?_map]
  congr 2
  funext i
  rw [Function.comp]
  split
  · rfl
  · rfl

lemma handle_of_instance? {r : Registry μ} {handle : Handle} {i : Instance μ}
    (h : r.instance? handle = some i) : i.handle = handle := by
  simpa using List.find?_some h

lemma touches_store (handle : Handle) (module : μ) (crashed : Bool) (r : Registry μ) :
    Touches handle r (r.store handle module crashed) := by
  refine ⟨rfl, rfl, ?_, fun other hn => ?_⟩
  · rw [store, List.map_map]
    refine List.map_congr_left fun i _ => ?_
    simp only [Function.comp]
    split <;> rfl
  · rw [instance?_store]
    cases hi : r.instance? other with
    | none => rfl
    | some i => simp [handle_of_instance? hi, hn]

lemma perform_state (env : Environment) (effects : List Effect) (r : Registry μ) :
    (perform env effects r).state =
      { r with bus := (effects.filterMap (·.event? env)).foldl Event.Bus.publish r.bus } := by
  induction effects generalizing r with
  | nil => rfl
  | cons effect rest ih =>
    cases effect with
    | publish event body => exact ih { r with bus := r.bus.publish (.at env.now event body) }
    | log record => exact ih r

@[simp] lemma perform_calls (env : Environment) (effects : List Effect) (r : Registry μ) :
    (perform env effects r).calls = [] := by
  induction effects generalizing r with
  | nil => rfl
  | cons effect rest ih =>
    cases effect with
    | publish event body => exact ih _
    | log record => exact ih _

lemma touches_perform (handle : Handle) (env : Environment) (effects : List Effect)
    (r : Registry μ) : Touches handle r (perform env effects r).state := by
  rw [perform_state]
  exact ⟨rfl, rfl, rfl, fun _ _ => rfl⟩

lemma getByHandle_error {r : Registry μ} {handle : Handle}
    (h : handle ∉ r.entries.map (·.handle)) :
    r.getByHandle handle = .error (.notFound (.handle handle)) := by
  have : r.find? (·.handle == handle) = none := by
    refine List.find?_eq_none.mpr fun e he hc => h ?_
    exact List.mem_map.mpr ⟨e, he, by simpa using hc⟩
  rw [getByHandle, this]

lemma handle_of_getByHandle {r : Registry μ} {handle : Handle} {e : Entry}
    (h : r.getByHandle handle = .ok e) : e.handle = handle := by
  unfold getByHandle at h
  cases hf : r.find? (·.handle == handle) with
  | none =>
    rw [hf] at h
    cases h
  | some found =>
    rw [hf] at h
    cases h
    simpa using List.find?_some hf

/-- The entries are one of them, and the others. -/
lemma perm_cons_filter {es : List Entry} {e : Entry} (h : (es.map (·.handle)).Nodup) (he : e ∈ es) :
    es.Perm ([e] ++ es.filter (·.handle != e.handle)) := by
  induction es with
  | nil => cases he
  | cons first rest ih =>
    obtain ⟨hn, hrest⟩ := List.nodup_cons.mp h
    rcases List.mem_cons.mp he with rfl | hm
    · have hkeep : rest.filter (·.handle != e.handle) = rest := by
        refine List.filter_eq_self.mpr fun other ho => bne_iff_ne.mpr ?_
        intro hc
        exact hn (List.mem_map.mpr ⟨other, ho, hc⟩)
      rw [List.filter_cons_of_neg (by simp), hkeep]
      exact List.Perm.refl _
    · have hne : first.handle ≠ e.handle := by
        intro hc
        exact hn (List.mem_map.mpr ⟨e, hm, hc.symm⟩)
      rw [List.filter_cons_of_pos (by simpa using hne)]
      exact ((ih hrest hm).cons first).trans (List.Perm.swap e first _)

lemma find?_eq_some_iff {r : Registry μ} {p : Entry → Bool} {e : Entry}
    (h : ∀ e ∈ r.entries, ∀ e' ∈ r.entries, p e = true → p e' = true → e = e') :
    r.find? p = some e ↔ e ∈ r.entries ∧ p e = true := by
  constructor
  · intro hf
    exact ⟨List.mem_of_find?_eq_some hf, List.find?_some hf⟩
  · rintro ⟨he, hp⟩
    obtain ⟨found, hf⟩ := Option.isSome_iff_exists.mp (List.find?_isSome.mpr ⟨e, he, hp⟩)
    have hm : found ∈ r.entries := List.mem_of_find?_eq_some hf
    have heq : found = e := h found hm e he (List.find?_some hf) hp
    rw [← heq]
    exact hf

lemma getByHandle_eq_ok_iff {r : Registry μ} (h : (r.entries.map (·.handle)).Nodup)
    {handle : Handle} {e : Entry} :
    r.getByHandle handle = .ok e ↔ e ∈ r.entries ∧ e.handle = handle := by
  have hfind : r.find? (·.handle == handle) = some e ↔
      e ∈ r.entries ∧ (e.handle == handle) = true := by
    apply find?_eq_some_iff
    intro e he e' he' hn hn'
    have heq : e.handle = e'.handle := (beq_iff_eq.mp hn).trans (beq_iff_eq.mp hn').symm
    exact List.inj_on_of_nodup_map h he he' heq
  rw [beq_iff_eq] at hfind
  rw [← hfind, getByHandle]
  cases r.find? (·.handle == handle) with
  | none => simp
  | some found => simp

lemma getByName_isOk (r : Registry μ) (name : String) :
    (∃ e, r.getByName name = .ok e) ↔ name ∈ r.entries.map (·.name) := by
  unfold getByName find?
  constructor
  · rintro ⟨e, he⟩
    cases hf : r.entries.find? (·.name == name) with
    | none =>
      rw [hf] at he
      cases he
    | some found =>
      refine List.mem_map.mpr ⟨found, List.mem_of_find?_eq_some hf, ?_⟩
      simpa using List.find?_some hf
  · intro h
    obtain ⟨e, he, rfl⟩ := List.mem_map.mp h
    cases hf : r.entries.find? (·.name == e.name) with
    | none =>
      have := List.find?_eq_none.mp hf e he
      simp at this
    | some found => exact ⟨found, rfl⟩

lemma getByName_error {r : Registry μ} {name : String} (h : name ∉ r.entries.map (·.name)) :
    ∃ error, r.getByName name = .error error := by
  cases hg : r.getByName name with
  | error error => exact ⟨error, rfl⟩
  | ok e => exact absurd ((getByName_isOk r name).mp ⟨e, hg⟩) h

lemma allow_map (f : Entry → α) (name : String) (allowed : Bool) (es : List Entry)
    (hf : ∀ e : Entry, f { e with descriptor := { e.descriptor with allowed } } = f e) :
    (allow name allowed es).map f = es.map f := by
  induction es with
  | nil => rfl
  | cons e rest ih =>
    unfold allow
    split
    · rw [List.map_cons, List.map_cons, hf]
    · rw [List.map_cons, List.map_cons, ih]

lemma allow_append {done todo : List Entry} {e : Entry} (allowed : Bool)
    (h : e.name ∉ done.map (·.name)) :
    allow e.name allowed (done ++ e :: todo) =
      done ++ { e with descriptor := { e.descriptor with allowed } } :: todo := by
  induction done with
  | nil => simp [allow]
  | cons first rest ih =>
    obtain ⟨hne, hrest⟩ := not_or.mp (List.mem_cons.not.mp h)
    have hb : (first.name == e.name) = false := beq_eq_false_iff_ne.mpr (Ne.symm hne)
    rw [List.cons_append, allow, hb, if_neg Bool.false_ne_true, ih hrest]
    rfl

lemma setAllowed_of_mem {r : Registry μ} {name : String} (allowed : Bool)
    (h : name ∈ r.entries.map (·.name)) :
    (setAllowed name allowed r).value = .ok () ∧
      (setAllowed name allowed r).state = { r with entries := allow name allowed r.entries } ∧
      (setAllowed name allowed r).calls = [] := by
  obtain ⟨e, he⟩ := (getByName_isOk r name).mpr h
  simp only [setAllowed, Action.bind_apply, Action.get_apply, he]
  exact ⟨rfl, rfl, rfl⟩

lemma setAllowed_of_not_mem {r : Registry μ} {name : String} (allowed : Bool)
    (h : name ∉ r.entries.map (·.name)) :
    (setAllowed name allowed r).state = r ∧ (setAllowed name allowed r).calls = [] := by
  obtain ⟨error, he⟩ := getByName_error h
  simp only [setAllowed, Action.bind_apply, Action.get_apply, he]
  exact ⟨rfl, rfl⟩

/-- A descriptor can be registered if it is valid and neither its name nor its repository is
taken. -/
lemma conflict?_eq_none_iff {r : Registry μ} {d : Descriptor} :
    r.conflict? d = none ↔ d.fault? = none ∧ d.name ∉ r.entries.map (·.name) ∧
      ∀ repository, d.repository = some repository →
        repository ∉ r.entries.filterMap (·.descriptor.repository) := by
  have hname : r.entries.any (·.name == d.name) = true ↔ d.name ∈ r.entries.map (·.name) := by
    simp only [List.any_eq_true, beq_iff_eq, List.mem_map]
  unfold conflict?
  cases hf : d.fault? with
  | some fault => simp
  | none =>
    by_cases hn : d.name ∈ r.entries.map (·.name)
    · simp [hname.mpr hn, hn]
    · have hany : r.entries.any (·.name == d.name) = false := by
        rw [← Bool.not_eq_true, hname]
        exact hn
      cases hr : d.repository with
      | none => simp [hany, hn]
      | some repository =>
        simp only [hany, Bool.false_eq_true, if_false, Option.map_eq_none_iff, find?,
          List.find?_eq_none, beq_iff_eq, List.mem_filterMap, not_exists, not_and, true_and,
          Option.some.injEq]
        constructor
        · rintro h
          refine ⟨hn, ?_⟩
          rintro _ rfl e he
          exact h e he
        · rintro ⟨-, h⟩ e he
          exact h repository rfl e he

lemma matching_sublist (r : Registry μ) (operation : String) (capabilities : CapabilitySet) :
    (r.matching operation capabilities).Sublist r.entries :=
  List.filter_sublist

lemma mem_matching {r : Registry μ} {operation : String} {capabilities : CapabilitySet}
    {e : Entry} : e ∈ r.matching operation capabilities ↔
      e ∈ r.entries ∧ e.descriptor.allowed = true ∧ operation ∈ e.descriptor.operations ∧
        ∃ uri ∈ e.descriptor.capabilities.uris, capabilities.contains uri = true := by
  rw [matching, List.mem_filter]
  simp only [isEligible, Descriptor.implements, CapabilitySet.intersects,
    Bool.and_eq_true, List.contains_iff_mem, List.any_eq_true, and_assoc]

/-- What becomes of a registration, by how the initialisation of the module ended. -/
def registration (d : Descriptor) (handle : Handle) :
    Outcome (Except String Json) → Outcome (Except ModuleError Handle)
  | .crashed => .crashed
  | .returned (.error message) => .returned (.error (.initFailed d.name message))
  | .returned (.ok _) => .returned (.ok handle)

/-- The registry after a module was initialised under the next handle. -/
def issue (r : Registry μ) (module : μ) (crashed : Bool) : Registry μ :=
  { r with
    nextHandle := r.nextHandle + 1
    instances := r.instances ++ [⟨⟨r.nextHandle⟩, module, crashed⟩] }

/-- The entry of a module that was initialised, unless it failed. -/
def enrolled (d : Descriptor) (handle : Handle) (outcome : Outcome (Except String Json)) :
    List Entry :=
  if outcome.isReady then [⟨handle, d⟩] else []

lemma enrolled_cases (d : Descriptor) (handle : Handle) (outcome : Outcome (Except String Json)) :
    enrolled d handle outcome = [⟨handle, d⟩] ∨ enrolled d handle outcome = [] := by
  unfold enrolled
  split
  · exact Or.inl rfl
  · exact Or.inr rfl

lemma handle_mem_enrolled {d : Descriptor} {handle handle' : Handle}
    {outcome : Outcome (Except String Json)}
    (h : handle' ∈ (enrolled d handle outcome).map (·.handle)) : handle' ∈ [handle] := by
  rcases enrolled_cases d handle outcome with he | he
  · rwa [he] at h
  · rw [he] at h
    cases h

lemma openings_initialised (d : Descriptor) (handle handle' : Handle)
    (outcome : Outcome (Except String Json)) :
    openings handle' [.initialised handle d.name d.repository outcome.isReady] =
      ((enrolled d handle outcome).map (·.handle)).count handle' := by
  unfold enrolled
  cases outcome.isReady with
  | true => simp [openings, Call.opens, List.countP_cons, List.count_cons]
  | false => simp [openings, Call.opens]

/-- What reaches a module of a request to it: nothing once it has crashed. -/
def reached (r : Registry μ) (e : Entry) (request : Call) : List Call :=
  if (r.instance? e.handle).any (!·.hasCrashed) then [request] else []

lemma mem_reached {r : Registry μ} {e : Entry} {request c : Call} (h : c ∈ r.reached e request) :
    c = request ∧ (r.instance? e.handle).isSome := by
  unfold reached at h
  cases hi : r.instance? e.handle with
  | none =>
    rw [hi] at h
    cases h
  | some i =>
    split at h
    · exact ⟨List.mem_singleton.mp h, rfl⟩
    · cases h

/-! ## Asking a module -/

/-- A registry behind a call of a module: the module is what the call has made of it, and has
crashed if the call has; what the call has published is on the bus. -/
structure Follows (env : Environment) (i : Instance μ) (response : Response μ α)
    (r r' : Registry μ) : Prop where
  touches : Touches i.handle r r'
  module : r'.instance? i.handle = some ⟨i.handle, response.module, response.outcome.isCrash⟩
  bus : r'.bus = (response.effects.filterMap (·.event? env)).foldl Event.Bus.publish r.bus

/-- What comes of asking the module of an entry by a call: how it ends, the registry behind it, and
the calls. A module that has crashed is not called any more. -/
inductive Consults (env : Environment) (e : Entry) (call : Call) (respond : μ → Response μ α)
    (r : Registry μ) : Outcome α → Registry μ → List Call → Prop
  | fenced (crashed : ∀ i, r.instance? e.handle = some i → i.hasCrashed = true) :
    Consults env e call respond r .crashed r []
  | called {i : Instance μ} {r' : Registry μ} (found : r.instance? e.handle = some i)
    (alive : i.hasCrashed = false) (follows : Follows env i (respond i.module) r r') :
    Consults env e call respond r (respond i.module).outcome r' [call]

namespace Consults

variable {env : Environment} {e : Entry} {call : Call} {respond : μ → Response μ α}
  {r r' : Registry μ} {outcome : Outcome α} {calls : List Call}

lemma touches (h : Consults env e call respond r outcome r' calls) : Touches e.handle r r' := by
  cases h with
  | fenced => exact touches_refl e.handle r
  | called found _ follows =>
    rw [← handle_of_instance? found]
    exact follows.touches

lemma calls_eq (h : Consults env e call respond r outcome r' calls) :
    calls = r.reached e call := by
  cases h with
  | fenced crashed =>
    rw [reached]
    cases hi : r.instance? e.handle with
    | none => rfl
    | some i => simp [crashed i hi]
  | called found alive => simp [reached, found, alive]

lemma serves (h : Consults env e call respond r outcome r' calls) (hr : call.isRequest)
    (he : call.handle = e.handle) : Serves r r' calls := by
  refine ⟨h.touches.entries, h.touches.nextHandle, h.touches.handles, fun c hc => ?_⟩
  rw [h.calls_eq] at hc
  obtain ⟨rfl, hi⟩ := mem_reached hc
  refine ⟨hr, ?_⟩
  rw [he]
  exact (instance?_isSome r e.handle).mp hi

end Consults

/-- Calls a module, puts it back, and carries its effects out, before anything else. -/
def asking (env : Environment) (call : Call) (i : Instance μ) (response : Response μ α)
    (rest : Action (Registry μ) β) : Action (Registry μ) β := do
  Action.emit (.called call)
  Action.modify (store i.handle response.module response.outcome.isCrash)
  perform env response.effects
  rest

lemma asking_spec (env : Environment) {e : Entry} (call : Call) {i : Instance μ}
    {respond : μ → Response μ α} {rest : Action (Registry μ) β} {b : β} {r : Registry μ}
    (hi : r.instance? e.handle = some i) (hn : i.hasCrashed = false)
    (hrest : ∀ r, rest.gist r = (b, r, [])) {x : Result (Registry μ) β}
    (hx : x = asking env call i (respond i.module) rest r) :
    x.value = b ∧ Consults env e call respond r (respond i.module).outcome x.state x.calls := by
  have hstate := fun r => (Action.gist_eq_iff.mp (hrest r)).2.1
  have hcalls : x.calls = [call] := by
    rw [hx, asking]
    simp only [Action.calls_bind, perform_calls, (Action.gist_eq_iff.mp (hrest _)).2.2]
    rfl
  have hbehind : x.state = (perform env (respond i.module).effects
      (r.store i.handle (respond i.module).module (respond i.module).outcome.isCrash)).state := by
    rw [hx, asking]
    simp only [Action.bind_apply, Action.emit_apply, Action.modify_apply, hstate]
  refine ⟨?_, hcalls ▸ .called hi hn ⟨?_, ?_, ?_⟩⟩
  · rw [hx]
    exact (Action.gist_eq_iff.mp (hrest _)).1
  · rw [hbehind]
    exact (touches_store _ _ _ r).trans (touches_perform _ env _ _)
  · have hfound : r.instance? i.handle = some i := by rw [handle_of_instance? hi, hi]
    rw [hbehind, perform_state]
    change (r.store _ _ _).instance? i.handle = _
    rw [instance?_store, hfound]
    simp [hn]
  · rw [hbehind, perform_state]
    rfl

lemma fenced_or_alive (r : Registry μ) (e : Entry) :
    (∀ i, r.instance? e.handle = some i → i.hasCrashed = true) ∨
      ∃ i, r.instance? e.handle = some i ∧ i.hasCrashed = false := by
  cases hi : r.instance? e.handle with
  | none => exact .inl fun i h => by cases h
  | some i =>
    cases hn : i.hasCrashed with
    | true =>
      refine .inl fun i' h => ?_
      cases h
      exact hn
    | false => exact .inr ⟨i, rfl, hn⟩

/-- An action that answers for a module, where it has crashed, and else calls it, consults it. -/
lemma consults_of {env : Environment} {e : Entry} {call : Call} {respond : μ → Response μ α}
    {r : Registry μ} {x : Action (Registry μ) β} {f : Outcome α → β}
    (hfenced : (∀ i, r.instance? e.handle = some i → i.hasCrashed = true) →
      x.gist r = (f .crashed, r, []))
    (halive : ∀ i, r.instance? e.handle = some i → i.hasCrashed = false →
      ∃ rest, (∀ r, rest.gist r = (f (respond i.module).outcome, r, [])) ∧
        x r = asking env call i (respond i.module) rest r) :
    ∃ outcome, (x r).value = f outcome ∧
      Consults env e call respond r outcome (x r).state (x r).calls := by
  rcases fenced_or_alive r e with hcrashed | ⟨i, hi, hn⟩
  · obtain ⟨hv, hs, hc⟩ := Action.gist_eq_iff.mp (hfenced hcrashed)
    rw [hv, hs, hc]
    exact ⟨.crashed, rfl, .fenced hcrashed⟩
  · obtain ⟨rest, hrest, hx⟩ := halive i hi hn
    exact ⟨_, asking_spec env call hi hn hrest hx⟩

/-- The reply of a module to a request, given how its call has ended. -/
def replyOf (e : Entry) : Outcome Rpc.Reply → Rpc.Reply
  | .returned reply => reply
  | .crashed => unavailable e

/-- The state of a module, or why there is none, given how its call has ended. -/
def stateOf (e : Entry) : Outcome (Except String Json) → Except ModuleError Json
  | .returned (.ok value) => .ok value
  | .returned (.error message) => .error (.stateData e.name message)
  | .crashed => .error (.unavailable e.name)

variable [DeviceModule μ]

/-- Whether the module of a handle crashes when it is closed now. -/
def isBroken (r : Registry μ) (handle : Handle) : Bool :=
  (r.instance? handle).any fun i => (DeviceModule.close i.module).outcome.isCrash

/-- The entries up to the first one whose module crashes when it is closed. -/
def upToCrash (r : Registry μ) : List Entry → List Entry
  | [] => []
  | e :: rest => e :: if r.isBroken e.handle then [] else upToCrash r rest

/-- How it ends that modules are closed, given whether one of them crashes. -/
def ending (broken : Bool) : Outcome Unit :=
  if broken then .crashed else .returned ()

lemma Touches.isBroken_eq {handle other : Handle} {r r' : Registry μ} (h : Touches handle r r')
    (hn : other ≠ handle) : r'.isBroken other = r.isBroken other := by
  rw [isBroken, h.others other hn, isBroken]

lemma upToCrash_prefix (r : Registry μ) (es : List Entry) : r.upToCrash es <+: es := by
  induction es with
  | nil => exact List.prefix_refl []
  | cons e rest ih =>
    rw [upToCrash, List.prefix_cons_inj]
    split
    · exact List.nil_prefix
    · exact ih

lemma upToCrash_congr {r r' : Registry μ} {es : List Entry}
    (h : ∀ e ∈ es, r'.isBroken e.handle = r.isBroken e.handle) :
    r'.upToCrash es = r.upToCrash es := by
  induction es with
  | nil => rfl
  | cons e rest ih =>
    obtain ⟨hfirst, hrest⟩ := List.forall_mem_cons.mp h
    rw [upToCrash, upToCrash, hfirst, ih hrest]

/-- Modules are closed up to the first that crashes, the last registered first. -/
lemma mem_upToCrash {r : Registry μ} {es : List Entry}
    (h : es.Pairwise fun e e' => e'.handle.number < e.handle.number) {e : Entry} :
    e ∈ r.upToCrash es ↔ e ∈ es ∧
      ∀ e' ∈ es, e.handle.number < e'.handle.number → r.isBroken e'.handle = false := by
  induction es with
  | nil => simp [upToCrash]
  | cons first rest ih =>
    obtain ⟨hfirst, hrest⟩ := List.pairwise_cons.mp h
    rw [upToCrash, List.mem_cons, List.mem_cons, List.forall_mem_cons]
    constructor
    · rintro (rfl | hm)
      · refine ⟨.inl rfl, fun hlt => absurd hlt (Nat.lt_irrefl _), fun e' he' hlt => ?_⟩
        have := hfirst e' he'
        omega
      · cases hb : r.isBroken first.handle with
        | true =>
          rw [hb, if_pos rfl] at hm
          cases hm
        | false =>
          rw [hb, if_neg Bool.false_ne_true] at hm
          obtain ⟨he, hlater⟩ := (ih hrest).mp hm
          exact ⟨.inr he, fun _ => rfl, hlater⟩
    · rintro ⟨rfl | he, hb, hlater⟩
      · exact .inl rfl
      · rw [hb (hfirst e he), if_neg Bool.false_ne_true]
        exact .inr ((ih hrest).mpr ⟨he, hlater⟩)

lemma close_spec (env : Environment) (e : Entry) (r : Registry μ) :
    Touches e.handle r (close env e r).state ∧ (close env e r).calls = [e.closing] ∧
      (close env e r).value = ending (r.isBroken e.handle) := by
  unfold close isBroken
  rw [Action.calls_bind, Action.calls_bind]
  simp only [Action.bind_apply, Action.emit_apply, Action.get_apply]
  cases h : r.instance? e.handle with
  | none => exact ⟨touches_refl e.handle r, rfl, rfl⟩
  | some i =>
    simp only [Option.any_some]
    cases ho : (DeviceModule.close i.module).outcome with
    | returned _ =>
      refine ⟨?_, ?_, rfl⟩
      · exact (touches_store e.handle _ false r).trans (touches_perform e.handle env _ _)
      · simp only [Action.calls_bind, Action.modify_apply, perform_calls]
        rfl
    | crashed =>
      refine ⟨?_, ?_, rfl⟩
      · exact (touches_store e.handle _ true r).trans (touches_perform e.handle env _ _)
      · simp only [Action.calls_bind, Action.modify_apply, perform_calls]
        rfl

lemma unload_of_not_mem (env : Environment) {r : Registry μ} {handle : Handle}
    (h : handle ∉ r.entries.map (·.handle)) :
    unload env handle r = ⟨.returned (.error (.notFound (.handle handle))), r, []⟩ := by
  simp only [unload, Action.bind_apply, Action.get_apply, getByHandle_error h]
  rfl

lemma unload_of_mem (env : Environment) {r : Registry μ} {e : Entry}
    (h : (r.entries.map (·.handle)).Nodup) (he : e ∈ r.entries) :
    Touches e.handle { r with entries := r.entries.filter (·.handle != e.handle) }
        (unload env e.handle r).state ∧
      (unload env e.handle r).calls = [e.closing] ∧
      (unload env e.handle r).value =
        if r.isBroken e.handle then .crashed else .returned (.ok ()) := by
  obtain ⟨ht, hc, hv⟩ :=
    close_spec env e { r with entries := r.entries.filter (·.handle != e.handle) }
  have hb : ({ r with entries := r.entries.filter (·.handle != e.handle) } : Registry μ).isBroken
      e.handle = r.isBroken e.handle := rfl
  rw [hb, ending] at hv
  simp only [unload, Action.bind_apply, Action.get_apply,
    (getByHandle_eq_ok_iff h).mpr ⟨he, rfl⟩, hv, Result.calls, List.nil_append,
    Action.modify_apply, List.filterMap_append]
  cases r.isBroken e.handle with
  | true => exact ⟨ht, (List.append_nil _).trans hc, rfl⟩
  | false => exact ⟨ht, (List.append_nil _).trans hc, rfl⟩

lemma closeEach_spec (env : Environment) {es : List Entry} (h : (es.map (·.handle)).Nodup)
    (r : Registry μ) :
    (closeEach env es r).state.entries = r.entries ∧
      (closeEach env es r).state.nextHandle = r.nextHandle ∧
      (closeEach env es r).state.instances.map (·.handle) = r.instances.map (·.handle) ∧
      (closeEach env es r).calls = (r.upToCrash es).map (·.closing) ∧
      (closeEach env es r).value = ending (es.any fun e => r.isBroken e.handle) := by
  induction es generalizing r with
  | nil => exact ⟨rfl, rfl, rfl, rfl, rfl⟩
  | cons e rest ih =>
    obtain ⟨hfirst, hrest⟩ := List.nodup_cons.mp h
    obtain ⟨ht, hc, hv⟩ := close_spec env e r
    rw [closeEach, Action.calls_bind, Action.bind_apply, hv, hc, upToCrash, List.any_cons]
    cases r.isBroken e.handle with
    | true => exact ⟨ht.entries, ht.nextHandle, ht.handles, rfl, rfl⟩
    | false =>
      obtain ⟨he, hn, hi, hcalls, hvalue⟩ := ih hrest (close env e r).state
      -- The modules that are still to be closed are what they were.
      have hsame : ∀ other ∈ rest,
          (close env e r).state.isBroken other.handle = r.isBroken other.handle := by
        intro other ho
        exact ht.isBroken_eq fun hc => hfirst (List.mem_map.mpr ⟨other, ho, hc⟩)
      have hany : (rest.any fun e' => (close env e r).state.isBroken e'.handle) =
          rest.any fun e' => r.isBroken e'.handle := by
        rw [Bool.eq_iff_iff, List.any_eq_true, List.any_eq_true]
        exact exists_congr fun e' => and_congr_right fun he' => by rw [hsame e' he']
      rw [upToCrash_congr hsame] at hcalls
      rw [hany] at hvalue
      refine ⟨he.trans ht.entries, hn.trans ht.nextHandle, hi.trans ht.handles, ?_, ?_⟩
      · exact congrArg ([e.closing] ++ ·) hcalls
      · exact hvalue

lemma initialise_spec (env : Environment) (d : Descriptor) (module : μ) (r : Registry μ)
    {response : Response μ (Except String Json)}
    (h : DeviceModule.init env ⟨⟨r.nextHandle⟩, d.name, d.repository⟩ module = response) :
    (initialise env d ⟨r.nextHandle⟩ module r).value =
        registration d ⟨r.nextHandle⟩ response.outcome ∧
      (∃ bus, (initialise env d ⟨r.nextHandle⟩ module r).state =
        { r.issue response.module response.outcome.isCrash with
          entries := r.entries ++ enrolled d ⟨r.nextHandle⟩ response.outcome
          bus }) ∧
      (initialise env d ⟨r.nextHandle⟩ module r).calls =
        [.initialised ⟨r.nextHandle⟩ d.name d.repository response.outcome.isReady] := by
  unfold initialise
  rw [h]
  obtain ⟨outcome, module', effects⟩ := response
  have he := perform_state env effects (r.issue module' outcome.isCrash)
  generalize (effects.filterMap (·.event? env)).foldl Event.Bus.publish
    (r.issue module' outcome.isCrash).bus = bus at he
  rcases outcome with (message | running) | _
  · refine ⟨rfl, ⟨bus, ?_⟩, ?_⟩
    · apply he.trans
      simp only [enrolled, Outcome.isReady, Bool.false_eq_true, if_false, List.append_nil]
      rfl
    · simp only [Action.calls_bind, perform_calls]
      rfl
  · refine ⟨rfl, ⟨bus, ?_⟩, ?_⟩
    · simp only [issue, Outcome.isCrash] at he
      simp only [Action.bind_apply, Action.modify_apply, Action.emit_apply, Action.log_apply,
        Action.pure_apply]
      rw [he]
      rfl
    · simp only [Action.calls_bind, perform_calls]
      rfl
  · refine ⟨rfl, ⟨bus, ?_⟩, ?_⟩
    · apply he.trans
      simp only [enrolled, Outcome.isReady, Bool.false_eq_true, if_false, List.append_nil]
      rfl
    · simp only [Action.calls_bind, perform_calls]
      rfl

lemma add_of_conflict (env : Environment) {d : Descriptor} (module : μ) {r : Registry μ}
    {error : ModuleError} (h : r.conflict? d = some error) :
    add env d module r = ⟨.returned (.error error), r, []⟩ := by
  simp only [add, Action.bind_apply, Action.get_apply, h]
  rfl

lemma add_of_no_conflict (env : Environment) {d : Descriptor} (module : μ) {r : Registry μ}
    (h : r.conflict? d = none) :
    add env d module r =
      if Handle.bound ≤ r.nextHandle + 1 then ⟨.returned (.error .handlesExhausted), r, []⟩
      else initialise env d ⟨r.nextHandle⟩ module r := by
  unfold add
  rw [Action.bind_apply, Action.get_apply]
  simp only [h]
  rw [Action.ite_apply]
  rfl

section Requests

variable (env : Environment) (e : Entry)

lemma execute_of_fenced (session : SessionContext) (operation : String) (payload : Json)
    {r : Registry μ} (h : ∀ i, r.instance? e.handle = some i → i.hasCrashed = true) :
    (execute env e session operation payload).gist r = (unavailable e, r, []) := by
  simp only [Action.gist, execute, Action.bind_apply, Action.get_apply]
  cases hi : r.instance? e.handle with
  | none => rfl
  | some i =>
    simp only [h i hi, if_true]
    rfl

lemma execute_of_alive (session : SessionContext) (operation : String) (payload : Json)
    {r : Registry μ} {i : Instance μ} (hi : r.instance? e.handle = some i)
    (hn : i.hasCrashed = false) :
    execute env e session operation payload r =
      asking env (.executed e.handle e.name operation) i
        (DeviceModule.execute env session operation payload i.module)
        (match (DeviceModule.execute env session operation payload i.module).outcome with
          | .returned reply => pure reply
          | .crashed => do
            Action.log .warn .moduleRegistry "module panicked while executing an operation"
              [("module", .string e.name), ("operation", .string operation)]
            return unavailable e) r := by
  rw [execute, asking, Action.bind_apply, Action.get_apply, handle_of_instance? hi]
  simp only [hi, hn, Bool.false_eq_true, if_false]
  cases (DeviceModule.execute env session operation payload i.module).outcome with
  | returned reply => rfl
  | crashed => rfl

/-- A module executes an operation: the reply is its own, unless it crashes or has crashed
before. -/
lemma execute_spec (session : SessionContext) (operation : String) (payload : Json)
    (r : Registry μ) :
    ∃ outcome, (execute env e session operation payload r).value = replyOf e outcome ∧
      Consults env e (.executed e.handle e.name operation)
        (DeviceModule.execute env session operation payload) r outcome
        (execute env e session operation payload r).state
        (execute env e session operation payload r).calls := by
  refine consults_of (execute_of_fenced env e session operation payload) fun i hi hn =>
    ⟨_, fun r => ?_, execute_of_alive env e session operation payload hi hn⟩
  cases (DeviceModule.execute env session operation payload i.module).outcome with
  | returned reply => rfl
  | crashed => rfl

lemma serves_execute (session : SessionContext) (operation : String) (payload : Json)
    (r : Registry μ) :
    Serves r (execute env e session operation payload r).state
      (execute env e session operation payload r).calls := by
  obtain ⟨outcome, -, h⟩ := execute_spec env e session operation payload r
  exact h.serves rfl rfl

lemma stateData_of_fenced {r : Registry μ}
    (h : ∀ i, r.instance? e.handle = some i → i.hasCrashed = true) :
    (stateData env e).gist r = (.error (.unavailable e.name), r, []) := by
  simp only [Action.gist, stateData, Action.bind_apply, Action.get_apply]
  cases hi : r.instance? e.handle with
  | none => rfl
  | some i =>
    simp only [h i hi, if_true]
    rfl

lemma stateData_of_alive {r : Registry μ} {i : Instance μ} (hi : r.instance? e.handle = some i)
    (hn : i.hasCrashed = false) :
    stateData env e r =
      asking env (.stateRead e.handle e.name) i (DeviceModule.state env i.module)
        (match (DeviceModule.state env i.module).outcome with
          | .returned (.ok value) => pure (.ok value)
          | .returned (.error message) => pure (.error (.stateData e.name message))
          | .crashed => do
            Action.log .warn .moduleRegistry "module panicked while reporting state data"
              [("module", .string e.name)]
            return .error (.unavailable e.name)) r := by
  rw [stateData, asking, Action.bind_apply, Action.get_apply, handle_of_instance? hi]
  simp only [hi, hn, Bool.false_eq_true, if_false]
  rcases (DeviceModule.state env i.module).outcome with (message | value) | _
  · rfl
  · rfl
  · rfl

/-- A module reports its state: the answer is its own, unless it crashes or has crashed before. -/
lemma stateData_spec (r : Registry μ) :
    ∃ outcome, (stateData env e r).value = stateOf e outcome ∧
      Consults env e (.stateRead e.handle e.name) (DeviceModule.state env) r outcome
        (stateData env e r).state (stateData env e r).calls := by
  refine consults_of (stateData_of_fenced env e) fun i hi hn =>
    ⟨_, fun r => ?_, stateData_of_alive env e hi hn⟩
  rcases (DeviceModule.state env i.module).outcome with (message | value) | _
  · rfl
  · rfl
  · rfl

lemma serves_stateData (r : Registry μ) :
    Serves r (stateData env e r).state (stateData env e r).calls := by
  obtain ⟨outcome, -, h⟩ := stateData_spec env e r
  exact h.serves rfl rfl

end Requests

lemma unloadAll_spec (env : Environment) {r : Registry μ} (h : (r.entries.map (·.handle)).Nodup) :
    (unloadAll env r).state.entries = [] ∧ (unloadAll env r).state.nextHandle = r.nextHandle ∧
      (unloadAll env r).state.instances.map (·.handle) = r.instances.map (·.handle) ∧
      (unloadAll env r).calls = (r.upToCrash r.entries.reverse).map (·.closing) := by
  have hreverse : (r.entries.reverse.map (·.handle)).Nodup := by
    rw [List.map_reverse, List.nodup_reverse]
    exact h
  obtain ⟨he, hn, hi, hc, hv⟩ := closeEach_spec env hreverse { r with entries := [] }
  have hsame : ({ r with entries := [] } : Registry μ).upToCrash r.entries.reverse =
      r.upToCrash r.entries.reverse := upToCrash_congr fun _ _ => rfl
  rw [hsame] at hc
  rw [unloadAll, Action.calls_bind, Action.calls_bind, Action.bind_apply]
  simp only [takeAll, Result.calls_nil, List.nil_append, Action.bind_apply, hv, hc, ending]
  split
  · exact ⟨he, hn, hi, List.append_nil _⟩
  · exact ⟨he, hn, hi, List.append_nil _⟩

section Steady

variable {μ : Type} [SteadyModule μ]

lemma isBroken_steady (r : Registry μ) (handle : Handle) : r.isBroken handle = false := by
  rw [isBroken]
  cases r.instance? handle with
  | none => rfl
  | some i => exact SteadyModule.close_returns i.module

end Steady

end Registry

end Device

end ManagementServer
