import ManagementServer.Proofs.Isolation

/-!
# Containment of a crash

What becomes of a module that crashes while it is asked for something: no request reaches it any
more, each is answered for it as by a module that is unavailable, it is closed once, and neither
another module nor an operation of the registry behaves in another way (`Registry.contained_after`).
A crash in closing it is not contained: modules that were registered before it may stay open.
-/

namespace ManagementServer.Device

open Registry (Touches)

variable {μ : Type}

namespace Registry

namespace Consults

variable {α : Type} {env : Environment} {e : Entry} {call : Call} {respond : μ → Response μ α}
  {r r' : Registry μ} {outcome : Outcome α} {calls : List Call}

/-- A module that crashes in a call has crashed behind it. -/
lemma crashes (h : Consults env e call respond r outcome r' calls) {i : Instance μ}
    (hi : r.instance? e.handle = some i) (hn : i.hasCrashed = false)
    (hc : (respond i.module).outcome = .crashed) :
    outcome = .crashed ∧ r'.hasCrashed e.handle := by
  cases h with
  | fenced crashed =>
    rw [crashed i hi] at hn
    cases hn
  | called found _ follows =>
    cases hi.symm.trans found
    refine ⟨hc, ?_⟩
    rw [hasCrashed, ← handle_of_instance? hi, follows.module, Option.any_some, hc]
    rfl

/-- A module that has crashed is not called. -/
lemma refused (h : Consults env e call respond r outcome r' calls)
    (hcrashed : r.hasCrashed e.handle) : outcome = .crashed ∧ r' = r ∧ calls = [] := by
  cases h with
  | fenced => exact ⟨rfl, rfl, rfl⟩
  | called found alive =>
    rw [hasCrashed, found, Option.any_some, alive] at hcrashed
    cases hcrashed

end Consults

end Registry

namespace Operation

/-- What an operation answers. -/
inductive Answer where
  | added (outcome : Outcome (Except ModuleError Handle))
  | removed (outcome : Outcome (Except ModuleError Unit))
  | permitted (outcome : Except ModuleError Unit)
  | executed (reply : Rpc.Reply)
  | reported (outcome : Except ModuleError Json)
  | closed (count : Outcome Nat)
  | changed
  | synced (outcome : Outcome Catalog.Summary)

/-- Whether an operation asks the module of a handle for something, through any reference. -/
def Asks (handle : Handle) : Operation μ → Prop
  | .execute _ e _ _ _ => e.handle = handle
  | .stateData _ e => e.handle = handle
  | _ => False

/-- The answer to a request for a module that has crashed. -/
def refusal? : Operation μ → Option Answer
  | .execute _ e _ _ _ => some (.executed (Registry.unavailable e))
  | .stateData _ e => some (.reported (.error (.unavailable e.name)))
  | _ => none

/-- What an operation does to the bus when modules publish some events in it. -/
def busBehind (events : List Event.Notification) (bus : Event.Bus) : Operation μ → Event.Bus
  | .changeBus change => change bus
  | _ => events.foldl Event.Bus.publish bus

variable [DeviceModule μ]

/-- Carries an operation out, with its answer. -/
def answered : Operation μ → Action (Registry μ) Answer
  | .add env d module => do return .added (← Registry.add env d module)
  | .remove env handle => do return .removed (← Registry.unload env handle)
  | .setAllowed name allowed => do return .permitted (← Registry.setAllowed name allowed)
  | .execute env e session operation payload => do
    return .executed (← Registry.execute env e session operation payload)
  | .stateData env e => do return .reported (← Registry.stateData env e)
  | .closeAll env => do return .closed (← Registry.unloadAll env)
  | .changeBus change => do
    Action.modify fun r => { r with bus := change r.bus }
    return .changed
  | .sync env f m => do return .synced (← Catalog.sync env f m)

/-- The module of a handle crashes while an operation asks it for something. -/
def Crashes (handle : Handle) (r : Registry μ) : Operation μ → Prop
  | .execute env e session operation payload => e.handle = handle ∧
    ∃ i, r.instance? handle = some i ∧ i.hasCrashed = false ∧
      (DeviceModule.execute env session operation payload i.module).outcome = .crashed
  | .stateData env e => e.handle = handle ∧
    ∃ i, r.instance? handle = some i ∧ i.hasCrashed = false ∧
      (DeviceModule.state env i.module).outcome = .crashed
  | _ => False

lemma answered_spec (o : Operation μ) (r : Registry μ) :
    (o.answered r).state = (o.act r).state ∧ (o.answered r).calls = (o.act r).calls := by
  cases o with
  | add env d module => exact ⟨rfl, rfl⟩
  | remove env handle => exact ⟨rfl, rfl⟩
  | setAllowed name allowed => exact ⟨rfl, rfl⟩
  | execute env e session operation payload => exact ⟨rfl, rfl⟩
  | stateData env e => exact ⟨rfl, rfl⟩
  | closeAll env => exact ⟨rfl, rfl⟩
  | changeBus change => exact ⟨rfl, rfl⟩
  | sync env f m => exact ⟨rfl, rfl⟩

lemma asks_of_crashes {o : Operation μ} {handle : Handle} {r : Registry μ}
    (h : o.Crashes handle r) : o.Asks handle := by
  cases o with
  | execute env e session operation payload => exact h.1
  | stateData env e => exact h.1
  | _ => cases h

/-- An operation in which a module crashes answers for it. -/
lemma crashes_spec {o : Operation μ} {handle : Handle} {r : Registry μ} (h : o.Crashes handle r) :
    o.refusal? = some (o.answered r).value ∧ (o.answered r).state.hasCrashed handle := by
  cases o with
  | execute env e session operation payload =>
    obtain ⟨rfl, i, hi, hn, hc⟩ := h
    obtain ⟨outcome, hv, hconsults⟩ := Registry.execute_spec env e session operation payload r
    obtain ⟨rfl, hstate⟩ := hconsults.crashes hi hn hc
    exact ⟨congrArg (fun reply => some (Answer.executed reply)) hv.symm, hstate⟩
  | stateData env e =>
    obtain ⟨rfl, i, hi, hn, hc⟩ := h
    obtain ⟨outcome, hv, hconsults⟩ := Registry.stateData_spec env e r
    obtain ⟨rfl, hstate⟩ := hconsults.crashes hi hn hc
    exact ⟨congrArg (fun outcome => some (Answer.reported outcome)) hv.symm, hstate⟩
  | _ => cases h

lemma calls_execute (env : Environment) (e : Entry) (session : SessionContext) (operation : String)
    (payload : Json) (r : Registry μ) :
    ((Operation.execute env e session operation payload).answered r).calls =
      (Registry.execute env e session operation payload r).calls :=
  (Action.calls_bind _ _ r).trans (List.append_nil _)

lemma calls_stateData (env : Environment) (e : Entry) (r : Registry μ) :
    ((Operation.stateData env e).answered r).calls = (Registry.stateData env e r).calls :=
  (Action.calls_bind _ _ r).trans (List.append_nil _)

/-- A request for a module that has crashed is refused. -/
lemma refused_of_crashed {o : Operation μ} {handle : Handle} {r : Registry μ}
    (ho : o.Asks handle) (h : r.hasCrashed handle) :
    o.refusal? = some (o.answered r).value ∧ (o.answered r).state = r ∧
      (o.answered r).calls = [] := by
  cases o with
  | execute env e session operation payload =>
    obtain rfl := ho
    obtain ⟨outcome, hv, hconsults⟩ := Registry.execute_spec env e session operation payload r
    obtain ⟨rfl, hstate, hcalls⟩ := hconsults.refused h
    rw [calls_execute]
    exact ⟨congrArg (fun reply => some (Answer.executed reply)) hv.symm, hstate, hcalls⟩
  | stateData env e =>
    obtain rfl := ho
    obtain ⟨outcome, hv, hconsults⟩ := Registry.stateData_spec env e r
    obtain ⟨rfl, hstate, hcalls⟩ := hconsults.refused h
    rw [calls_stateData]
    exact ⟨congrArg (fun outcome => some (Answer.reported outcome)) hv.symm, hstate, hcalls⟩
  | _ => cases ho

/-- A request changes nothing but the module that is asked, and no other module is called. -/
lemma asked_spec {o : Operation μ} {handle : Handle} (ho : o.Asks handle) (r : Registry μ) :
    Touches handle r (o.answered r).state ∧
      ∀ call ∈ (o.answered r).calls, call.isRequest ∧ call.handle = handle := by
  cases o with
  | execute env e session operation payload =>
    obtain rfl := ho
    obtain ⟨outcome, -, h⟩ := Registry.execute_spec env e session operation payload r
    refine ⟨h.touches, fun call hm => ?_⟩
    rw [calls_execute, h.calls_eq] at hm
    obtain ⟨rfl, -⟩ := Registry.mem_reached hm
    exact ⟨rfl, rfl⟩
  | stateData env e =>
    obtain rfl := ho
    obtain ⟨outcome, -, h⟩ := Registry.stateData_spec env e r
    refine ⟨h.touches, fun call hm => ?_⟩
    rw [calls_stateData, h.calls_eq] at hm
    obtain ⟨rfl, -⟩ := Registry.mem_reached hm
    exact ⟨rfl, rfl⟩
  | _ => cases ho

end Operation

/-! ## Courses -/

/-- An operation of a run, with the registry before it and what comes of it. -/
structure Course (μ : Type) where
  operation : Operation μ
  before : Registry μ
  result : Result (Registry μ) Operation.Answer

/-- A course beside that of the same operation where a module has another past: the registries
differ in that module at most, and whatever does not ask it comes to the same. Unless the module is
closed meanwhile, this goes for everything that is logged, reported and published. -/
structure Course.Parallel (handle : Handle) (c c' : Course μ) : Prop where
  operation : c'.operation = c.operation
  state : Touches handle c.result.state c'.result.state
  asked : c.operation.Asks handle → ∀ call ∈ c'.result.calls, call.isRequest ∧ call.handle = handle
  value : ¬c.operation.Asks handle → c'.result.value = c.result.value
  calls : ¬c.operation.Asks handle → c'.result.calls = c.result.calls
  others : ¬c.operation.Asks handle → (∀ call ∈ c.result.calls, call.handle ≠ handle) →
    c'.result.journal = c.result.journal ∧ ∃ events : List Event.Notification,
      c.result.state.bus = c.operation.busBehind events c.before.bus ∧
        c'.result.state.bus = c.operation.busBehind events c'.before.bus

/-- An operation after a module has crashed: no request reaches the module, and each is refused and
changes nothing. -/
structure Course.Fenced (handle : Handle) (c : Course μ) : Prop where
  unreached : ∀ call ∈ c.result.calls, call.isRequest → call.handle ≠ handle
  refused : c.operation.Asks handle → c.operation.refusal? = some c.result.value ∧
    c.result.state = c.before ∧ c.result.calls = []

variable [DeviceModule μ]

/-- Wherever the module is closed in a course, it does not crash. -/
def Course.ClosesWell (handle : Handle) (c : Course μ) : Prop :=
  c.before.ClosesWell handle c.result.calls

/-- What does not ask a module comes to the same whatever that module is. -/
lemma Operation.isolatedAt_answered {o : Operation μ} {handle : Handle} (ho : ¬o.Asks handle)
    (hchange : ∀ change, o ≠ .changeBus change) {r : Registry μ}
    (hr : (r.entries.map (·.handle)).Nodup) : Registry.IsolatedAt handle True r o.answered := by
  have hat : ∀ {α : Type} {own : Prop} {x : Action (Registry μ) α},
      Registry.Isolated handle own x → Registry.IsolatedAt handle True r x :=
    fun hx => (hx.mono fun _ => trivial).isolatedAt r
  cases o with
  | add env d module => exact (hat (Registry.Isolated.add env d module)).map _
  | remove env other => exact (hat (Registry.Isolated.unload env other)).map _
  | setAllowed name allowed => exact (hat (Registry.Isolated.setAllowed name allowed)).map _
  | execute env e session operation payload =>
    exact (hat (Registry.Isolated.execute ho env session operation payload)).map _
  | stateData env e => exact (hat (Registry.Isolated.stateData ho env)).map _
  | closeAll env => exact (Registry.Isolated.unloadAll env hr).map _
  | changeBus change => exact absurd rfl (hchange change)
  | sync env f m => exact (Catalog.isolated_sync env f m hr).map _

/-- An operation that does not ask a module asks it for nothing on the way, and leaves it
crashed. -/
lemma Operation.unasked_spec {o : Operation μ} {handle : Handle} (ho : ¬o.Asks handle)
    {r : Registry μ} (hr : (r.entries.map (·.handle)).Nodup) :
    (∀ call ∈ (o.answered r).calls, call.isRequest → call.handle ≠ handle) ∧
      (r.hasCrashed handle → (o.answered r).state.hasCrashed handle) := by
  by_cases hchange : ∃ change, o = .changeBus change
  · obtain ⟨change, rfl⟩ := hchange
    exact ⟨fun call hc => (by cases hc), fun hc => hc⟩
  · have hat := isolatedAt_answered ho (fun change hc => hchange ⟨change, hc⟩) hr
    exact ⟨hat.unasked, hat.crashed⟩

/-- One operation of two runs that differ in a module, which does not crash when it is closed. -/
lemma Operation.parallel (o : Operation μ) {handle : Handle} {r s : Registry μ}
    (hr : (r.entries.map (·.handle)).Nodup) (hi : (r.instance? handle).isSome)
    (h : Touches handle r s) (hc : Course.ClosesWell handle ⟨o, r, o.answered r⟩)
    (hc' : Course.ClosesWell handle ⟨o, s, o.answered s⟩) :
    Course.Parallel handle ⟨o, r, o.answered r⟩ ⟨o, s, o.answered s⟩ := by
  by_cases ho : o.Asks handle
  · obtain ⟨htouches, -⟩ := asked_spec ho r
    obtain ⟨htouches', hcalls⟩ := asked_spec ho s
    exact ⟨rfl, (htouches.symm.trans h).trans htouches', fun _ => hcalls, fun hn => absurd ho hn,
      fun hn => absurd ho hn, fun hn => absurd ho hn⟩
  · by_cases hchange : ∃ change, o = .changeBus change
    · obtain ⟨change, rfl⟩ := hchange
      refine ⟨rfl, ?_, fun hasks => absurd hasks ho, fun _ => rfl, fun _ => rfl, ?_⟩
      · exact ⟨h.entries, h.nextHandle, h.handles, h.others⟩
      · exact fun _ _ => ⟨rfl, [], rfl, rfl⟩
    · have hne : ∀ change, o ≠ .changeBus change := fun change he => hchange ⟨change, he⟩
      have hbus : ∀ events bus, o.busBehind events bus = events.foldl Event.Bus.publish bus := by
        intro events bus
        cases o with
        | changeBus change => exact absurd rfl (hne change)
        | _ => rfl
      have halike := (isolatedAt_answered ho hne hr).alike s h fun _ => ⟨hi, hc, hc'⟩
      refine ⟨rfl, halike.state, fun hasks => absurd hasks ho, fun _ => halike.value,
        fun _ => halike.calls, fun _ hn => ?_⟩
      obtain ⟨hjournal, events, hbefore, hbehind⟩ := halike.others hn
      refine ⟨hjournal, events, ?_, ?_⟩
      · exact hbefore.trans (hbus events _).symm
      · exact hbehind.trans (hbus events _).symm

/-- One operation behind a crash. -/
lemma Operation.fenced (o : Operation μ) {handle : Handle} {r : Registry μ}
    (hr : (r.entries.map (·.handle)).Nodup) (h : r.hasCrashed handle) :
    Course.Fenced handle ⟨o, r, o.answered r⟩ ∧ (o.answered r).state.hasCrashed handle := by
  by_cases ho : o.Asks handle
  · have hrefused := refused_of_crashed ho h
    refine ⟨⟨fun call hc => ?_, fun _ => hrefused⟩, ?_⟩
    · rw [hrefused.2.2] at hc
      cases hc
    · rw [hrefused.2.1]
      exact h
  · obtain ⟨hcalls, hcrashed⟩ := unasked_spec ho hr
    exact ⟨⟨hcalls, fun hasks => absurd hasks ho⟩, hcrashed h⟩

lemma Operation.sound_answered (o : Operation μ) {r : Registry μ} {history : List Call}
    (h : r.Sound history) :
    (o.answered r).state.Sound (history ++ (o.answered r).calls) := by
  obtain ⟨hstate, hcalls⟩ := o.answered_spec r
  rw [hstate, hcalls]
  exact o.preserves_act r history h

/-- The courses of operations, one after the other. -/
def courses : List (Operation μ) → Registry μ → List (Course μ)
  | [], _ => []
  | o :: rest, r => ⟨o, r, o.answered r⟩ :: courses rest (o.answered r).state

lemma courses_parallel {handle : Handle} (ops : List (Operation μ)) {r s : Registry μ}
    {history : List Call} (hr : r.Sound history) (hcrash : r.hasCrashed handle)
    (h : Touches handle r s) (hc : ∀ c ∈ courses ops r, c.ClosesWell handle)
    (hc' : ∀ c ∈ courses ops s, c.ClosesWell handle) :
    List.Forall₂ (Course.Parallel handle) (courses ops r) (courses ops s) := by
  induction ops generalizing r s history with
  | nil => exact List.Forall₂.nil
  | cons o rest ih =>
    obtain ⟨hfirst, hrest⟩ := List.forall_mem_cons.mp hc
    obtain ⟨hfirst', hrest'⟩ := List.forall_mem_cons.mp hc'
    have hstep := o.parallel hr.handles (Option.isSome_of_any hcrash) h hfirst hfirst'
    have hcrash' := (o.fenced hr.handles hcrash).2
    exact List.Forall₂.cons hstep (ih (o.sound_answered hr) hcrash' hstep.state hrest hrest')

lemma courses_fenced {handle : Handle} (ops : List (Operation μ)) {r : Registry μ}
    {history : List Call} (hr : r.Sound history) (h : r.hasCrashed handle) :
    ∀ c ∈ courses ops r, c.Fenced handle := by
  induction ops generalizing r history with
  | nil => exact fun c hc => by cases hc
  | cons o rest ih =>
    obtain ⟨hfirst, hcrashed⟩ := o.fenced hr.handles h
    exact List.forall_mem_cons.mpr ⟨hfirst, ih (o.sound_answered hr) hcrashed⟩

/-! ## The end of a module -/

/-- All modules are closed, and one that was registered later crashes, so that it is not this one's
turn. -/
def Course.Abandons (handle : Handle) (c : Course μ) : Prop :=
  (∃ env, c.operation = .closeAll env) ∧
    ∃ e ∈ c.before.entries, handle.number < e.handle.number ∧ c.before.isBroken e.handle

/-- A module is closed by the operation that takes it out of the registry, unless that abandons
it. -/
def Course.Ends (handle : Handle) (c : Course μ) : Prop :=
  handle ∈ c.before.entries.map (·.handle) ∧ handle ∉ c.result.state.entries.map (·.handle) ∧
    ¬c.Abandons handle

lemma Operation.closings_closeAll (env : Environment) (handle : Handle) {r : Registry μ}
    {history : List Call} (h : r.Sound history) :
    closings handle ((closeAll env).answered r).calls = 1 ↔
      Course.Ends handle ⟨.closeAll env, r, (closeAll env).answered r⟩ := by
  obtain ⟨hentries, -, -, hcalls⟩ := Registry.unloadAll_spec env h.handles
  have hreverse : r.entries.reverse.Pairwise fun e e' => e'.handle.number < e.handle.number := by
    rw [List.pairwise_reverse]
    exact (List.pairwise_map (f := Entry.handle)).mp h.ordered
  have hnodup : ((r.upToCrash r.entries.reverse).map (·.handle)).Nodup := by
    have hall : (r.entries.reverse.map (·.handle)).Nodup := by
      rw [List.map_reverse, List.nodup_reverse]
      exact h.handles
    exact hall.sublist ((r.upToCrash_prefix _).sublist.map _)
  have hcount : ((r.upToCrash r.entries.reverse).map (·.handle)).count handle = 1 ↔
      handle ∈ (r.upToCrash r.entries.reverse).map (·.handle) :=
    ⟨fun hone => List.count_pos_iff.mp (by omega), List.count_eq_one_of_mem hnodup⟩
  have hanswered : ((closeAll env).answered r).calls = (Registry.unloadAll env r).calls :=
    (Action.calls_bind _ _ r).trans (List.append_nil _)
  have hstate : ((closeAll env).answered r).state.entries = [] := hentries
  rw [hanswered, hcalls, closings_map_closing, hcount, List.mem_map, Course.Ends, hstate]
  constructor
  · rintro ⟨e, hm, rfl⟩
    obtain ⟨he, hlater⟩ := (Registry.mem_upToCrash hreverse).mp hm
    refine ⟨List.mem_map_of_mem (List.mem_reverse.mp he), List.not_mem_nil, ?_⟩
    rintro ⟨-, e', he', hlt, hb⟩
    rw [hlater e' (List.mem_reverse.mpr he') hlt] at hb
    cases hb
  · rintro ⟨hm, -, hn⟩
    obtain ⟨e, he, rfl⟩ := List.mem_map.mp hm
    refine ⟨e, (Registry.mem_upToCrash hreverse).mpr ⟨List.mem_reverse.mpr he, ?_⟩, rfl⟩
    intro e' he' hlt
    cases hb : r.isBroken e'.handle with
    | false => rfl
    | true => exact absurd ⟨⟨env, rfl⟩, e', List.mem_reverse.mp he', hlt, hb⟩ hn

lemma Operation.closings_answered (o : Operation μ) {handle : Handle} {r : Registry μ}
    {history : List Call} (h : r.Sound history) (ho : openings handle history = 1) :
    closings handle (o.answered r).calls = 1 ↔ Course.Ends handle ⟨o, r, o.answered r⟩ := by
  by_cases hall : ∃ env, o = .closeAll env
  · obtain ⟨env, rfl⟩ := hall
    exact closings_closeAll env handle h
  · obtain ⟨hstate, hcalls⟩ := o.answered_spec r
    have h' := o.sound_answered h
    have hbalance := o.balances_act h (fun env he => absurd ⟨env, he⟩ hall) handle
    have honce := h'.once handle
    rw [← hstate, ← hcalls] at hbalance
    rw [openings_append, ho] at honce
    have hnone : ¬Course.Abandons handle ⟨o, r, o.answered r⟩ := fun hc => hall hc.1
    by_cases hm : handle ∈ r.entries.map (·.handle)
    · rw [List.count_eq_one_of_mem h.handles hm] at hbalance
      by_cases hm' : handle ∈ (o.answered r).state.entries.map (·.handle)
      · rw [List.count_eq_one_of_mem h'.handles hm'] at hbalance
        exact iff_of_false (by omega) fun hends => hends.2.1 hm'
      · rw [List.count_eq_zero.mpr hm'] at hbalance
        exact iff_of_true (by omega) ⟨hm, hm', hnone⟩
    · rw [List.count_eq_zero.mpr hm] at hbalance
      exact iff_of_false (by omega) fun hends => hm hends.1

lemma courses_closings (handle : Handle) (ops : List (Operation μ)) {r : Registry μ}
    {history : List Call} (h : r.Sound history) :
    closings handle (history ++ (courses ops r).flatMap (·.result.calls)) ≤ 1 ∧
      (openings handle history = 1 → ∀ c ∈ courses ops r,
        closings handle c.result.calls = 1 ↔ c.Ends handle) := by
  induction ops generalizing r history with
  | nil =>
    have hbalance := h.balance handle
    have honce := h.once handle
    refine ⟨?_, fun _ c hc => by cases hc⟩
    rw [courses, List.flatMap_nil, List.append_nil]
    omega
  | cons o rest ih =>
    have h' := o.sound_answered h
    obtain ⟨htotal, heach⟩ := ih h'
    rw [courses, List.flatMap_cons, ← List.append_assoc]
    refine ⟨htotal, fun ho => List.forall_mem_cons.mpr ⟨o.closings_answered h ho, heach ?_⟩⟩
    have honce := h'.once handle
    rw [openings_append] at honce ⊢
    omega

/-- What comes of an operation in which a module crashes and of any operations behind it, with the
module calls before. -/
structure Contained (handle : Handle) (history : List Call) (crash : Course μ)
    (later : List (Operation μ)) : Prop where
  answered : crash.operation.refusal? = some crash.result.value
  confined : Touches handle crash.before crash.result.state
  fenced : ∀ c ∈ courses later crash.result.state, c.Fenced handle
  closed : openings handle history = 1 → ∀ c ∈ courses later crash.result.state,
    closings handle c.result.calls = 1 ↔ c.Ends handle
  once : closings handle (history ++ crash.result.calls ++
    (courses later crash.result.state).flatMap (·.result.calls)) ≤ 1
  others : ∀ s, Touches handle crash.result.state s →
    (∀ c ∈ courses later crash.result.state, c.ClosesWell handle) →
    (∀ c ∈ courses later s, c.ClosesWell handle) →
    List.Forall₂ (Course.Parallel handle) (courses later crash.result.state) (courses later s)

namespace Registry

/-- Whenever a module crashes while it is asked for something, no request reaches it any more. It is
closed once, by what takes it out of the registry, unless a module that was registered later crashes
when all are closed. As long as the module itself does not crash when it is closed, all else is as
if it had not crashed. -/
theorem contained_after (bus : Event.Bus) (earlier : List (Operation μ)) (o : Operation μ)
    (handle : Handle) (later : List (Operation μ))
    (h : o.Crashes handle (Registry.after bus earlier).state) :
    let before := Registry.after bus earlier
    Contained handle before.calls ⟨o, before.state, o.answered before.state⟩ later := by
  have hsound := sound_after bus earlier
  generalize Registry.after bus earlier = before at h hsound ⊢
  obtain ⟨hanswer, hcrashed⟩ := Operation.crashes_spec h
  obtain ⟨hconfined, hasked⟩ := Operation.asked_spec (Operation.asks_of_crashes h) before.state
  have hsound' := o.sound_answered hsound
  obtain ⟨honce, hclosed⟩ := courses_closings handle later hsound'
  refine ⟨hanswer, hconfined, courses_fenced later hsound' hcrashed, fun ho => hclosed ?_, honce,
    fun s hs hc hc' => courses_parallel later hsound' hcrashed hs hc hc'⟩
  rw [openings_append, ho, openings_eq_zero fun c hc =>
    (Call.of_isRequest (hasked c hc).1 handle).1]

/-- A module with the reference to it, by its number and name and what it answers. -/
def scriptedPair (number : Nat) (name : String) (answers : List (String × ScriptedAnswer)) :
    Entry × ScriptedModule :=
  (⟨⟨number⟩, .ofOperations name (.ofList ["urn:d"]) ["halt"]⟩,
    .ofScript ⟨none, [], answers, .data .null⟩)

/-- A module that crashes when it is asked to halt. -/
def frail : Entry × ScriptedModule := scriptedPair 0 "frail" [("halt", .crash)]

/-- A module that answers everything. -/
def sturdy : Entry × ScriptedModule := scriptedPair 1 "sturdy" []

/-- Both modules are registered, and one crashes. Behind that only the other one is asked, and both
are closed in the end. -/
theorem contained_after_halt :
    let asks (pair : Entry × ScriptedModule) (operation : String) : Operation ScriptedModule :=
      .execute .calm pair.1 default operation .null
    let before := Registry.after (.ofCapacity 4)
      [.add .calm frail.1.descriptor frail.2, .add .calm sturdy.1.descriptor sturdy.2]
    let halt := asks frail "halt"
    let later := [asks frail "resume", asks sturdy "halt", .stateData .calm frail.1,
      .stateData .calm sturdy.1, .closeAll .calm, asks frail "halt", asks sturdy "resume"]
    halt.Crashes ⟨0⟩ before.state ∧
      Contained ⟨0⟩ before.calls ⟨halt, before.state, halt.answered before.state⟩ later ∧
      (courses later (halt.answered before.state).state).flatMap (·.result.calls) =
        [.executed ⟨1⟩ "sturdy" "halt", .stateRead ⟨1⟩ "sturdy", .closed ⟨1⟩ "sturdy",
          .closed ⟨0⟩ "frail", .executed ⟨1⟩ "sturdy" "resume"] := by
  have hcrash : Operation.Crashes ⟨0⟩
      (Registry.after (.ofCapacity 4)
        [.add .calm frail.1.descriptor frail.2, .add .calm sturdy.1.descriptor sturdy.2]).state
      (.execute .calm frail.1 default "halt" .null) :=
    ⟨rfl, _, rfl, rfl, rfl⟩
  exact ⟨hcrash, contained_after _ _ _ _ _ hcrash, by decide +kernel⟩

/-- A module that crashes when it is asked to halt, and from then on when it is closed. -/
structure Brittle where
  isBroken : Bool

instance : DeviceModule Brittle where
  init _ _ m := ⟨.returned (.ok .null), m, []⟩
  execute _ _ operation _ m :=
    if operation = "halt" then ⟨.crashed, ⟨true⟩, []⟩ else ⟨.returned .ok, m, []⟩
  state _ m := ⟨.returned (.ok .null), m, []⟩
  close m := ⟨if m.isBroken then .crashed else .returned (), m, []⟩

/-- Two modules are registered, and the second crashes on a request. When all are closed it crashes
again, and the first is never closed. Had it not crashed, both would be. -/
theorem crash_abandons_other :
    let entry (number : Nat) (name : String) : Entry :=
      ⟨⟨number⟩, .ofOperations name (.ofList ["urn:d"]) ["halt"]⟩
    let before := Registry.after (.ofCapacity 4)
      [.add .calm (entry 0 "first").descriptor (⟨false⟩ : Brittle),
        .add .calm (entry 1 "second").descriptor ⟨false⟩]
    let halt : Operation Brittle := .execute .calm (entry 1 "second") default "halt" .null
    let closing (r : Registry Brittle) := (Operation.closeAll .calm).answered r
    halt.Crashes ⟨1⟩ before.state ∧
      (closing (halt.answered before.state).state).calls = [.closed ⟨1⟩ "second"] ∧
      (closing (halt.answered before.state).state).state.entries = [] ∧
      (closing before.state).calls = [.closed ⟨1⟩ "second", .closed ⟨0⟩ "first"] :=
  ⟨⟨rfl, _, rfl, rfl, rfl⟩, by decide +kernel, by decide +kernel, by decide +kernel⟩

end Registry

end ManagementServer.Device
