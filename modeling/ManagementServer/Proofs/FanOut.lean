import ManagementServer.Device.Scripted
import ManagementServer.Proofs.ModuleRegistry
import ManagementServer.Server.Dispatch

/-!
# Requests to the device modules

Which modules a request reaches, in which order, and what it is answered with (`dispatch_device`).
-/

namespace ManagementServer.Server

open Device (DeviceModule Entry Registry)
open Rpc (Reply)

variable {μ : Type} [DeviceModule μ]

namespace Dispatch

/-- A module executes an operation: the reply, the registry behind it, and the calls. -/
def Executes (env : Environment) (context : SessionContext) (operation : String) (payload : Json)
    (e : Entry) (r : Registry μ) (reply : Reply) (r' : Registry μ) (calls : List Device.Call) :
    Prop :=
  ∃ outcome, reply = Registry.replyOf e outcome ∧
    Registry.Consults env e (.executed e.handle e.name operation)
      (DeviceModule.execute env context operation payload) r outcome r' calls

/-- A module reports its state: the answer, the registry behind it, and the calls. -/
def Reports (env : Environment) (e : Entry) (r : Registry μ)
    (answer : Except Device.ModuleError Json) (r' : Registry μ) (calls : List Device.Call) : Prop :=
  ∃ outcome, answer = Registry.stateOf e outcome ∧
    Registry.Consults env e (.stateRead e.handle e.name) (DeviceModule.state env) r outcome r' calls

/-- One module is asked: its outcome, the registry behind it, and the calls that reached it. The
state is read for `get` only, and behind a reply that is no error. -/
inductive Asks (env : Environment) (context : SessionContext) (operation : String) (payload : Json)
    (e : Entry) (r : Registry μ) : Reply → Registry μ → List Device.Call → Prop where
  | failed {error : Rpc.Error} {r' : Registry μ} {calls : List Device.Call}
    (hexecutes : Executes env context operation payload e r (.error error) r' calls) :
    Asks env context operation payload e r (.error error) r' calls
  | plain {reply : Reply} {r' : Registry μ} {calls : List Device.Call}
    (hexecutes : Executes env context operation payload e r reply r' calls)
    (hreply : reply.isError = false) (hget : operation ≠ "get") :
    Asks env context operation payload e r reply r' calls
  | silent {reply : Reply} {r' r'' : Registry μ} {calls calls' : List Device.Call}
    (hexecutes : Executes env context operation payload e r reply r' calls)
    (hreply : reply.isError = false) (hget : operation = "get")
    (hreports : Reports env e r' (.ok .null) r'' calls') :
    Asks env context operation payload e r reply r'' (calls ++ calls')
  | stated {reply : Reply} {state : Json} {r' r'' : Registry μ} {calls calls' : List Device.Call}
    (hexecutes : Executes env context operation payload e r reply r' calls)
    (hreply : reply.isError = false) (hget : operation = "get")
    (hreports : Reports env e r' (.ok state) r'' calls') (hnull : state ≠ .null) :
    Asks env context operation payload e r (reply.merge (.data state)) r'' (calls ++ calls')
  | unread {reply : Reply} {fault : Device.ModuleError} {r' r'' : Registry μ}
    {calls calls' : List Device.Call}
    (hexecutes : Executes env context operation payload e r reply r' calls)
    (hreply : reply.isError = false) (hget : operation = "get")
    (hreports : Reports env e r' (.error fault) r'' calls') :
    Asks env context operation payload e r (.error (.failed fault.message)) r'' (calls ++ calls')

/-- Modules are asked one after the other. -/
inductive AsksAll (env : Environment) (context : SessionContext) (operation : String)
    (payload : Json) : Registry μ → List Entry → List Reply → Registry μ → List Device.Call → Prop
    where
  | nil (r : Registry μ) : AsksAll env context operation payload r [] [] r []
  | cons {r r' r'' : Registry μ} {e : Entry} {asked : List Entry} {outcome : Reply}
    {outcomes : List Reply} {calls calls' : List Device.Call}
    (hfirst : Asks env context operation payload e r outcome r' calls)
    (hrest : AsksAll env context operation payload r' asked outcomes r'' calls') :
    AsksAll env context operation payload r (e :: asked) (outcome :: outcomes) r'' (calls ++ calls')

/-- What is answered behind the outcomes of some modules, with others left to ask: the merge of all
if none has failed and nobody is left, or else the error of the last. -/
inductive Answered (start : Reply) : List Reply → List Entry → Reply → Prop where
  | merged {outcomes : List Reply} (h : ∀ outcome ∈ outcomes, outcome.isError = false) :
    Answered start outcomes [] (outcomes.foldl Reply.merge start)
  | failed {earlier : List Reply} {error : Rpc.Error} {rest : List Entry}
    (h : ∀ outcome ∈ earlier, outcome.isError = false) :
    Answered start (earlier ++ [.error error]) rest (.error error)

section Asking

variable {env : Environment} {context : SessionContext} {operation : String} {payload : Json}

lemma executes_of_gist {e : Entry} {r r' : Registry μ} {reply : Reply} {calls : List Device.Call}
    (h : (Registry.execute env e context operation payload).gist r = (reply, r', calls)) :
    Executes env context operation payload e r reply r' calls := by
  obtain ⟨hv, hs, hc⟩ := Action.gist_eq_iff.mp h
  rw [← hv, ← hs, ← hc]
  exact Registry.execute_spec env e context operation payload r

lemma reports_of_gist {e : Entry} {r r' : Registry μ} {answer : Except Device.ModuleError Json}
    {calls : List Device.Call} (h : (Registry.stateData env e).gist r = (answer, r', calls)) :
    Reports env e r answer r' calls := by
  obtain ⟨hv, hs, hc⟩ := Action.gist_eq_iff.mp h
  rw [← hv, ← hs, ← hc]
  exact Registry.stateData_spec env e r

lemma Executes.touches {e : Entry} {r r' : Registry μ} {reply : Reply} {calls : List Device.Call}
    (h : Executes env context operation payload e r reply r' calls) :
    Registry.Touches e.handle r r' := by
  obtain ⟨outcome, -, hconsults⟩ := h
  exact hconsults.touches

lemma Reports.touches {e : Entry} {r r' : Registry μ} {answer : Except Device.ModuleError Json}
    {calls : List Device.Call} (h : Reports env e r answer r' calls) :
    Registry.Touches e.handle r r' := by
  obtain ⟨outcome, -, hconsults⟩ := h
  exact hconsults.touches

lemma withState_of_ne {state : Json} (reply : Reply) (h : state ≠ .null) :
    withState reply (.ok state) = reply.merge (.data state) := by
  cases state with
  | null => exact absurd rfl h
  | bool value => rfl
  | number value => rfl
  | string value => rfl
  | array items => rfl
  | object members => rfl

lemma asks_withState {e : Entry} {r r' r'' : Registry μ} {reply : Reply}
    {answer : Except Device.ModuleError Json} {calls calls' : List Device.Call}
    (hexecutes : Executes env context operation payload e r reply r' calls)
    (hreply : reply.isError = false) (hget : operation = "get")
    (hreports : Reports env e r' answer r'' calls') :
    Asks env context operation payload e r (withState reply answer) r'' (calls ++ calls') := by
  cases answer with
  | error fault => exact .unread hexecutes hreply hget hreports
  | ok state =>
    by_cases hnull : state = .null
    · subst hnull
      exact .silent hexecutes hreply hget hreports
    · rw [withState_of_ne reply hnull]
      exact .stated hexecutes hreply hget hreports hnull

lemma Asks.touches {e : Entry} {r r' : Registry μ} {outcome : Reply} {calls : List Device.Call}
    (h : Asks env context operation payload e r outcome r' calls) :
    Registry.Touches e.handle r r' := by
  cases h with
  | failed hexecutes | plain hexecutes => exact hexecutes.touches
  | silent hexecutes _ _ hreports | stated hexecutes _ _ hreports | unread hexecutes _ _ hreports =>
    exact hexecutes.touches.trans hreports.touches

lemma AsksAll.instance?_eq {asked : List Entry} {r r' : Registry μ} {outcomes : List Reply}
    {calls : List Device.Call} (h : AsksAll env context operation payload r asked outcomes r' calls)
    {handle : Device.Handle} (hn : handle ∉ asked.map (·.handle)) :
    r'.instance? handle = r.instance? handle := by
  induction h with
  | nil => rfl
  | cons hfirst _ ih =>
    obtain ⟨hne, hrest⟩ := not_or.mp (List.mem_cons.not.mp hn)
    exact (ih hrest).trans (hfirst.touches.others handle hne)

lemma Answered.cons {start outcome reply : Reply} {rest : List Entry} {outcomes : List Reply}
    (ho : outcome.isError = false) (h : Answered (start.merge outcome) outcomes rest reply) :
    Answered start (outcome :: outcomes) rest reply := by
  cases h with
  | merged hall => exact .merged (List.forall_mem_cons.mpr ⟨ho, hall⟩)
  | failed hall =>
    rw [← List.cons_append]
    exact .failed (List.forall_mem_cons.mpr ⟨ho, hall⟩)

end Asking

section Running

variable (env : Environment) (close : Closer μ) (socket : SocketId) (session : Session.Ref)
  (request : Protocol.Request)

/-- The stage behind the outcome of one module. -/
def behind (outcome : Reply) (rest : List Entry) (sum : Option Reply) : Stage :=
  if outcome.isError then .done (.ofReply outcome)
  else .execute rest (some ((sum.getD .ok).merge outcome))

omit [DeviceModule μ] in
lemma conclude_gist (record : Session.Record) (e : Entry) (outcome : Reply) (rest : List Entry)
    (sum : Option Reply) (s : Shared μ) :
    (conclude record request e outcome rest sum).gist s = (behind outcome rest sum, s, []) := by
  unfold conclude behind
  cases ho : outcome.isError with
  | true => rfl
  | false =>
    cases sum with
    | none =>
      have hmerge : Reply.merge .ok outcome = outcome := by
        cases outcome with
        | ok => rfl
        | data value => rfl
        | error error => rfl
      rw [Option.getD_none, hmerge]
      rfl
    | some earlier => rfl

lemma step_execute {s : Shared μ} {e : Entry} {reply : Reply} {r' : Registry μ}
    {calls : List Device.Call} (rest : List Entry) (sum : Option Reply)
    (hexecute : (Registry.execute env e (s.sessions.record session).context request.operationName
      request.payload).gist s.modules = (reply, r', calls)) :
    (step env close socket session request (.execute (e :: rest) sum)).gist s =
      (if request.operationName == Route.getName && !reply.isError then .readState e reply rest sum
        else behind reply rest sum, { s with modules := r' }, calls) := by
  have hasked : (Shared.onModules (Registry.execute env e (s.sessions.record session).context
      request.operationName request.payload)).gist s =
        (reply, { s with modules := r' }, calls) := by
    cases hexecute
    rfl
  have hview : (Action.view fun s : Shared μ => s.sessions.record session).gist s =
      (s.sessions.record session, s, []) := rfl
  rw [← List.append_nil calls]
  apply Action.gist_bind hview
  apply Action.gist_bind hasked
  by_cases hget : (request.operationName == Route.getName && !reply.isError) = true
  · rw [if_pos hget, if_pos hget]
    rfl
  · rw [if_neg hget, if_neg hget]
    exact conclude_gist request _ e reply rest sum _

lemma step_readState {s : Shared μ} {e : Entry} {answer : Except Device.ModuleError Json}
    {r' : Registry μ} {calls : List Device.Call} (reply : Reply) (rest : List Entry)
    (sum : Option Reply)
    (hstate : (Registry.stateData env e).gist s.modules = (answer, r', calls)) :
    (step env close socket session request (.readState e reply rest sum)).gist s =
      (behind (withState reply answer) rest sum, { s with modules := r' }, calls) := by
  have hasked : (Shared.onModules (Registry.stateData env e)).gist s =
      (answer, { s with modules := r' }, calls) := by
    cases hstate
    rfl
  have hview : (Action.view fun s : Shared μ => s.sessions.record session).gist s =
      (s.sessions.record session, s, []) := rfl
  rw [← List.append_nil calls]
  apply Action.gist_bind hview
  exact Action.gist_bind hasked (conclude_gist request _ e _ rest sum _)

lemma run_succ (stage : Stage) (fuel : Nat) (hdone : ∀ outcome, stage ≠ .done outcome)
    (hwait : stage.awaited? = none) :
    run env close socket session request (fuel + 1) stage =
      (step env close socket session request stage >>=
        run env close socket session request fuel) := by
  rw [run, hwait]
  exact hdone

/-- Asking one module takes at most two steps. -/
lemma run_module (s : Shared μ) (fuel : Nat) (e : Entry) (rest : List Entry) (sum : Option Reply) :
    ∃ outcome r' calls left, fuel ≤ left ∧
      Asks env (s.sessions.record session).context request.operationName request.payload e s.modules
        outcome r' calls ∧
      ∀ {d s' calls'},
        (run env close socket session request left (behind outcome rest sum)).gist
          { s with modules := r' } = (d, s', calls') →
        (run env close socket session request (fuel + 2) (.execute (e :: rest) sum)).gist s =
          (d, s', calls ++ calls') := by
  obtain ⟨⟨reply, r', calls⟩, hexecute⟩ : ∃ x, (Registry.execute env e
    (s.sessions.record session).context request.operationName request.payload).gist s.modules = x :=
    ⟨_, rfl⟩
  have hexecutes := executes_of_gist hexecute
  have hstep := step_execute env close socket session request rest sum hexecute
  have hrun : run env close socket session request (fuel + 2) (.execute (e :: rest) sum) =
      (step env close socket session request (.execute (e :: rest) sum) >>=
        run env close socket session request (fuel + 1)) :=
    run_succ env close socket session request _ (fuel + 1) (fun _ hc => nomatch hc) rfl
  rw [hrun]
  -- The state is read behind a reply to `get` that is no failure; else the reply is the outcome.
  cases hreply : reply.isError with
  | true =>
    rw [hreply, Bool.not_true, Bool.and_false, if_neg Bool.false_ne_true] at hstep
    cases reply with
    | ok => cases hreply
    | data value => cases hreply
    | error error =>
      refine ⟨.error error, r', calls, fuel + 1, Nat.le_succ fuel, .failed hexecutes, ?_⟩
      intro d s' calls' h
      exact Action.gist_bind hstep h
  | false =>
    by_cases hget : request.operationName = Route.getName
    · have hcond : (request.operationName == Route.getName && !reply.isError) = true := by
        simp [hget, hreply]
      rw [if_pos hcond] at hstep
      obtain ⟨⟨answer, r'', calls'⟩, hstate⟩ :
        ∃ x, (Registry.stateData env e).gist r' = x := ⟨_, rfl⟩
      have hread := step_readState env close socket session request reply rest sum hstate
        (s := { s with modules := r' })
      refine ⟨withState reply answer, r'', calls ++ calls', fuel, Nat.le_refl fuel,
        asks_withState hexecutes hreply hget (reports_of_gist hstate), ?_⟩
      intro d s' calls'' h
      rw [List.append_assoc]
      apply Action.gist_bind hstep
      have hrun' : run env close socket session request (fuel + 1) (.readState e reply rest sum) =
          (step env close socket session request (.readState e reply rest sum) >>=
            run env close socket session request fuel) :=
        run_succ env close socket session request _ fuel (fun _ hc => nomatch hc) rfl
      rw [hrun']
      exact Action.gist_bind hread h
    · have hcond : ¬(request.operationName == Route.getName && !reply.isError) = true := by
        simp [hget]
      rw [if_neg hcond] at hstep
      refine ⟨reply, r', calls, fuel + 1, Nat.le_succ fuel, .plain hexecutes hreply hget, ?_⟩
      intro d s' calls' h
      exact Action.gist_bind hstep h

/-- Modules are asked up to and including the first that fails. -/
lemma run_execute (todo : List Entry) (sum : Option Reply) (s : Shared μ) (fuel : Nat)
    (hfuel : 2 * todo.length < fuel) :
    ∃ asked rest outcomes reply r' calls, todo = asked ++ rest ∧
      AsksAll env (s.sessions.record session).context request.operationName request.payload
        s.modules asked outcomes r' calls ∧
      Answered (sum.getD .ok) outcomes rest reply ∧
      (run env close socket session request fuel (.execute todo sum)).gist s =
        (.ofReply reply, { s with modules := r' }, calls) := by
  -- On what is left to ask. The sum and the modules are those behind what was asked before.
  induction todo generalizing sum s fuel with
  | nil =>
    obtain ⟨left, rfl⟩ : ∃ left, fuel = left + 1 := ⟨fuel - 1, by omega⟩
    refine ⟨[], [], [], sum.getD .ok, s.modules, [], rfl, .nil _,
      .merged (fun _ h => nomatch h), ?_⟩
    have hrun : run env close socket session request (left + 1) (.execute [] sum) =
        (step env close socket session request (.execute [] sum) >>=
          run env close socket session request left) :=
      run_succ env close socket session request _ left (fun _ hc => nomatch hc) rfl
    rw [hrun]
    have hdone : (step env close socket session request (.execute [] sum)).gist s =
        (.done (.ofReply (sum.getD .ok)), s, []) := rfl
    exact Action.gist_bind hdone (by rw [run]; rfl)
  | cons e todo ih =>
    rw [List.length_cons] at hfuel
    obtain ⟨left, rfl⟩ : ∃ left, fuel = left + 2 := ⟨fuel - 2, by omega⟩
    obtain ⟨outcome, r', calls, left', hleft, hasks, hrun⟩ := run_module env close socket
      session request s left e todo sum
    cases ho : outcome.isError with
    | true =>
      cases outcome with
      | ok => cases ho
      | data value => cases ho
      | error error =>
        -- The failure is the reply: the sum is dropped, and the rest is not asked.
        refine ⟨[e], todo, [.error error], .error error, r', calls, rfl, ?_, ?_, ?_⟩
        · have hall := AsksAll.cons hasks (.nil r')
          rwa [List.append_nil] at hall
        · exact .failed (fun _ h => nomatch h :
            ∀ outcome ∈ ([] : List Reply), outcome.isError = false)
        · rw [← List.append_nil calls]
          apply hrun
          rw [behind, if_pos ho, run]
          rfl
    | false =>
      obtain ⟨asked, rest, outcomes, reply, r'', calls', happ, hall, hanswered, hgist⟩ :=
        ih (some ((sum.getD .ok).merge outcome)) { s with modules := r' } left' (by omega)
      refine ⟨e :: asked, rest, outcome :: outcomes, reply, r'', calls ++ calls', ?_, ?_, ?_, ?_⟩
      · rw [happ, List.cons_append]
      · exact .cons hasks hall
      · exact hanswered.cons ho
      · apply hrun
        rw [behind, if_neg (by rw [ho]; exact Bool.false_ne_true)]
        exact hgist

end Running

end Dispatch

open Dispatch in
/-- What a request to the device modules comes to, with the modules that may be asked. -/
structure FansOut (env : Environment) (context : SessionContext) (request : Protocol.Request)
    (s : Shared μ) (eligible : List Entry) (r : Result (Shared μ) Dispatched) : Prop where
  eligible_iff : ∀ e, e ∈ eligible ↔
    e ∈ s.modules.entries ∧ e.descriptor.allowed = true ∧
      request.operationName ∈ e.descriptor.operations ∧
      ∃ uri ∈ e.descriptor.capabilities.uris, context.capabilities.contains uri = true
  ordered : eligible.Sublist s.modules.entries
  unsupported : eligible = [] → r.state = s ∧ r.calls = [] ∧
    r.value = .ofError (.notSupported
      s!"no module supports '{request.operationName}' for this session")
  passed : eligible ≠ [] → ∃ asked rest outcomes reply, eligible = asked ++ rest ∧
    AsksAll env context (request.operationName) request.payload s.modules asked outcomes
      r.state.modules r.calls ∧
    Answered .ok outcomes rest reply ∧ r.value = .ofReply reply ∧
    r.state = { s with modules := r.state.modules } ∧
    ∀ handle ∉ asked.map (·.handle),
      r.state.modules.instance? handle = s.modules.instance? handle

section Device

variable (env : Environment) (close : Closer μ) (socket : SocketId) (session : Session.Ref)
  (request : Protocol.Request)

lemma Dispatch.step_routing (h : Route.ofRequest request = .device) (s : Shared μ) :
    (Dispatch.step env close socket session request .routing).gist s = (.select, s, []) := by
  have hstart : Dispatch.start (s.sessions.record session) request (Route.ofRequest request) =
      .select := by rw [h]; rfl
  rw [← hstart]
  rfl

lemma Dispatch.step_select (s : Shared μ) :
    (Dispatch.step env close socket session request .select).gist s =
      (match s.modules.matching request.operationName
          (s.sessions.record session).context.capabilities with
        | [] => .done (.ofError (.notSupported
            s!"no module supports '{request.operationName}' for this session"))
        | found => .execute found none, s, []) := by
  have hstep : (Dispatch.step env close socket session request .select).gist s =
      ((match s.modules.matching request.operationName
          (s.sessions.record session).context.capabilities with
        | [] => pure (.done (.ofError (.notSupported
            s!"no module supports '{request.operationName}' for this session")))
        | found => pure (.execute found none) : Action (Shared μ) Dispatch.Stage)).gist s := rfl
  rw [hstep]
  cases s.modules.matching request.operationName
    (s.sessions.record session).context.capabilities with
  | nil => rfl
  | cons e rest => rfl

lemma dispatch_gist (h : Route.ofRequest request = .device) {s s' : Shared μ}
    {next : Dispatch.Stage} {d : Dispatched} {calls : List Device.Call} {left : Nat}
    (hleft : Dispatch.enough s = left + 2)
    (hselect : (Dispatch.step env close socket session request .select).gist s = (next, s, []))
    (hrun : (Dispatch.run env close socket session request left next).gist s = (d, s', calls)) :
    (dispatch env close socket session request).gist s = (d, s', calls) := by
  have hsecond : (Dispatch.run env close socket session request (left + 1) .select).gist s =
      (d, s', calls) := by
    have hnext : ∀ outcome, Dispatch.Stage.select ≠ .done outcome := fun _ hc => nomatch hc
    rw [Dispatch.run_succ env close socket session request .select left hnext rfl]
    exact Action.gist_bind hselect hrun
  have hfirst : (Dispatch.run env close socket session request (left + 2) .routing).gist s =
      (d, s', calls) := by
    have hnext : ∀ outcome, Dispatch.Stage.routing ≠ .done outcome := fun _ hc => nomatch hc
    rw [Dispatch.run_succ env close socket session request .routing (left + 1) hnext rfl]
    exact Action.gist_bind (Dispatch.step_routing env close socket session request h s) hsecond
  rw [← hleft] at hfirst
  exact hfirst

/-- A request to the device modules reaches those that may be asked, in the order of their
registration, up to and including the first that fails. -/
theorem dispatch_device (env : Environment) (close : Closer μ) (socket : SocketId)
    (session : Session.Ref) (request : Protocol.Request) (s : Shared μ)
    (h : Route.ofRequest request = .device) :
    FansOut env (s.sessions.record session).context request s
      (s.modules.matching request.operationName (s.sessions.record session).context.capabilities)
      (dispatch env close socket session request s) := by
  have hordered := Registry.matching_sublist s.modules request.operationName
    (s.sessions.record session).context.capabilities
  have hselect := Dispatch.step_select env close socket session request s
  have hlength := hordered.length_le
  refine ⟨fun e => Registry.mem_matching, hordered, ?_, ?_⟩
  · intro hempty
    rw [hempty] at hselect
    obtain ⟨left, hleft⟩ : ∃ left, Dispatch.enough s = left + 2 :=
      ⟨Dispatch.enough s - 2, by unfold Dispatch.enough; omega⟩
    have hrun : (Dispatch.run env close socket session request left (.done (.ofError (.notSupported
        s!"no module supports '{request.operationName}' for this session")))).gist s =
          (.ofError (.notSupported
            s!"no module supports '{request.operationName}' for this session"), s, []) := by
      rw [Dispatch.run]
      rfl
    have hgist := dispatch_gist env close socket session request h hleft hselect hrun
    rw [Action.gist_eq_iff] at hgist
    obtain ⟨hv, hs, hc⟩ := hgist
    exact ⟨hs, hc, hv⟩
  · intro hne
    obtain ⟨first, others, hfound⟩ := List.exists_cons_of_ne_nil hne
    rw [hfound] at hselect hlength ⊢
    obtain ⟨left, hleft, hfuel⟩ : ∃ left, Dispatch.enough s = left + 2 ∧
        2 * (first :: others).length < left := by
      refine ⟨Dispatch.enough s - 2, ?_, ?_⟩
      · unfold Dispatch.enough
        omega
      · unfold Dispatch.enough
        omega
    obtain ⟨asked, rest, outcomes, reply, r', calls, happ, hall, hanswered, hrun⟩ :=
      Dispatch.run_execute env close socket session request (first :: others) none s left hfuel
    have hgist := dispatch_gist env close socket session request h hleft hselect hrun
    rw [Action.gist_eq_iff] at hgist
    obtain ⟨hv, hs, hc⟩ := hgist
    refine ⟨asked, rest, outcomes, reply, happ, ?_, hanswered, hv, ?_, ?_⟩
    · rw [hs, hc]
      exact hall
    · rw [hs]
    · intro handle hn
      rw [hs]
      exact hall.instance?_eq hn

end Device

/-- Three modules for one operator: one with a state, one that cannot report it, and one behind. -/
def trio : Shared Device.ScriptedModule :=
  let entry (number : Nat) (name : String) : Entry :=
    ⟨⟨number⟩, name, ⟨["urn:d"]⟩, ["get"], none, true⟩
  let module (number : Nat) (state : Device.ScriptedState) :
      Device.Instance Device.ScriptedModule :=
    ⟨⟨number⟩, .ofScript ⟨none, [], [("get", .reply (.data .null))], state⟩, false⟩
  { Shared.ofModules
      ⟨[entry 0 "left", entry 1 "middle", entry 2 "right"], 3,
        [module 0 (.data (.bool true)), module 1 (.failure "off"), module 2 (.data .null)],
        .ofCapacity 4⟩ with
    sessions := ⟨[⟨⟨0⟩, ⟨"a", "operator", ⟨["urn:d"]⟩⟩, .active, none⟩], [("a", ⟨0⟩)],
      [(⟨0⟩, "a")]⟩ }

theorem dispatch_device_unread :
    let request : Protocol.Request := ⟨"a", none, " get", none, .null⟩
    let eligible := trio.modules.matching "get" ⟨["urn:d"]⟩
    let r := dispatch .calm Shared.closeConnection ⟨0⟩ ⟨0⟩ request trio
    Route.ofRequest request = .device ∧
      FansOut .calm ⟨"a", "operator", ⟨["urn:d"]⟩⟩ request trio eligible r ∧
      eligible.map (·.name) = ["left", "middle", "right"] ∧
      r.calls = [.executed ⟨0⟩ "left" "get", .stateRead ⟨0⟩ "left", .executed ⟨1⟩ "middle" "get",
        .stateRead ⟨1⟩ "middle"] ∧
      (r.value.reply == .error (.failed "module 'middle' failed to report state data: off")) = true :=
  ⟨by decide +kernel,
    dispatch_device .calm Shared.closeConnection ⟨0⟩ ⟨0⟩ ⟨"a", none, " get", none, .null⟩ trio
      (by decide +kernel),
    by decide +kernel, by decide +kernel, by decide +kernel⟩

end ManagementServer.Server
