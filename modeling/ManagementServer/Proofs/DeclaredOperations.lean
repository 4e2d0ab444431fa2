import ManagementServer.Proofs.Attendance
import ManagementServer.Proofs.Descriptors
import ManagementServer.Proofs.FanOut
import ManagementServer.Proofs.ModuleLifetimes

/-!
# Which declared operations are reached

A request reaches a module under the operation's name without blanks around it, and a module
declares its operations as they were written. So every declared operation without blanks around it
can be requested from its module, and no other can (`declared_operation_reached`).
-/

namespace ManagementServer

namespace Device.Registry

variable {μ : Type}

/-- A module was initialised and has not crashed since. -/
def IsAlive (r : Registry μ) (handle : Handle) : Prop :=
  ∃ i, r.instance? handle = some i ∧ i.hasCrashed = false

lemma IsAlive.reached {r : Registry μ} {e : Entry} (h : r.IsAlive e.handle) (request : Call) :
    r.reached e request = [request] := by
  obtain ⟨i, hi, hc⟩ := h
  rw [Registry.reached, hi, if_pos]
  simp [hc]

lemma IsAlive.of_same {r r' : Registry μ} {handle : Handle} (h : r.IsAlive handle)
    (hsame : r'.instance? handle = r.instance? handle) : r'.IsAlive handle := by
  rw [IsAlive, hsame]
  exact h

/-- One more operation acts on what the earlier ones have left. -/
lemma after_concat [DeviceModule μ] (bus : Event.Bus) (history : List (Operation μ))
    (o : Operation μ) :
    (Registry.after bus (history ++ [o])).state =
      (o.act (Registry.after bus history).state).state := by
  have hall (r : Registry μ) : (Operation.all (history ++ [o]) r).state =
      (o.act (Operation.all history r).state).state := by
    induction history generalizing r with
    | nil => rfl
    | cons first rest ih => exact ih _
  exact hall _

/-- A module that is added is registered with its descriptor, and has not crashed. -/
lemma isAlive_add [DeviceModule μ] {env : Environment} {d : Descriptor} {module : μ}
    {r : Registry μ} {history : List Call} (hsound : r.Sound history) {handle : Handle}
    (h : (add env d module r).value = .returned (.ok handle)) :
    ⟨handle, d⟩ ∈ (add env d module r).state.entries ∧
      (add env d module r).state.IsAlive handle := by
  obtain ⟨rfl, hentries⟩ := add_returned h
  refine ⟨hentries ▸ List.mem_append_right _ (List.mem_singleton_self _), ?_⟩
  cases hc : r.conflict? d with
  | some error =>
    rw [add_of_conflict env module hc] at h
    cases h
  | none =>
    rw [add_of_no_conflict env module hc] at h ⊢
    split_ifs at h ⊢
    · cases h
    · obtain ⟨response, hresponse⟩ : ∃ x, DeviceModule.init env
        ⟨⟨r.nextHandle⟩, d.name, d.repository⟩ module = x := ⟨_, rfl⟩
      obtain ⟨hv, ⟨bus, hs⟩, -⟩ := initialise_spec env d module r hresponse
      have hready : response.outcome.isCrash = false := by
        rw [hv] at h
        rcases hout : response.outcome with (message | running) | _
        · rfl
        · rfl
        · rw [hout] at h
          cases h
      have hnew : r.instances.find? (·.handle == ⟨r.nextHandle⟩) = none := by
        refine List.find?_eq_none.mpr fun i hi hsame => ?_
        have hissued := hsound.issued i.handle (List.mem_map_of_mem hi)
        rw [beq_iff_eq.mp hsame] at hissued
        exact Nat.lt_irrefl _ hissued
      refine ⟨⟨⟨r.nextHandle⟩, response.module, response.outcome.isCrash⟩, ?_, hready⟩
      rw [hs, instance?, issue, List.find?_append, hnew]
      simp

end Device.Registry

namespace Server

open ManagementServer.Action (Yields)
open Device (DeviceModule Entry Operation Registry)
open Rpc (Reply)

variable {μ : Type}

namespace Dispatch

/-! ## Requests that the server answers itself -/

/-- Whether a request at a stage has to do with the server alone. -/
def Stage.isInternal : Stage → Bool
  | .routing | .select | .execute .. | .readState .. => false
  | _ => true

lemma isInternal_start (s : Session.Record) (request : Protocol.Request) {route : Route}
    (h : route ≠ .device) : (start s request route).isInternal = true := by
  cases route with
  | device => exact absurd rfl h
  | closeSession | rejected => rfl
  | killSession =>
    unfold start
    dsimp only
    split
    · rfl
    · split <;> rfl
  | subscribe =>
    unfold start
    dsimp only
    split <;> rfl

variable [DeviceModule μ]

/-- A request that has to do with the server alone does so in all its steps. -/
lemma yields_internal (env : Environment) (close : Closer μ) (socket : SocketId)
    (session : Session.Ref) (request : Protocol.Request) {stage : Stage}
    (h : stage.isInternal = true) :
    Yields (fun next => next.isInternal = true)
      (step env close socket session request stage : Action (Shared μ) Stage) := by
  cases stage with
  | routing | select | execute | readState => cases h
  | markOwn | killMark => exact Yields.bind fun _ => Yields.bind fun _ => Yields.pure rfl
  | closeOwn | killClose =>
    exact Yields.bind fun _ => Yields.bind fun _ => Yields.bind fun _ => Yields.pure rfl
  | killLookup target =>
    refine Yields.bind fun _ => Yields.bind fun found => ?_
    cases found <;> exact Yields.pure rfl
  | killRemove target closed =>
    refine Yields.bind fun _ => Yields.bind fun detached => ?_
    split
    · exact Yields.pure rfl
    · exact Yields.bind fun _ => Yields.bind fun _ => Yields.pure rfl
  | killEnd target closed closing =>
    cases closing with
    | done => exact Yields.bind fun _ => Yields.bind fun _ => Yields.bind fun _ => Yields.pure rfl
    | mark _ | take _ | cancel _ | join _ =>
      refine Yields.bind fun _ => Yields.bind fun next => ?_
      dsimp only
      split
      · exact Yields.bind fun _ => Yields.bind fun _ => Yields.pure rfl
      · exact Yields.pure rfl
  | checkSubscription | awaitRejected =>
    refine Yields.bind fun _ => Yields.bind fun _ => ?_
    split <;> exact Yields.pure rfl
  | readWindow =>
    refine Yields.bind fun _ => ?_
    dsimp only
    split <;> exact Yields.pure rfl
  | subscribe window =>
    refine Yields.bind fun _ => Yields.bind fun made => ?_
    dsimp only
    split
    · exact Yields.bind fun _ => Yields.pure rfl
    · exact Yields.bind fun _ => Yields.bind fun _ => Yields.bind fun _ => Yields.pure rfl
  | attach delivery =>
    refine Yields.bind fun _ => Yields.bind fun _ => Yields.bind fun attached => ?_
    split
    · exact Yields.bind fun _ => Yields.pure rfl
    · exact Yields.pure rfl
  | reject delivery =>
    exact Yields.bind fun _ => Yields.bind fun _ => Yields.bind fun _ => Yields.pure rfl
  | done outcome => exact Yields.bind fun _ => Yields.pure rfl

lemma calls_step (env : Environment) (socket : SocketId) (session : Session.Ref)
    (request : Protocol.Request) {stage : Stage} (h : stage.isInternal = true) (s : Shared μ) :
    (step env Shared.closeConnection socket session request stage s).calls = [] := by
  by_cases hkill : ∃ target closed, stage = .killRemove target closed
  · obtain ⟨target, closed, rfl⟩ := hkill
    have hgist := step_killRemove env socket session target request closed s
    exact (Action.gist_eq_iff.mp hgist).2.2
  · refine Shared.calls_of_preserves (preserves_step Shared.withstands_silent (fun hasking => ?_)
      env socket session request fun target closed hs => hkill ⟨target, closed, hs⟩) s
    cases stage <;> simp_all [Stage.isAsking, Stage.isInternal]

lemma calls_run (env : Environment) (socket : SocketId) (session : Session.Ref)
    (request : Protocol.Request) (fuel : Nat) {stage : Stage} (h : stage.isInternal = true)
    (s : Shared μ) :
    (run env Shared.closeConnection socket session request fuel stage s).calls = [] := by
  induction fuel generalizing stage s with
  | zero => cases stage <;> rfl
  | succ fuel ih =>
    by_cases hdone : ∃ outcome, stage = .done outcome
    · obtain ⟨outcome, rfl⟩ := hdone
      rfl
    have hnext (s : Shared μ) : ((step env Shared.closeConnection socket session request stage >>=
        run env Shared.closeConnection socket session request fuel) s).calls = [] := by
      rw [Action.calls_bind, calls_step env socket session request h s,
        ih (yields_internal env Shared.closeConnection socket session request h s)]
      rfl
    rw [run]
    · cases stage.awaited? with
      | none => exact hnext s
      | some delivery =>
        have hdeliver := Shared.calls_of_preserves
          (Shared.preserves_deliver (Shared.withstands_silent (μ := μ)) env.now delivery) s
        dsimp only
        rw [Action.calls_bind, hdeliver]
        exact hnext _
    · exact fun outcome hs => hdone ⟨outcome, hs⟩

/-- A request that is not for the device modules calls none. -/
lemma calls_dispatch (env : Environment) (socket : SocketId) (session : Session.Ref)
    (request : Protocol.Request) (h : Route.ofRequest request ≠ .device) (s : Shared μ) :
    (dispatch env Shared.closeConnection socket session request s).calls = [] := by
  have hstart : (dispatch env Shared.closeConnection socket session request s).calls =
      (run env Shared.closeConnection socket session request (enough s) .routing s).calls := rfl
  have hrun : run env Shared.closeConnection socket session request (enough s) .routing =
      (step env Shared.closeConnection socket session request .routing >>=
        run (μ := μ) env Shared.closeConnection socket session request (enough s - 1)) := by
    have hfuel : enough s = enough s - 1 + 1 := by unfold enough; omega
    have hnext : ∀ outcome, Stage.routing ≠ .done outcome := fun _ hc => by cases hc
    conv_lhs => rw [hfuel]
    exact run_succ env Shared.closeConnection socket session request .routing _ hnext rfl
  rw [hstart, hrun, Action.calls_bind]
  exact calls_run env socket session request _ (isInternal_start _ request h) _

/-! ## Requests to the device modules -/

section Asking

variable {env : Environment} {context : SessionContext} {operation : String} {payload : Json}

/-- A module that is asked executes the operation, behind which its state may be read. -/
lemma Asks.calls_eq {e : Entry} {r r' : Registry μ} {outcome : Reply} {calls : List Device.Call}
    (h : Asks env context operation payload e r outcome r' calls) :
    ∃ behind, calls = r.reached e (.executed e.handle e.name operation) ++ behind ∧
      ∀ c ∈ behind, c = .stateRead e.handle e.name := by
  cases h with
  | failed hexecutes | plain hexecutes =>
    obtain ⟨outcome, -, hconsults⟩ := hexecutes
    exact ⟨[], by rw [hconsults.calls_eq, List.append_nil], fun _ hc => absurd hc List.not_mem_nil⟩
  | silent hexecutes _ _ hreports | stated hexecutes _ _ hreports | unread hexecutes _ _ hreports =>
    obtain ⟨outcome, -, hconsults⟩ := hexecutes
    obtain ⟨outcome', -, hconsults'⟩ := hreports
    refine ⟨_, by rw [hconsults.calls_eq], fun c hc => ?_⟩
    rw [hconsults'.calls_eq] at hc
    exact (Registry.mem_reached hc).1

lemma Asks.executed {e : Entry} {r r' : Registry μ} {outcome : Reply} {calls : List Device.Call}
    (h : Asks env context operation payload e r outcome r' calls) (halive : r.IsAlive e.handle) :
    .executed e.handle e.name operation ∈ calls := by
  obtain ⟨behind, rfl, -⟩ := h.calls_eq
  rw [halive.reached]
  exact List.mem_cons_self

/-- Every module that is asked executes the operation, unless it has crashed. -/
lemma AsksAll.executed {asked : List Entry} {r r' : Registry μ} {outcomes : List Reply}
    {calls : List Device.Call} (h : AsksAll env context operation payload r asked outcomes r' calls)
    (hhandles : (asked.map (·.handle)).Nodup) {e : Entry} (he : e ∈ asked)
    (halive : r.IsAlive e.handle) : .executed e.handle e.name operation ∈ calls := by
  induction h with
  | nil => cases he
  | @cons r r' r'' first asked outcome outcomes calls calls' hfirst _ ih =>
    obtain ⟨hfresh, hrest⟩ := List.nodup_cons.mp hhandles
    rcases List.mem_cons.mp he with rfl | he
    · exact List.mem_append_left _ (hfirst.executed halive)
    · have hne : e.handle ≠ first.handle := fun hsame =>
        hfresh (List.mem_map.mpr ⟨e, he, hsame⟩)
      exact List.mem_append_right _
        (ih hrest he (halive.of_same (hfirst.touches.others e.handle hne)))

/-- What a module that is asked executes is the operation that was requested. -/
lemma Asks.of_executed {e : Entry} {r r' : Registry μ} {outcome : Reply}
    {calls : List Device.Call} (h : Asks env context operation payload e r outcome r' calls)
    {handle : Device.Handle} {name executed : String}
    (hmem : .executed handle name executed ∈ calls) :
    handle = e.handle ∧ name = e.name ∧ executed = operation := by
  obtain ⟨behind, rfl, hbehind⟩ := h.calls_eq
  rcases List.mem_append.mp hmem with hm | hm
  · simpa using (Registry.mem_reached hm).1
  · cases hbehind _ hm

lemma AsksAll.of_executed {asked : List Entry} {r r' : Registry μ} {outcomes : List Reply}
    {calls : List Device.Call} (h : AsksAll env context operation payload r asked outcomes r' calls)
    {handle : Device.Handle} {name executed : String}
    (hmem : .executed handle name executed ∈ calls) :
    ∃ e ∈ asked, handle = e.handle ∧ name = e.name ∧ executed = operation := by
  induction h with
  | nil => cases hmem
  | cons hfirst _ ih =>
    rcases List.mem_append.mp hmem with hm | hm
    · exact ⟨_, List.mem_cons_self, hfirst.of_executed hm⟩
    · obtain ⟨e, he, hcall⟩ := ih hm
      exact ⟨e, List.mem_cons_of_mem _ he, hcall⟩

lemma AsksAll.length_eq {asked : List Entry} {r r' : Registry μ} {outcomes : List Reply}
    {calls : List Device.Call}
    (h : AsksAll env context operation payload r asked outcomes r' calls) :
    asked.length = outcomes.length := by
  induction h with
  | nil => rfl
  | cons _ _ ih => rw [List.length_cons, List.length_cons, ih]

end Asking

/-- A module is asked in its turn: it executes the operation, or a module that was registered before
it fails, which is the reply. -/
inductive AsksInTurn (env : Environment) (context : SessionContext) (request : Protocol.Request)
    (s : Shared μ) (e : Entry) (r : Result (Shared μ) Dispatched) : Prop where
  | executed (h : .executed e.handle e.name request.operationName ∈ r.calls)
  | preceded {before behind : List Entry} {failing : Entry} {earlier : List Reply}
    {error : Rpc.Error} (hbehind : e ∈ behind)
    (heligible : s.modules.matching request.operationName context.capabilities =
      before ++ failing :: behind)
    (hasked : AsksAll env context request.operationName request.payload s.modules
      (before ++ [failing]) (earlier ++ [.error error]) r.state.modules r.calls)
    (hreply : r.value = .ofReply (.error error))

section Turns

variable (env : Environment) (socket : SocketId) (session : Session.Ref)
  (request : Protocol.Request)

/-- A module that may be asked is asked in its turn. -/
lemma asksInTurn {s : Shared μ} (hroute : Route.ofRequest request = .device)
    (hhandles : (s.modules.entries.map (·.handle)).Nodup) {e : Entry}
    (he : e ∈ s.modules.matching request.operationName
      (s.sessions.record session).context.capabilities)
    (halive : s.modules.IsAlive e.handle) :
    AsksInTurn env (s.sessions.record session).context request s e
      (dispatch env Shared.closeConnection socket session request s) := by
  have hfan := dispatch_device env Shared.closeConnection socket session request s hroute
  obtain ⟨asked, rest, outcomes, reply, heligible, hall, hanswered, hvalue, -⟩ :=
    hfan.passed (List.ne_nil_of_mem he)
  have hdistinct : (asked.map (·.handle)).Nodup := by
    have hsub : asked.Sublist s.modules.entries :=
      (List.sublist_append_left asked rest).trans (heligible ▸ hfan.ordered)
    exact hhandles.sublist (hsub.map _)
  rcases List.mem_append.mp (heligible ▸ he) with hasked | hrest
  · exact .executed (hall.executed hdistinct hasked halive)
  · cases hanswered with
    | merged => cases hrest
    | failed hearlier =>
      rename_i earlier error
      obtain rfl | ⟨before, failing, rfl⟩ := asked.eq_nil_or_concat
      · have hlength := hall.length_eq
        simp at hlength
      -- The last of the modules that were asked is the one that failed.
      · rw [List.concat_eq_append] at heligible hall
        rw [List.append_assoc] at heligible
        exact .preceded hrest heligible hall hvalue

/-- Only a module that may be asked executes anything, and only the operation that was requested. -/
lemma of_executed {s : Shared μ} {handle : Device.Handle} {name operation : String}
    (h : .executed handle name operation ∈
      (dispatch env Shared.closeConnection socket session request s).calls) :
    operation = request.operationName ∧
      ∃ e ∈ s.modules.entries, e.handle = handle ∧ e.name = name ∧
        operation ∈ e.descriptor.operations := by
  by_cases hroute : Route.ofRequest request = .device
  · have hfan := dispatch_device env Shared.closeConnection socket session request s hroute
    by_cases hempty : s.modules.matching request.operationName
        (s.sessions.record session).context.capabilities = []
    · rw [(hfan.unsupported hempty).2.1] at h
      cases h
    · obtain ⟨asked, rest, outcomes, reply, heligible, hall, -⟩ := hfan.passed hempty
      obtain ⟨e, he, rfl, rfl, rfl⟩ := hall.of_executed h
      obtain ⟨hentry, -, hoperation, -⟩ :=
        (hfan.eligible_iff e).mp (heligible ▸ List.mem_append_left rest he)
      exact ⟨rfl, e, hentry, rfl, rfl, hoperation⟩
  · rw [calls_dispatch env socket session request hroute s] at h
    cases h

end Turns

end Dispatch

open Dispatch (AsksInTurn)

variable [DeviceModule μ]

/-- A module that is accepted is registered as it is declared. Each of its operations that has no
blanks around it can be requested from it by any session that holds its capabilities, also if the
server has an operation of that name; an operation that has blanks around it is executed by none. -/
theorem declared_operation_reached (bus : Event.Bus) (history : List (Operation μ)) :
    let r := (Registry.after bus history).state
    (∀ env d module handle, (Registry.add env d module r).value = .returned (.ok handle) →
      let r' := (Registry.after bus (history ++ [.add env d module])).state
      ⟨handle, d⟩ ∈ r'.entries ∧ r'.IsAlive handle) ∧
    ∀ env socket session (s : Shared μ), s.modules = r →
      let context := (s.sessions.record session).context
      (∀ e ∈ r.entries, e.descriptor.allowed = true → e.descriptor.capabilities.uris ≠ [] →
        r.IsAlive e.handle →
        (∀ uri ∈ e.descriptor.capabilities.uris, context.capabilities.contains uri = true) →
        ∀ operation ∈ e.descriptor.operations, Text.trim operation = operation →
          ∀ request : Protocol.Request,
            let request := { request with operation, kind := some .device }
            request.operationName = operation ∧
              AsksInTurn env context request s e
                (dispatch env Shared.closeConnection socket session request s)) ∧
      ∀ request handle name operation, .executed handle name operation ∈
          (dispatch env Shared.closeConnection socket session request s).calls →
        Text.trim operation = operation ∧
          ∃ e ∈ r.entries, e.handle = handle ∧ e.name = name ∧
            operation ∈ e.descriptor.operations := by
  intro r
  have hsound := Registry.sound_after bus history
  refine ⟨fun env d module handle hadd => ?_, ?_⟩
  · intro r'
    have hr' : r' = (Registry.add env d module r).state := Registry.after_concat bus history _
    rw [hr']
    exact Registry.isAlive_add hsound hadd
  · rintro env socket session s hs context
    refine ⟨?_, ?_⟩
    · intro e he hallowed hcapabilities halive hheld operation hoperation htrim request request'
      obtain ⟨uri, huri⟩ := List.exists_mem_of_ne_nil _ hcapabilities
      refine ⟨htrim, Dispatch.asksInTurn env socket session request' rfl (hs ▸ hsound.handles) ?_
        (hs ▸ halive)⟩
      have hname : request'.operationName ∈ e.descriptor.operations := by
        rw [show request'.operationName = operation from htrim]
        exact hoperation
      exact Registry.mem_matching.mpr ⟨hs ▸ he, hallowed, hname, uri, huri, hheld uri huri⟩
    · intro request handle name operation hmem
      obtain ⟨rfl, e, he, hcall⟩ := Dispatch.of_executed env socket session request hmem
      exact ⟨Text.trim_trim _, e, hs ▸ he, hcall⟩

/-- A module that declares one operation. -/
def declaring (operation : String) : Device.Descriptor :=
  .ofOperations "device" ⟨["urn:d"]⟩ [operation]

/-- A module that answers everything with ok. -/
def idle : Device.ScriptedModule := .ofScript ⟨none, [], [], .data .null⟩

/-- One operator at a server whose only module declares one operation. -/
def attended (operation : String) : Shared Device.ScriptedModule :=
  { Shared.ofModules
      (Registry.after (.ofCapacity 1) [.add .calm (declaring operation) idle]).state with
    sessions := ⟨[⟨⟨0⟩, ⟨"a", "operator", ⟨["urn:d"]⟩⟩, .active, none⟩], [("a", ⟨0⟩)],
      [(⟨0⟩, "a")]⟩ }

theorem declared_operation_reached_server_name :
    let s := attended "close-session"
    let e : Entry := ⟨⟨0⟩, declaring "close-session"⟩
    let request : Protocol.Request := ⟨"a", none, "close-session", some .device, .null⟩
    e ∈ s.modules.entries ∧ s.modules.IsAlive e.handle ∧
      AsksInTurn .calm ⟨"a", "operator", ⟨["urn:d"]⟩⟩ request s e
        (dispatch .calm Shared.closeConnection ⟨0⟩ ⟨0⟩ request s) := by
  have hadded := (declared_operation_reached (.ofCapacity 1) []).1 .calm
    (declaring "close-session") idle ⟨0⟩ rfl
  have hreached := ((declared_operation_reached (.ofCapacity 1)
    [.add .calm (declaring "close-session") idle]).2 .calm ⟨0⟩ ⟨0⟩ (attended "close-session") rfl).1
  exact ⟨hadded.1, hadded.2, (hreached _ hadded.1 rfl (by decide +kernel) hadded.2
    (by decide +kernel) "close-session" (by decide +kernel) (by decide +kernel)
    ⟨"a", none, "", none, .null⟩).2⟩

/-- An operation with blanks around it is admitted by the manifest and by the registry, but no
request has its module execute anything. -/
theorem padded_operation_unreached :
    let entry : Manifest.Entry := ⟨"device", none, ["urn:d"], [" reboot "], true, none⟩
    let r := (attended " reboot ").modules
    Manifest.fault? ⟨[entry]⟩ = none ∧ Catalog.descriptorFor entry = declaring " reboot " ∧
      r.entries = [⟨⟨0⟩, declaring " reboot "⟩] ∧ r.IsAlive ⟨0⟩ ∧
      (declaring " reboot ").allowed = true ∧ (declaring " reboot ").capabilities.uris ≠ [] ∧
      " reboot " ∈ (declaring " reboot ").operations ∧
      ∀ env socket session (s : Shared Device.ScriptedModule), s.modules = r →
        ∀ request handle name operation, .executed handle name operation ∉
          (dispatch env Shared.closeConnection socket session request s).calls := by
  have hentries : (attended " reboot ").modules.entries = [⟨⟨0⟩, declaring " reboot "⟩] := by
    decide +kernel
  refine ⟨by decide +kernel, by decide +kernel, hentries, ⟨_, rfl, by decide +kernel⟩, rfl,
    by decide +kernel, by decide +kernel, ?_⟩
  intro env socket session s hs request handle name operation hmem
  obtain ⟨rfl, e, he, -, -, hoperation⟩ := Dispatch.of_executed env socket session request hmem
  rw [hs, hentries, List.mem_singleton] at he
  have hdeclared : (declaring " reboot ").operations = [" reboot "] := by decide +kernel
  rw [he, hdeclared, List.mem_singleton] at hoperation
  have htrim : Text.trim " reboot " = " reboot " := by
    rw [← hoperation]
    exact Text.trim_trim request.operation
  exact absurd htrim (by decide +kernel)

end Server

end ManagementServer
