import ManagementServer.Proofs.SharedState
import ManagementServer.Server.Loop

/-!
# The steps of a connection's loop

What each step of `Loop.step` comes to, phase by phase, and the one lemma that the phases in which a
loop serves its peer have in common (`Loop.serves_step`). A step of a request changes nothing of
what `Shared.Follows` keeps, whatever the request asks for.
-/

namespace ManagementServer.Server

open ManagementServer.Action (Keeps Preserves Yields)

variable {μ : Type}

namespace Dispatch

/-- A property that outlasts requests that modules are asked, with the calls on them. -/
def WithstandsAsking (I : Shared μ → List Device.Call → Prop) : Prop :=
  ∀ s history modules calls, s.modules.Serves modules calls → I s history →
    I { s with modules } (history ++ calls)

section Withstanding

variable {I : Shared μ → List Device.Call → Prop}

lemma preserves_conclude (s : Session.Record) (request : Protocol.Request) (module : Device.Entry)
    (outcome : Rpc.Reply) (rest : List Device.Entry) (sum : Option Rpc.Reply) :
    Preserves I (conclude s request module outcome rest sum : Action (Shared μ) Stage) := by
  unfold conclude
  split
  · exact Preserves.bind (Preserves.log _ _ _ _) fun _ => Preserves.pure _
  · exact Preserves.pure _

variable [Device.DeviceModule μ]

lemma preserves_execute (hA : WithstandsAsking I) (env : Environment) (module : Device.Entry)
    (context : SessionContext) (operation : String) (payload : Json) :
    Preserves I (Shared.onModules
      (Device.Registry.execute env module context operation payload) : Action (Shared μ) _) :=
  fun s _ h => hA s _ _ _
    (Device.Registry.serves_execute env module context operation payload s.modules) h

lemma preserves_stateData (hA : WithstandsAsking I) (env : Environment) (module : Device.Entry) :
    Preserves I (Shared.onModules (Device.Registry.stateData env module) : Action (Shared μ) _) :=
  fun s _ h => hA s _ _ _ (Device.Registry.serves_stateData env module s.modules) h

lemma preserves_killEnd (env : Environment) (socket : SocketId) (session target : Session.Ref)
    (request : Protocol.Request) (closed : Closed) {closing : Closing}
    (hc : Preserves I (closing.step : Action (Shared μ) Closing)) :
    Preserves I (step env Shared.closeConnection socket session request
      (.killEnd target closed closing) : Action (Shared μ) Stage) := by
  refine Preserves.bind (Preserves.view _) fun s => ?_
  cases closing with
  | done =>
    refine Preserves.bind (Preserves.view _) fun _ => ?_
    exact Preserves.bind (Preserves.log _ _ _ _) fun _ => Preserves.pure _
  | mark _ | take _ | cancel _ | join _ =>
    refine Preserves.bind hc fun next => ?_
    dsimp only
    split
    · refine Preserves.bind (Preserves.view _) fun _ => ?_
      exact Preserves.bind (Preserves.log _ _ _ _) fun _ => Preserves.pure _
    · exact Preserves.pure _

/-- Whether the step from a stage leaves it as it is which sessions are registered or closed, and
which deliveries there are and who holds them. -/
def Stage.isMild : Stage → Bool
  | .subscribe _ | .attach _ | .killRemove .. => false
  | .killEnd _ _ (.mark _) | .killEnd _ _ (.take _) => false
  | _ => true

/-- Whether the step from a stage asks a module. -/
def Stage.isAsking : Stage → Bool
  | .execute .. | .readState .. => true
  | _ => false

/-- What no mild step of a request breaks. -/
lemma preserves_mild {stage : Stage} (hI : Shared.Tolerates I)
    (hA : stage.isAsking → WithstandsAsking I) (env : Environment) (socket : SocketId)
    (session : Session.Ref) (request : Protocol.Request) (hm : stage.isMild) :
    Preserves I (step env Shared.closeConnection socket session request stage :
      Action (Shared μ) Stage) := by
  cases stage with
  | subscribe | attach | killRemove => cases hm
  | killEnd target closed closing =>
    refine preserves_killEnd env socket session target request closed
      (Closing.preserves_mild hI ?_ ?_)
    · rintro other rfl
      cases hm
    · rintro other rfl
      cases hm
  | routing =>
    refine Preserves.bind (Preserves.view _) fun _ => ?_
    exact Preserves.bind (Preserves.log _ _ _ _) fun _ => Preserves.pure _
  | markOwn =>
    refine Preserves.bind (Preserves.view _) fun _ => ?_
    exact Preserves.bind (Shared.preserves_markTerminating hI session) fun _ => Preserves.pure _
  | closeOwn =>
    refine Preserves.bind (Preserves.view _) fun s => ?_
    refine Preserves.bind (Shared.preserves_closeConnection hI _ _) fun _ => ?_
    exact Preserves.bind (Preserves.log _ _ _ _) fun _ => Preserves.pure _
  | killLookup target =>
    refine Preserves.bind (Preserves.view _) fun _ => ?_
    refine Preserves.bind (Preserves.view _) fun found => ?_
    cases found with
    | ok _ => exact Preserves.pure _
    | error _ => exact Preserves.pure _
  | killMark target =>
    refine Preserves.bind (Preserves.view _) fun _ => ?_
    exact Preserves.bind (Shared.preserves_markTerminating hI target) fun _ => Preserves.pure _
  | killClose target =>
    refine Preserves.bind (Preserves.view _) fun _ => Preserves.bind (Preserves.view _) fun _ => ?_
    exact Preserves.bind (Shared.preserves_closeConnection hI _ _) fun _ => Preserves.pure _
  | checkSubscription =>
    refine Preserves.bind (Preserves.view _) fun _ => Preserves.bind Preserves.get fun _ => ?_
    split
    · exact Preserves.pure _
    · exact Preserves.pure _
  | readWindow =>
    refine Preserves.bind (Preserves.view _) fun _ => ?_
    dsimp only
    split
    · exact Preserves.pure _
    · exact Preserves.pure _
  | reject delivery =>
    refine Preserves.bind (Preserves.view _) fun _ => ?_
    refine Preserves.bind (Shared.preserves_halt hI _ fun _ => ⟨rfl, rfl, .inr rfl⟩) fun _ => ?_
    exact Preserves.bind (Shared.preserves_halt hI _ fun _ => ⟨rfl, rfl, .inl rfl⟩) fun _ =>
      Preserves.pure _
  | awaitRejected delivery =>
    refine Preserves.bind (Preserves.view _) fun _ => Preserves.bind Preserves.get fun _ => ?_
    split
    · exact Preserves.pure _
    · exact Preserves.pure _
  | select =>
    refine Preserves.bind (Preserves.view _) fun _ => ?_
    refine Preserves.bind (Preserves.view _) fun found => ?_
    cases found with
    | nil => exact Preserves.pure _
    | cons _ _ => exact Preserves.pure _
  | execute modules sum =>
    refine Preserves.bind (Preserves.view _) fun _ => ?_
    cases modules with
    | nil => exact Preserves.pure _
    | cons module rest =>
      refine Preserves.bind (preserves_execute (hA rfl) env module _ _ _) fun reply => ?_
      split
      · exact Preserves.pure _
      · exact preserves_conclude _ _ _ _ _ _
  | readState module reply rest sum =>
    refine Preserves.bind (Preserves.view _) fun _ => ?_
    refine Preserves.bind (preserves_stateData (hA rfl) env module) fun _ => ?_
    exact preserves_conclude _ _ _ _ _ _
  | done outcome => exact Preserves.bind (Preserves.view _) fun _ => Preserves.pure _

variable (hI : Shared.Withstands I)
include hI

lemma preserves_subscribe (env : Environment) (socket : SocketId) (session : Session.Ref)
    (request : Protocol.Request) (window : Event.Window) :
    Preserves I (step env Shared.closeConnection socket session request
      (.subscribe window) : Action (Shared μ) Stage) := by
  refine Preserves.bind (Preserves.view _) fun s => Preserves.bind (Preserves.view _) fun made => ?_
  dsimp only
  split
  · exact Preserves.bind (Shared.preserves_changeBus hI.tolerates _) fun _ => Preserves.pure _
  · refine Preserves.bind Preserves.get fun _ => ?_
    refine Preserves.bind (Shared.preserves_changeBus hI.tolerates _) fun _ => ?_
    exact Preserves.bind (Preserves.modify fun _ _ h => hI.deliveries _ h) fun _ => Preserves.pure _

/-- What no step of a request breaks, but perhaps the one that takes a session out of the
registry. -/
lemma preserves_step {stage : Stage} (hA : stage.isAsking → WithstandsAsking I)
    (env : Environment) (socket : SocketId) (session : Session.Ref) (request : Protocol.Request)
    (hkill : ∀ target closed, stage ≠ .killRemove target closed) :
    Preserves I (step env Shared.closeConnection socket session request stage :
      Action (Shared μ) Stage) := by
  by_cases hm : stage.isMild
  · exact preserves_mild hI.tolerates hA env socket session request hm
  cases stage with
  | killRemove target closed => exact absurd rfl (hkill target closed)
  | killEnd target closed closing =>
    exact preserves_killEnd env socket session target request closed (Closing.preserves_step hI _)
  | subscribe window => exact preserves_subscribe hI env socket session request window
  | attach delivery =>
    refine Preserves.bind (Preserves.view _) fun _ => Preserves.bind Preserves.get fun shared => ?_
    refine Preserves.bind (Shared.preserves_attach hI _ _ _) fun attached => ?_
    cases attached with
    | true => exact Preserves.bind (Preserves.log _ _ _ _) fun _ => Preserves.pure _
    | false => exact Preserves.pure _
  | _ => exact absurd rfl hm

end Withstanding

variable [Device.DeviceModule μ]

lemma step_killRemove (env : Environment) (socket : SocketId) (session target : Session.Ref)
    (request : Protocol.Request) (closed : Closed) (s : Shared μ) :
    (step env Shared.closeConnection socket session request (.killRemove target closed)).gist s =
      (.killEnd target closed (if (s.sessions.detachRef target).2 then .mark target else .done),
        { s with sessions := (s.sessions.detachRef target).1 }, []) := by
  cases hd : (s.sessions.detachRef target).2 with
  | true =>
    simp [step, Action.gist, Shared.changeSessions, hd, Result.calls]
  | false =>
    simp [step, Action.gist, Shared.changeSessions, hd, Result.calls, Occurrence.call?]

/-- No step of a request registers a session, opens or forgets a connection, or answers. -/
lemma keeps_step (env : Environment) (socket : SocketId) (session : Session.Ref)
    (request : Protocol.Request) (stage : Stage) :
    Keeps Shared.Follows (step env Shared.closeConnection socket session request stage :
      Action (Shared μ) Stage) := by
  by_cases hkill : ∃ target closed, stage = .killRemove target closed
  · obtain ⟨target, closed, rfl⟩ := hkill
    intro s
    have hgist := step_killRemove env socket session target request closed s
    rw [Action.gist_eq_iff] at hgist
    rw [hgist.2.1]
    exact Shared.follows_sessions s (s.sessions.narrows_detachRef target)
  · have hA : ∀ s₀ : Shared μ, WithstandsAsking fun s _ => Shared.Follows s₀ s := by
      intro s₀ s _ modules calls _ h
      exact IsTrans.trans _ _ _ h (Shared.follows_of_same rfl rfl rfl)
    refine Preserves.keeps fun s₀ =>
      preserves_step (Shared.withstands_follows s₀) (fun _ => hA s₀) env socket
      session request ?_
    intro target closed hs
    exact hkill ⟨target, closed, hs⟩

end Dispatch

/-! ## Phases -/

namespace Phase

/-- Whether the connection of a loop in the phase is open. -/
def isLinked : Phase → Bool
  | .registering | .dropping | .releasing | .ended => false
  | _ => true

/-- Whether a loop in the phase may carry a registered session. -/
def isServing : Phase → Bool
  | .registering | .preparing | .abandoning | .dropping | .closing .. | .reportClosed .. => false
  | .unregistering | .releasing | .ended => false
  | _ => true

/-- Whether the phase is one of those that take a connection down. -/
def isTeardown : Phase → Bool
  | .terminating _ | .shutting _ | .removing _ | .closing .. | .reportClosed .. => true
  | .unregistering | .releasing => true
  | _ => false

/-- Whether a loop leaves the phase as it entered it, but for its reader and its phase, and serves
its peer on. -/
def isPlain : Phase → Bool
  | .greeting _ | .opened _ | .removing _ => false
  | phase => phase.isServing

/-- Whether a loop in the phase is about to write an answer. -/
def isWriting : Phase → Bool
  | .answering _ | .replying _ _ | .lastWord _ => true
  | _ => false

/-- Whether the step from the phase registers nothing, opens and forgets no connection, and writes
no answer. -/
def isSilent : Phase → Bool
  | .registering | .abandoning | .unregistering | .greeting _ => false
  | phase => !phase.isWriting

lemma isLinked_of_isServing {phase : Phase} (h : phase.isServing) : phase.isLinked := by
  cases phase <;> simp_all [isServing, isLinked]

lemma isServing_of_isPlain {phase : Phase} (h : phase.isPlain) : phase.isServing := by
  cases phase <;> simp_all [isServing, isPlain]

end Phase

namespace Loop

/-- The session that a loop holds: the one it has registered last. -/
def held (l : Loop) : Option Session.Ref :=
  match l.phase with
  | .opened session => some session
  | _ => l.own

lemma held_of_ne {l : Loop} (h : ∀ session, l.phase ≠ .opened session) : l.held = l.own := by
  unfold held
  split
  · rename_i session he
    exact absurd he (h session)
  · rfl

lemma held_of_isPlain {l : Loop} (h : l.phase.isPlain) : l.held = l.own := by
  refine held_of_ne fun session he => ?_
  rw [he] at h
  cases h

/-- The second loop serves the same peer as the first and holds the same session. -/
structure Serves (l l' : Loop) : Prop where
  socket : l'.socket = l.socket
  connection : l'.connection = l.connection
  own : l'.own = l.own
  serving : l'.phase.isServing
  settled : ∀ session, l'.phase ≠ .opened session

lemma Serves.held {l l' : Loop} (h : Serves l l') : l'.held = l'.own := held_of_ne h.settled

lemma serves_goTo (l : Loop) {phase : Phase} (h : phase.isServing)
    (hn : ∀ session, phase ≠ .opened session) : Serves l (l.goTo phase) :=
  ⟨rfl, rfl, rfl, h, hn⟩

lemma serves_reader {l l' : Loop} (reader : Connection.LineReader) (h : Serves l l') :
    Serves l { l' with reader } :=
  ⟨h.socket, h.connection, h.own, h.serving, h.settled⟩

lemma serves_afterFault (l : Loop) (fault : Protocol.Fault) :
    Serves l (l.goTo (afterFault fault)) := by
  unfold afterFault
  split
  · exact serves_goTo l rfl fun _ => Phase.noConfusion
  · split
    · exact serves_goTo l rfl fun _ => Phase.noConfusion
    · exact serves_goTo l rfl fun _ => Phase.noConfusion

lemma serves_afterLine (l : Loop) (line : List UInt8) : Serves l (l.goTo (afterLine line)) := by
  unfold afterLine
  split
  · exact serves_afterFault l _
  · split
    · exact serves_afterFault l _
    · split
      · exact serves_goTo l rfl fun _ => Phase.noConfusion
      · exact serves_goTo l rfl fun _ => Phase.noConfusion
      · exact serves_goTo l rfl fun _ => Phase.noConfusion

lemma serves_find (l : Loop) (request : Protocol.Request) (s : Shared μ) :
    Serves l (l.goTo (l.find request s)) := by
  unfold find
  split
  · exact serves_afterFault l _
  · dsimp only
    split
    · exact serves_goTo l rfl fun _ => Phase.noConfusion
    · split
      · exact serves_goTo l rfl fun _ => Phase.noConfusion
      · split
        · exact serves_goTo l rfl fun _ => Phase.noConfusion
        · exact serves_goTo l rfl fun _ => Phase.noConfusion

/-! ## Phase by phase -/

variable [Device.DeviceModule μ] {env : Environment} {size : Nat} {l : Loop} {s : Shared μ}

lemma step_registering (h : l.phase = .registering) (hf : env.socketFault = none) :
    l.step env size s =
      ⟨{ l with connection := ⟨s.table.nextId⟩, phase := .preparing },
        { s with table := (s.table.register l.socket).1 }, []⟩ := by
  simp [step, h, hf, Connection.Table.register]

lemma step_registering_fault {detail : String} (h : l.phase = .registering)
    (hf : env.socketFault = some detail) : l.step env size s = ⟨l.goTo .dropping, s, []⟩ := by
  simp [step, h, hf]

lemma step_preparing (h : l.phase = .preparing) : l.step env size s =
    ⟨l.goTo (if env.socketFault.isSome then .abandoning else .checkShutdown), s, []⟩ := by
  cases hf : env.socketFault <;> simp [step, h, hf]

lemma step_abandoning (h : l.phase = .abandoning) : l.step env size s =
    ⟨l.goTo .dropping, { s with table := s.table.unregister l.connection }, []⟩ := by
  simp [step, h]

lemma step_dropping (h : l.phase = .dropping) :
    l.step env size s = ⟨l.goTo .ended, (Shared.shut l.socket s).state, []⟩ := by
  simp [step, h, Shared.shut, Shared.changeSocket]

lemma step_checkShutdown (h : l.phase = .checkShutdown) : l.step env size s =
    ⟨l.goTo (if s.isShuttingDown then .terminating .shutdown else .checkClosing), s, []⟩ := by
  cases hs : s.isShuttingDown <;> simp [step, h, hs]

lemma step_checkClosing (h : l.phase = .checkClosing) : l.step env size s =
    ⟨l.goTo (if s.table.isClosing l.connection then .terminating .closed else .reading), s,
      []⟩ := by
  cases hs : s.table.isClosing l.connection <;> simp [step, h, hs]

lemma step_received {line : List UInt8} (h : l.phase = .received line) :
    l.step env size s = ⟨l.goTo (afterLine line), s, []⟩ := by
  simp [step, h]

lemma step_opened {session : Session.Ref} (h : l.phase = .opened session) :
    l.step env size s =
      ⟨{ l with
          own := some session
          phase := .answering (.registered (s.sessions.record session).id) }, s,
        [.reported (.sessionOpened (s.sessions.record session).id
          (s.sessions.record session).context.username)]⟩ := by
  simp [step, h]

lemma step_describing (h : l.phase = .describing) : l.step env size s =
    ⟨l.goTo (.answering (.capabilities (CapabilitySet.serverBase.extend s.modules.capabilities))),
      s, []⟩ := by
  simp [step, h]

lemma step_finding {request : Protocol.Request} (h : l.phase = .finding request) :
    l.step env size s = ⟨l.goTo (l.find request s), s, []⟩ := by
  simp [step, h]

lemma step_checkActive {request : Protocol.Request} {session : Session.Ref}
    (h : l.phase = .checkActive request session) : l.step env size s =
      ⟨l.goTo (if (s.sessions.record session).status = .active then
        .dispatching request session .routing else refuse request (terminatingError request)),
        s, []⟩ := by
  by_cases hs : (s.sessions.record session).status = .active
  · simp [step, h, hs]
  · simp [step, h, hs]

lemma step_dispatching_done {request : Protocol.Request} {session : Session.Ref}
    {outcome : Dispatched} (h : l.phase = .dispatching request session (.done outcome)) :
    l.step env size s = ⟨l.goTo (.replying request outcome), s, []⟩ := by
  simp [step, h]

/-- While a request is not done, its next step is the loop's. -/
lemma step_dispatching (env : Environment) (size : Nat) (s : Shared μ)
    {request : Protocol.Request} {session : Session.Ref} {stage : Dispatch.Stage}
    (h : l.phase = .dispatching request session stage) (hn : ∀ outcome, stage ≠ .done outcome) :
    ∃ journal, l.step env size s =
      ⟨l.goTo (.dispatching request session
          (Dispatch.step env Shared.closeConnection l.socket session request stage s).value),
        (Dispatch.step env Shared.closeConnection l.socket session request stage s).state,
        journal⟩ := by
  cases stage with
  | done outcome => exact absurd rfl (hn outcome)
  | _ =>
    simp only [step, h]
    exact ⟨_, rfl⟩

lemma step_answering {message : Protocol.ServerMessage} (h : l.phase = .answering message)
    (hw : (s.socket l.socket).writeFault? = none) :
    l.step env size s = ⟨l.goTo .checkShutdown, s.append l.socket message, []⟩ := by
  simp [step, h, Shared.write_of_none message hw]

lemma step_answering_fault {message : Protocol.ServerMessage} {detail : String}
    (h : l.phase = .answering message) (hw : (s.socket l.socket).writeFault? = some detail) :
    l.step env size s = ⟨l.goTo (afterFault (.io detail)), s, []⟩ := by
  simp [step, h, Shared.write_of_some message hw]

/-- The phase behind a reply that was sent. -/
def afterReply (outcome : Dispatched) : Phase :=
  match outcome.gate with
  | some delivery => .openGate delivery outcome.closes
  | none => if outcome.closes then .terminating .closed else .checkShutdown

lemma step_replying {request : Protocol.Request} {outcome : Dispatched}
    (h : l.phase = .replying request outcome) (hw : (s.socket l.socket).writeFault? = none) :
    l.step env size s = ⟨l.goTo (afterReply outcome),
      s.append l.socket (replyMessage request outcome.reply), []⟩ := by
  cases hg : outcome.gate <;>
    simp [step, h, hg, afterReply, Shared.write_of_none _ hw]

lemma step_replying_fault {request : Protocol.Request} {outcome : Dispatched} {detail : String}
    (h : l.phase = .replying request outcome)
    (hw : (s.socket l.socket).writeFault? = some detail) :
    l.step env size s = ⟨l.goTo (afterFault (.io detail)),
      (match outcome.gate with
        | some delivery => (Shared.setGate delivery .dropped s).state
        | none => s), []⟩ := by
  cases hg : outcome.gate <;>
    simp [step, h, hg, Shared.write_of_some _ hw, Shared.setGate, Shared.changeDelivery]

lemma step_openGate {delivery : Session.DeliveryRef} {closes : Bool}
    (h : l.phase = .openGate delivery closes) : l.step env size s =
      ⟨l.goTo (if closes then .terminating .closed else .checkShutdown),
        (Shared.setGate delivery .opened s).state, []⟩ := by
  simp [step, h, Shared.setGate, Shared.changeDelivery]

lemma step_lastWord {message : Protocol.ServerMessage} (h : l.phase = .lastWord message) :
    l.step env size s =
      ⟨l.goTo (.terminating .failed), (Shared.write l.socket message s).state, []⟩ := by
  cases hw : (s.socket l.socket).writeFault? with
  | none => simp [step, h, Shared.write_of_none _ hw]
  | some detail => simp [step, h, Shared.write_of_some _ hw]

/-- What reading can lead to. -/
def AfterReading (phase : Phase) : Prop :=
  phase = .reading ∨ (∃ line, phase = .received line) ∨ phase = .checkShutdown ∨
    (∃ reason, phase = .terminating reason) ∨
    ∃ bytes limit, phase = .lastWord (.ofFault (.tooLarge bytes limit))

lemma afterReading_ready {fault : Protocol.Fault} (r : Connection.LineReader)
    (h : r.ready? = some (.error fault)) : AfterReading (afterFault fault) := by
  unfold Connection.LineReader.ready? at h
  split at h
  · split at h
    · obtain rfl := Except.error.inj (Option.some.inj h)
      exact .inr (.inr (.inr (.inr ⟨_, _, rfl⟩)))
    · cases h
  · split at h
    · obtain rfl := Except.error.inj (Option.some.inj h)
      exact .inr (.inr (.inr (.inr ⟨_, _, rfl⟩)))
    · cases h

lemma afterReading_take {fault : Protocol.Fault} {r r' : Connection.LineReader}
    {reading : Connection.Reading} (h : r.take reading = (some (.error fault), r')) :
    AfterReading (afterFault fault) := by
  unfold Connection.LineReader.take at h
  split at h
  · cases h
  · split at h <;> cases h
  · cases h
  · cases h
  · obtain ⟨he, -⟩ := Prod.mk.inj h
    obtain rfl := Except.error.inj (Option.some.inj he)
    exact .inr (.inr (.inr (.inl ⟨_, rfl⟩)))

lemma yields_reading (env : Environment) (size : Nat) (h : l.phase = .reading) :
    Yields (fun l' => ∃ reader phase, l' = { l with reader, phase } ∧ AfterReading phase)
      (l.step env size : Action (Shared μ) Loop) := by
  simp only [step, h]
  split
  · exact Yields.pure ⟨_, _, rfl, .inr (.inl ⟨_, rfl⟩)⟩
  · rename_i hr
    exact Yields.pure ⟨l.reader, _, rfl, afterReading_ready _ hr⟩
  · refine Yields.bind fun reading => ?_
    split
    · exact Yields.pure ⟨_, _, rfl, .inl rfl⟩
    · exact Yields.pure ⟨_, _, rfl, .inr (.inl ⟨_, rfl⟩)⟩
    · exact Yields.pure ⟨_, _, rfl, .inr (.inr (.inl rfl))⟩
    · exact Yields.pure ⟨_, _, rfl, .inr (.inr (.inr (.inl ⟨_, rfl⟩)))⟩
    · rename_i ht
      exact Yields.pure ⟨_, _, rfl, afterReading_take ht⟩

lemma keeps_reading (h : l.phase = .reading) :
    Keeps Shared.Follows (l.step env size : Action (Shared μ) Loop) := by
  simp only [step, h]
  split
  · exact Keeps.pure _
  · exact Keeps.pure _
  · refine Keeps.bind (Shared.keeps_read l.socket size) fun reading => ?_
    split
    · exact Keeps.pure _
    · exact Keeps.pure _
    · exact Keeps.pure _
    · exact Keeps.pure _
    · exact Keeps.pure _

lemma step_terminating {reason : ExitReason} (h : l.phase = .terminating reason) :
    l.step env size s = ⟨l.goTo (.shutting reason),
      (match l.own with
        | some own => { s with sessions := s.sessions.markTerminating own }
        | none => s), []⟩ := by
  cases ho : l.own <;> simp [step, h, ho, Shared.changeSessions]

lemma step_shutting {reason : ExitReason} (h : l.phase = .shutting reason) :
    l.step env size s = ⟨l.goTo (.removing reason), (Shared.shut l.socket s).state, []⟩ := by
  simp [step, h, Shared.shut, Shared.changeSocket]

lemma serves_afterReading {phase : Phase} (reader : Connection.LineReader)
    (h : AfterReading phase) : Serves l { l with reader, phase } := by
  have hs : Serves l (l.goTo phase) := by
    rcases h with rfl | ⟨_, rfl⟩ | rfl | ⟨_, rfl⟩ | ⟨_, _, rfl⟩
    all_goals exact serves_goTo l rfl fun _ => Phase.noConfusion
  exact serves_reader reader hs

/-- A hello is refused, and then changes nothing, or it registers a session. -/
lemma step_greeting (env : Environment) (size : Nat) (s : Shared μ) {hello : Protocol.Hello}
    (h : l.phase = .greeting hello) :
    (∃ error : SessionError,
      l.step env size s = ⟨l.goTo (.answering (.ofError error.toError)), s, []⟩) ∨
    ∃ session sessions journal,
      l.step env size s = ⟨l.goTo (.opened session), { s with sessions }, journal⟩ ∧
      s.sessions.Registers sessions session
        ⟨l.connection, ⟨Text.trim hello.sessionId, hello.username, hello.capabilities⟩, .active,
          none⟩ := by
  rcases Session.Registry.add_cases (Text.trim hello.sessionId) hello.username hello.capabilities
    l.connection s.sessions with ⟨error, -, he⟩ | ⟨session, hv, hr⟩
  · refine .inl ⟨error, ?_⟩
    simp [step, h, Shared.onSessions, he]
  · refine .inr ⟨session, _, (Session.Registry.add (Text.trim hello.sessionId) hello.username
      hello.capabilities l.connection s.sessions).journal, ?_, hr⟩
    simp [step, h, Shared.onSessions, hv]

lemma step_removing_none {reason : ExitReason} (h : l.phase = .removing reason)
    (ho : l.own = none) : l.step env size s = ⟨l.goTo .unregistering, s, []⟩ := by
  simp [step, h, ho]

lemma step_removing {reason : ExitReason} {own : Session.Ref} (h : l.phase = .removing reason)
    (ho : l.own = some own) : l.step env size s =
      ⟨l.goTo (if (s.sessions.detachRef own).2 then .closing reason own (.mark own)
          else .unregistering), { s with sessions := (s.sessions.detachRef own).1 }, []⟩ := by
  cases hd : (s.sessions.detachRef own).2 <;> simp [step, h, ho, Shared.changeSessions, hd]

lemma step_closing_done (env : Environment) (size : Nat) (s : Shared μ) {reason : ExitReason}
    {session : Session.Ref}
    (h : l.phase = .closing reason session .done) :
    ∃ journal, l.step env size s = ⟨l.goTo (.reportClosed reason session), s, journal⟩ := by
  simp only [step, h]
  exact ⟨_, rfl⟩

lemma step_closing (env : Environment) (size : Nat) (s : Shared μ) {reason : ExitReason}
    {session : Session.Ref} {rest : Closing}
    (h : l.phase = .closing reason session rest) (hn : rest ≠ .done) :
    ∃ journal, l.step env size s =
      ⟨l.goTo (.closing reason session (rest.step s).value), (rest.step s).state, journal⟩ := by
  cases rest with
  | done => exact absurd rfl hn
  | _ =>
    simp only [step, h]
    exact ⟨_, rfl⟩

lemma step_reportClosed (env : Environment) (size : Nat) (s : Shared μ) {reason : ExitReason}
    {session : Session.Ref}
    (h : l.phase = .reportClosed reason session) :
    ∃ journal, l.step env size s = ⟨l.goTo .unregistering, s, journal⟩ := by
  simp only [step, h]
  exact ⟨_, rfl⟩

lemma step_unregistering (h : l.phase = .unregistering) : l.step env size s =
    ⟨l.goTo .releasing, { s with table := s.table.unregister l.connection }, []⟩ := by
  simp [step, h]

lemma step_releasing_some {own : Session.Ref} {delivery : Session.DeliveryRef}
    (h : l.phase = .releasing) (ho : l.own = some own)
    (hd : (s.sessions.record own).subscription = some delivery) :
    l.step env size s = ⟨l.goTo .ended, (Shared.cancel delivery s).state, []⟩ := by
  simp [step, h, ho, hd, Shared.cancel, Shared.changeDelivery]

lemma step_releasing_none (h : l.phase = .releasing)
    (hn : ∀ own, l.own = some own → (s.sessions.record own).subscription = none) :
    l.step env size s = ⟨l.goTo .ended, s, []⟩ := by
  cases ho : l.own with
  | none => simp [step, h, ho]
  | some own => simp [step, h, ho, hn own ho]

lemma step_releasing (env : Environment) (size : Nat) (s : Shared μ) (h : l.phase = .releasing) :
    ∃ deliveries, l.step env size s = ⟨l.goTo .ended, { s with deliveries }, []⟩ := by
  by_cases hd : ∃ own delivery, l.own = some own ∧
      (s.sessions.record own).subscription = some delivery
  · obtain ⟨own, delivery, ho, hd⟩ := hd
    exact ⟨_, step_releasing_some h ho hd⟩
  · refine ⟨s.deliveries, step_releasing_none h fun own ho => ?_⟩
    cases hr : (s.sessions.record own).subscription with
    | none => rfl
    | some delivery => exact absurd ⟨own, delivery, ho, hr⟩ hd

lemma step_ended (h : l.phase = .ended) : l.step env size s = ⟨l, s, []⟩ := by
  simp [step, h]

/-! ## Phases in common -/

/-- The steps between those that open, forget, register or answer. -/
lemma follows_step (env : Environment) (size : Nat) (s : Shared μ) (h : l.phase.isSilent) :
    Shared.Follows s (l.step env size s).state := by
  have hr : Shared.Follows s s := Std.Refl.refl s
  cases hp : l.phase with
  | preparing =>
    rw [step_preparing hp]
    exact hr
  | dropping =>
    rw [step_dropping hp]
    exact Shared.keeps_shut l.socket s
  | checkShutdown =>
    rw [step_checkShutdown hp]
    exact hr
  | checkClosing =>
    rw [step_checkClosing hp]
    exact hr
  | reading => exact keeps_reading hp s
  | received line =>
    rw [step_received hp]
    exact hr
  | opened session =>
    rw [step_opened hp]
    exact hr
  | describing =>
    rw [step_describing hp]
    exact hr
  | finding request =>
    rw [step_finding hp]
    exact hr
  | checkActive request session =>
    rw [step_checkActive hp]
    exact hr
  | dispatching request session stage =>
    by_cases hd : ∃ outcome, stage = .done outcome
    · obtain ⟨outcome, rfl⟩ := hd
      rw [step_dispatching_done hp]
      exact hr
    · obtain ⟨journal, he⟩ :=
        step_dispatching env size s hp fun outcome hc => hd ⟨outcome, hc⟩
      rw [he]
      exact Dispatch.keeps_step env l.socket session request stage s
  | openGate delivery closes =>
    rw [step_openGate hp]
    exact Shared.keeps_setGate delivery .opened s
  | terminating reason =>
    rw [step_terminating hp]
    dsimp only
    split
    · exact Shared.follows_sessions s (s.sessions.narrows_markTerminating _)
    · exact hr
  | shutting reason =>
    rw [step_shutting hp]
    exact Shared.keeps_shut l.socket s
  | removing reason =>
    cases ho : l.own with
    | none =>
      rw [step_removing_none hp ho]
      exact hr
    | some own =>
      rw [step_removing hp ho]
      exact Shared.follows_sessions s (s.sessions.narrows_detachRef own)
  | closing reason session rest =>
    by_cases hd : rest = .done
    · subst hd
      obtain ⟨journal, he⟩ := step_closing_done env size s hp
      rw [he]
      exact hr
    · obtain ⟨journal, he⟩ := step_closing env size s hp hd
      rw [he]
      exact Closing.keeps_step rest s
  | reportClosed reason session =>
    obtain ⟨journal, he⟩ := step_reportClosed env size s hp
    rw [he]
    exact hr
  | releasing =>
    obtain ⟨deliveries, he⟩ := step_releasing env size s hp
    rw [he]
    exact Shared.follows_of_same rfl rfl rfl
  | ended =>
    rw [step_ended hp]
    exact hr
  | _ => simp [hp, Phase.isSilent, Phase.isWriting] at h

/-- The steps that answer. -/
lemma persists_step (env : Environment) (size : Nat) (s : Shared μ) (h : l.phase.isWriting) :
    Shared.Persists s (l.step env size s).state := by
  cases hp : l.phase with
  | answering message =>
    cases hw : (s.socket l.socket).writeFault? with
    | none =>
      rw [step_answering hp hw]
      exact Shared.persists_append s _ _
    | some detail =>
      rw [step_answering_fault hp hw]
      exact Std.Refl.refl s
  | replying request outcome =>
    cases hw : (s.socket l.socket).writeFault? with
    | none =>
      rw [step_replying hp hw]
      exact Shared.persists_append s _ _
    | some detail =>
      rw [step_replying_fault hp hw]
      dsimp only
      split
      · exact (Shared.keeps_setGate _ _ s).toPersists
      · exact Std.Refl.refl s
  | lastWord message =>
    rw [step_lastWord hp]
    exact Shared.keeps_write _ _ s
  | _ => simp [hp, Phase.isWriting] at h

/-- While a loop serves its peer, it holds on to its session and its connection. -/
lemma serves_step (env : Environment) (size : Nat) (s : Shared μ) (h : l.phase.isPlain) :
    Serves l (l.step env size s).value := by
  cases hp : l.phase with
  | checkShutdown =>
    rw [step_checkShutdown hp]
    dsimp only
    split
    · exact serves_goTo l rfl fun _ => Phase.noConfusion
    · exact serves_goTo l rfl fun _ => Phase.noConfusion
  | checkClosing =>
    rw [step_checkClosing hp]
    dsimp only
    split
    · exact serves_goTo l rfl fun _ => Phase.noConfusion
    · exact serves_goTo l rfl fun _ => Phase.noConfusion
  | reading =>
    obtain ⟨reader, phase, hv, hn⟩ := yields_reading env size hp s
    rw [hv]
    exact serves_afterReading reader hn
  | received line =>
    rw [step_received hp]
    exact serves_afterLine l line
  | describing =>
    rw [step_describing hp]
    exact serves_goTo l rfl fun _ => Phase.noConfusion
  | finding request =>
    rw [step_finding hp]
    exact serves_find l request s
  | checkActive request session =>
    rw [step_checkActive hp]
    dsimp only
    split
    · exact serves_goTo l rfl fun _ => Phase.noConfusion
    · exact serves_goTo l rfl fun _ => Phase.noConfusion
  | dispatching request session stage =>
    by_cases hd : ∃ outcome, stage = .done outcome
    · obtain ⟨outcome, rfl⟩ := hd
      rw [step_dispatching_done hp]
      exact serves_goTo l rfl fun _ => Phase.noConfusion
    · obtain ⟨journal, he⟩ :=
        step_dispatching env size s hp fun outcome hc => hd ⟨outcome, hc⟩
      rw [he]
      exact serves_goTo l rfl fun _ => Phase.noConfusion
  | answering message =>
    cases hw : (s.socket l.socket).writeFault? with
    | none =>
      rw [step_answering hp hw]
      exact serves_goTo l rfl fun _ => Phase.noConfusion
    | some detail =>
      rw [step_answering_fault hp hw]
      exact serves_afterFault l _
  | replying request outcome =>
    cases hw : (s.socket l.socket).writeFault? with
    | none =>
      rw [step_replying hp hw]
      unfold afterReply
      dsimp only
      split
      · exact serves_goTo l rfl fun _ => Phase.noConfusion
      · split
        · exact serves_goTo l rfl fun _ => Phase.noConfusion
        · exact serves_goTo l rfl fun _ => Phase.noConfusion
    | some detail =>
      rw [step_replying_fault hp hw]
      exact serves_afterFault l _
  | openGate delivery closes =>
    rw [step_openGate hp]
    dsimp only
    split
    · exact serves_goTo l rfl fun _ => Phase.noConfusion
    · exact serves_goTo l rfl fun _ => Phase.noConfusion
  | lastWord message =>
    rw [step_lastWord hp]
    exact serves_goTo l rfl fun _ => Phase.noConfusion
  | terminating reason =>
    rw [step_terminating hp]
    exact serves_goTo l rfl fun _ => Phase.noConfusion
  | shutting reason =>
    rw [step_shutting hp]
    exact serves_goTo l rfl fun _ => Phase.noConfusion
  | _ => simp [hp, Phase.isPlain, Phase.isServing] at h

lemma persists_of_isPlain (env : Environment) (size : Nat) (s : Shared μ) (h : l.phase.isPlain) :
    Shared.Persists s (l.step env size s).state := by
  by_cases hw : l.phase.isWriting
  · exact persists_step env size s hw
  · have hs : l.phase.isSilent := by
      cases hp : l.phase <;>
        simp_all [Phase.isPlain, Phase.isServing, Phase.isSilent, Phase.isWriting]
    exact (follows_step env size s hs).toPersists

/-- A loop keeps its socket, and its connection once it has one. -/
lemma peer_step (env : Environment) (size : Nat) (s : Shared μ) :
    (l.step env size s).value.socket = l.socket ∧
      (l.phase ≠ .registering → (l.step env size s).value.connection = l.connection) := by
  by_cases hplain : l.phase.isPlain
  · have hserves := serves_step env size s hplain
    exact ⟨hserves.socket, fun _ => hserves.connection⟩
  cases hp : l.phase with
  | registering =>
    cases hf : env.socketFault with
    | none =>
      rw [step_registering hp hf]
      exact ⟨rfl, fun hn => absurd rfl hn⟩
    | some detail =>
      rw [step_registering_fault hp hf]
      exact ⟨rfl, fun _ => rfl⟩
  | preparing =>
    rw [step_preparing hp]
    exact ⟨rfl, fun _ => rfl⟩
  | abandoning =>
    rw [step_abandoning hp]
    exact ⟨rfl, fun _ => rfl⟩
  | dropping =>
    rw [step_dropping hp]
    exact ⟨rfl, fun _ => rfl⟩
  | greeting hello =>
    rcases step_greeting env size s hp with ⟨error, he⟩ | ⟨session, sessions, journal, he, -⟩
    · rw [he]
      exact ⟨rfl, fun _ => rfl⟩
    · rw [he]
      exact ⟨rfl, fun _ => rfl⟩
  | opened session =>
    rw [step_opened hp]
    exact ⟨rfl, fun _ => rfl⟩
  | removing reason =>
    cases ho : l.own with
    | none =>
      rw [step_removing_none hp ho]
      exact ⟨rfl, fun _ => rfl⟩
    | some own =>
      rw [step_removing hp ho]
      exact ⟨rfl, fun _ => rfl⟩
  | closing reason session rest =>
    by_cases hd : rest = .done
    · subst hd
      obtain ⟨journal, he⟩ := step_closing_done env size s hp
      rw [he]
      exact ⟨rfl, fun _ => rfl⟩
    · obtain ⟨journal, he⟩ := step_closing env size s hp hd
      rw [he]
      exact ⟨rfl, fun _ => rfl⟩
  | reportClosed reason session =>
    obtain ⟨journal, he⟩ := step_reportClosed env size s hp
    rw [he]
    exact ⟨rfl, fun _ => rfl⟩
  | unregistering =>
    rw [step_unregistering hp]
    exact ⟨rfl, fun _ => rfl⟩
  | releasing =>
    obtain ⟨deliveries, he⟩ := step_releasing env size s hp
    rw [he]
    exact ⟨rfl, fun _ => rfl⟩
  | ended =>
    rw [step_ended hp]
    exact ⟨rfl, fun _ => rfl⟩
  | _ => simp [hp, Phase.isPlain, Phase.isServing] at hplain

/-- Whatever a loop does, the records that there are only age. -/
lemma ages_step (env : Environment) (size : Nat) (s : Shared μ) :
    s.sessions.Ages (l.step env size s).state.sessions := by
  by_cases hs : l.phase.isSilent
  · exact (follows_step env size s hs).sessions.ages
  by_cases hw : l.phase.isWriting
  · exact (persists_step env size s hw).sessions.ages
  cases hp : l.phase with
  | registering =>
    cases hf : env.socketFault with
    | none =>
      rw [step_registering hp hf]
      exact Std.Refl.refl s.sessions
    | some detail =>
      rw [step_registering_fault hp hf]
      exact Std.Refl.refl s.sessions
  | abandoning =>
    rw [step_abandoning hp]
    exact Std.Refl.refl s.sessions
  | unregistering =>
    rw [step_unregistering hp]
    exact Std.Refl.refl s.sessions
  | greeting hello =>
    rcases step_greeting env size s hp with ⟨error, he⟩ | ⟨session, sessions, journal, he, hreg⟩
    · rw [he]
      exact Std.Refl.refl s.sessions
    · rw [he]
      exact hreg.ages
  | _ => simp [hp, Phase.isSilent, Phase.isWriting] at hs hw

end Loop

end ManagementServer.Server
