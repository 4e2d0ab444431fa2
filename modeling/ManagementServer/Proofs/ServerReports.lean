import ManagementServer.Proofs.Reports
import ManagementServer.Proofs.Runs

/-!
# What the threads of a server report

Of all the steps of a server two report something: the one with which a loop announces the session
that it has registered, and the one with which it announces that it has closed it
(`Loop.reports_step`). Requests, deliveries, and stopping the server report nothing.
-/

namespace ManagementServer.Server

open ManagementServer.Action (Discreet)

variable {μ α : Type}

/-- Something that is reported about a session. -/
inductive Notice where
  | opened (session : Session.Ref)
  | closed (session : Session.Ref) (reason : ExitReason)
  deriving DecidableEq, Repr

namespace Notice

/-- The session that a notice is about. -/
def session : Notice → Session.Ref
  | .opened session => session
  | .closed session _ => session

/-- The report that a notice is, with what the registry knows of the session. -/
def event (r : Session.Registry) : Notice → HealthEvent
  | .opened session => .sessionOpened (r.record session).id (r.record session).context.username
  | .closed session reason => .sessionClosed (r.record session).id reason

end Notice

/-- The notice that the step of a loop from a phase gives. -/
def Phase.notice? : Phase → Option Notice
  | .opened session => some (.opened session)
  | .reportClosed reason session => some (.closed session reason)
  | _ => none

namespace Shared

lemma discreet_onModules {x : Action (Device.Registry μ) α} (h : Discreet x) :
    Discreet (onModules x) :=
  h.zoom

lemma discreet_changeSessions (f : Session.Registry → Session.Registry × α) :
    Discreet (changeSessions f : Action (Shared μ) α) := fun _ => rfl

lemma discreet_changeBus (f : Event.Bus → Event.Bus) :
    Discreet (changeBus f : Action (Shared μ) Unit) :=
  Discreet.modify _

lemma discreet_changeSocket (id : SocketId) (f : Connection.Socket → Connection.Socket) :
    Discreet (changeSocket id f : Action (Shared μ) Unit) :=
  Discreet.modify _

lemma discreet_changeDelivery (ref : Session.DeliveryRef) (f : Event.Delivery → Event.Delivery) :
    Discreet (changeDelivery ref f : Action (Shared μ) Unit) :=
  Discreet.modify _

lemma discreet_write (id : SocketId) (message : Protocol.ServerMessage) :
    Discreet (write id message : Action (Shared μ) _) := by
  refine Discreet.bind (Discreet.view _) fun k => ?_
  split
  · exact Discreet.pure _
  · exact Discreet.bind (discreet_changeSocket id _) fun _ => Discreet.pure _

lemma discreet_read (id : SocketId) (size : Nat) :
    Discreet (read id size : Action (Shared μ) _) := by
  refine Discreet.bind (Discreet.view _) fun found => ?_
  exact Discreet.bind (discreet_changeSocket id _) fun _ => Discreet.pure _

lemma discreet_closeConnection (id : ConnectionId) (mode : CloseMode) :
    Discreet (closeConnection id mode : Action (Shared μ) _) := by
  refine Discreet.bind Discreet.get fun s => ?_
  split
  · exact Discreet.pure _
  · refine Discreet.bind (Discreet.modify _) fun _ => ?_
    cases mode with
    | afterReply => exact Discreet.pure _
    | immediate =>
      refine Discreet.bind (Discreet.view _) fun fault => ?_
      split
      · exact Discreet.pure _
      · exact Discreet.bind (discreet_changeSocket _ _) fun _ => Discreet.pure _

lemma discreet_deliver (now : Time.Instant) (ref : Session.DeliveryRef) :
    Discreet (deliver now ref : Action (Shared μ) Unit) := by
  refine Discreet.bind Discreet.get fun s => ?_
  split
  · exact Discreet.pure _
  · split
    · exact Discreet.pure _
    · exact discreet_changeDelivery ref _
    · exact Discreet.bind (discreet_changeBus _) fun _ => discreet_changeDelivery ref _
    · refine Discreet.bind (discreet_write _ _) fun sent => ?_
      split
      · exact discreet_changeDelivery ref _
      · exact discreet_changeDelivery ref _
    · exact Discreet.bind (discreet_changeBus _) fun _ => discreet_changeDelivery ref _

end Shared

lemma Closing.discreet_step (c : Closing) : Discreet (c.step : Action (Shared μ) Closing) := by
  cases c with
  | mark session =>
    exact Discreet.bind (Shared.discreet_changeSessions _) fun _ => Discreet.pure _
  | take session =>
    refine Discreet.bind (Shared.discreet_changeSessions _) fun found => ?_
    split
    · exact Discreet.pure _
    · exact Discreet.pure _
  | cancel delivery =>
    exact Discreet.bind (Shared.discreet_changeDelivery delivery _) fun _ => Discreet.pure _
  | join delivery =>
    refine Discreet.bind Discreet.get fun s => ?_
    split
    · exact Discreet.pure _
    · exact Discreet.pure _
  | done => exact Discreet.pure _

variable [Device.DeviceModule μ]

/-! ## Requests -/

namespace Dispatch

omit [Device.DeviceModule μ] in
lemma discreet_conclude (s : Session.Record) (request : Protocol.Request) (module : Device.Entry)
    (outcome : Rpc.Reply) (rest : List Device.Entry) (sum : Option Rpc.Reply) :
    Discreet (conclude s request module outcome rest sum : Action (Shared μ) Stage) := by
  unfold conclude
  split
  · exact Discreet.bind (Discreet.log _ _ _ _) fun _ => Discreet.pure _
  · exact Discreet.pure _

lemma discreet_killEnd (env : Environment) (socket : SocketId) (session target : Session.Ref)
    (request : Protocol.Request) (closed : Closed) (closing : Closing) :
    Discreet (step env Shared.closeConnection socket session request
      (.killEnd target closed closing) : Action (Shared μ) Stage) := by
  refine Discreet.bind (Discreet.view _) fun s => ?_
  cases closing with
  | done =>
    refine Discreet.bind (Discreet.view _) fun _ => ?_
    exact Discreet.bind (Discreet.log _ _ _ _) fun _ => Discreet.pure _
  | mark _ | take _ | cancel _ | join _ =>
    refine Discreet.bind (Closing.discreet_step _) fun next => ?_
    dsimp only
    split
    · refine Discreet.bind (Discreet.view _) fun _ => ?_
      exact Discreet.bind (Discreet.log _ _ _ _) fun _ => Discreet.pure _
    · exact Discreet.pure _

lemma discreet_subscribe (env : Environment) (socket : SocketId) (session : Session.Ref)
    (request : Protocol.Request) (window : Event.Window) :
    Discreet (step env Shared.closeConnection socket session request
      (.subscribe window) : Action (Shared μ) Stage) := by
  refine Discreet.bind (Discreet.view _) fun s => Discreet.bind (Discreet.view _) fun made => ?_
  dsimp only
  split
  · exact Discreet.bind (Shared.discreet_changeBus _) fun _ => Discreet.pure _
  · refine Discreet.bind Discreet.get fun _ => ?_
    refine Discreet.bind (Shared.discreet_changeBus _) fun _ => ?_
    exact Discreet.bind (Discreet.modify _) fun _ => Discreet.pure _

/-- No step of a request reports anything, not even one that takes another session out of the
registry. -/
lemma discreet_step (env : Environment) (socket : SocketId) (session : Session.Ref)
    (request : Protocol.Request) (stage : Stage) :
    Discreet (step env Shared.closeConnection socket session request stage :
      Action (Shared μ) Stage) := by
  cases stage with
  | killEnd target closed closing =>
    exact discreet_killEnd env socket session target request closed closing
  | subscribe window => exact discreet_subscribe env socket session request window
  | routing =>
    refine Discreet.bind (Discreet.view _) fun _ => ?_
    exact Discreet.bind (Discreet.log _ _ _ _) fun _ => Discreet.pure _
  | markOwn =>
    refine Discreet.bind (Discreet.view _) fun _ => ?_
    exact Discreet.bind (Shared.discreet_changeSessions _) fun _ => Discreet.pure _
  | closeOwn =>
    refine Discreet.bind (Discreet.view _) fun s => ?_
    refine Discreet.bind (Shared.discreet_closeConnection _ _) fun _ => ?_
    exact Discreet.bind (Discreet.log _ _ _ _) fun _ => Discreet.pure _
  | killLookup target =>
    refine Discreet.bind (Discreet.view _) fun _ => ?_
    refine Discreet.bind (Discreet.view _) fun found => ?_
    cases found with
    | ok _ => exact Discreet.pure _
    | error _ => exact Discreet.pure _
  | killMark target =>
    refine Discreet.bind (Discreet.view _) fun _ => ?_
    exact Discreet.bind (Shared.discreet_changeSessions _) fun _ => Discreet.pure _
  | killClose target =>
    refine Discreet.bind (Discreet.view _) fun _ => Discreet.bind (Discreet.view _) fun _ => ?_
    exact Discreet.bind (Shared.discreet_closeConnection _ _) fun _ => Discreet.pure _
  | killRemove target closed =>
    refine Discreet.bind (Discreet.view _) fun _ => ?_
    refine Discreet.bind (Shared.discreet_changeSessions _) fun detached => ?_
    cases detached with
    | true => exact Discreet.pure _
    | false =>
      refine Discreet.bind (Discreet.view _) fun _ => ?_
      exact Discreet.bind (Discreet.log _ _ _ _) fun _ => Discreet.pure _
  | checkSubscription | awaitRejected _ =>
    refine Discreet.bind (Discreet.view _) fun _ => Discreet.bind Discreet.get fun _ => ?_
    split
    · exact Discreet.pure _
    · exact Discreet.pure _
  | readWindow =>
    refine Discreet.bind (Discreet.view _) fun _ => ?_
    dsimp only
    split
    · exact Discreet.pure _
    · exact Discreet.pure _
  | attach delivery =>
    refine Discreet.bind (Discreet.view _) fun _ => Discreet.bind Discreet.get fun shared => ?_
    refine Discreet.bind (Shared.discreet_changeSessions _) fun attached => ?_
    cases attached with
    | true => exact Discreet.bind (Discreet.log _ _ _ _) fun _ => Discreet.pure _
    | false => exact Discreet.pure _
  | reject delivery =>
    refine Discreet.bind (Discreet.view _) fun _ => ?_
    refine Discreet.bind (Shared.discreet_changeDelivery delivery _) fun _ => ?_
    exact Discreet.bind (Shared.discreet_changeDelivery delivery _) fun _ => Discreet.pure _
  | select =>
    refine Discreet.bind (Discreet.view _) fun _ => ?_
    refine Discreet.bind (Discreet.view _) fun found => ?_
    cases found with
    | nil => exact Discreet.pure _
    | cons _ _ => exact Discreet.pure _
  | execute modules sum =>
    refine Discreet.bind (Discreet.view _) fun _ => ?_
    cases modules with
    | nil => exact Discreet.pure _
    | cons module rest =>
      refine Discreet.bind (Shared.discreet_onModules
        (Device.Registry.discreet_execute env module _ _ _)) fun reply => ?_
      split
      · exact Discreet.pure _
      · exact discreet_conclude _ _ _ _ _ _
  | readState module reply rest sum =>
    refine Discreet.bind (Discreet.view _) fun _ => ?_
    refine Discreet.bind (Shared.discreet_onModules
      (Device.Registry.discreet_stateData env module)) fun _ => ?_
    exact discreet_conclude _ _ _ _ _ _
  | done outcome => exact Discreet.bind (Discreet.view _) fun _ => Discreet.pure _

end Dispatch

/-! ## Loops -/

namespace Loop

variable {l : Loop}

lemma discreet_reading (env : Environment) (size : Nat) (hp : l.phase = .reading) :
    Discreet (l.step env size : Action (Shared μ) Loop) := by
  simp only [step, hp]
  split
  · exact Discreet.pure _
  · exact Discreet.pure _
  · refine Discreet.bind (Shared.discreet_read _ _) fun reading => ?_
    split
    all_goals exact Discreet.pure _

lemma discreet_dispatching (env : Environment) (size : Nat) {request : Protocol.Request}
    {session : Session.Ref} {stage : Dispatch.Stage}
    (hp : l.phase = .dispatching request session stage) :
    Discreet (l.step env size : Action (Shared μ) Loop) := by
  have hstep := Dispatch.discreet_step (μ := μ) env l.socket session request stage
  cases stage with
  | done outcome =>
    simp only [step, hp]
    exact Discreet.pure _
  | _ =>
    simp only [step, hp]
    exact Discreet.bind hstep fun _ => Discreet.pure _

lemma discreet_closing (env : Environment) (size : Nat) {reason : ExitReason}
    {session : Session.Ref} {rest : Closing} (hp : l.phase = .closing reason session rest) :
    Discreet (l.step env size : Action (Shared μ) Loop) := by
  have hstep := Closing.discreet_step (μ := μ) rest
  cases rest with
  | done =>
    simp only [step, hp]
    refine Discreet.bind (Discreet.view _) fun _ => ?_
    exact Discreet.bind (Discreet.log _ _ _ _) fun _ => Discreet.pure _
  | _ =>
    simp only [step, hp]
    exact Discreet.bind hstep fun _ => Discreet.pure _

/-- The steps of taking a connection down report nothing, but for the one that announces it. -/
lemma discreet_teardown (env : Environment) (size : Nat) (h : l.phase.isTeardown)
    (hn : l.phase.notice? = none) : Discreet (l.step env size : Action (Shared μ) Loop) := by
  cases hp : l.phase with
  | terminating reason =>
    simp only [step, hp]
    split
    · exact Discreet.bind (Shared.discreet_changeSessions _) fun _ => Discreet.pure _
    · exact Discreet.pure _
  | shutting reason =>
    simp only [step, hp]
    exact Discreet.bind (Shared.discreet_changeSocket _ _) fun _ => Discreet.pure _
  | removing reason =>
    simp only [step, hp]
    split
    · exact Discreet.pure _
    · refine Discreet.bind (Shared.discreet_changeSessions _) fun detached => ?_
      cases detached with
      | true => exact Discreet.pure _
      | false => exact Discreet.pure _
  | closing reason session rest => exact discreet_closing env size hp
  | reportClosed reason session =>
    rw [hp] at hn
    cases hn
  | unregistering =>
    simp only [step, hp]
    exact Discreet.bind (Discreet.modify _) fun _ => Discreet.pure _
  | releasing =>
    simp only [step, hp]
    split
    · refine Discreet.bind (Discreet.view _) fun s => ?_
      split
      · exact Discreet.bind (Shared.discreet_changeDelivery _ _) fun _ => Discreet.pure _
      · exact Discreet.pure _
    · exact Discreet.pure _
  | _ => simp [hp, Phase.isTeardown] at h

lemma discreet_step (env : Environment) (size : Nat) (hn : l.phase.notice? = none) :
    Discreet (l.step env size : Action (Shared μ) Loop) := by
  by_cases ht : l.phase.isTeardown
  · exact discreet_teardown env size ht hn
  cases hp : l.phase with
  | opened session =>
    rw [hp] at hn
    cases hn
  | reading => exact discreet_reading env size hp
  | dispatching request session stage => exact discreet_dispatching env size hp
  | registering =>
    simp only [step, hp]
    split
    · exact Discreet.pure _
    · refine Discreet.bind (Discreet.view _) fun made => ?_
      exact Discreet.bind (Discreet.modify _) fun _ => Discreet.pure _
  | preparing =>
    simp only [step, hp]
    split
    · exact Discreet.pure _
    · exact Discreet.pure _
  | abandoning =>
    simp only [step, hp]
    exact Discreet.bind (Discreet.modify _) fun _ => Discreet.pure _
  | dropping =>
    simp only [step, hp]
    exact Discreet.bind (Shared.discreet_changeSocket _ _) fun _ => Discreet.pure _
  | checkShutdown | checkClosing =>
    simp only [step, hp]
    refine Discreet.bind Discreet.get fun s => ?_
    split
    · exact Discreet.pure _
    · exact Discreet.pure _
  | received line | ended =>
    simp only [step, hp]
    exact Discreet.pure _
  | greeting hello =>
    simp only [step, hp]
    refine Discreet.bind (Discreet.zoom (Session.Registry.discreet_add _ _ _ _)) fun added => ?_
    split
    · exact Discreet.pure _
    · exact Discreet.pure _
  | describing =>
    simp only [step, hp]
    exact Discreet.bind (Discreet.view _) fun _ => Discreet.pure _
  | finding request =>
    simp only [step, hp]
    exact Discreet.bind Discreet.get fun _ => Discreet.pure _
  | checkActive request session =>
    simp only [step, hp]
    refine Discreet.bind (Discreet.view _) fun s => ?_
    split
    · exact Discreet.pure _
    · exact Discreet.pure _
  | answering message =>
    simp only [step, hp]
    refine Discreet.bind (Shared.discreet_write _ _) fun sent => ?_
    split
    · exact Discreet.pure _
    · exact Discreet.pure _
  | replying request outcome =>
    simp only [step, hp]
    refine Discreet.bind (Shared.discreet_write _ _) fun sent => ?_
    split
    · split
      · exact Discreet.pure _
      · exact Discreet.pure _
    · split
      · exact Discreet.bind (Shared.discreet_changeDelivery _ _) fun _ => Discreet.pure _
      · exact Discreet.pure _
  | openGate delivery closes =>
    simp only [step, hp]
    exact Discreet.bind (Shared.discreet_changeDelivery _ _) fun _ => Discreet.pure _
  | lastWord message =>
    simp only [step, hp]
    exact Discreet.bind (Shared.discreet_write _ _) fun _ => Discreet.pure _
  | _ => simp [hp, Phase.isTeardown] at ht

/-- What the step of a loop reports is the notice of its phase. -/
lemma reports_step (env : Environment) (size : Nat) (s : Shared μ) :
    (l.step env size s).reports = l.phase.notice?.toList.map (·.event s.sessions) := by
  cases hn : l.phase.notice? with
  | none => exact discreet_step env size hn s
  | some n =>
    cases hp : l.phase with
    | opened session =>
      rw [hp] at hn
      obtain rfl := Option.some.inj hn
      rw [step_opened hp]
      rfl
    | reportClosed reason session =>
      rw [hp] at hn
      obtain rfl := Option.some.inj hn
      simp [step, hp, Result.reports, Occurrence.report?, Notice.event]
    | _ => simp [hp, Phase.notice?] at hn

end Loop

/-! ## Servers -/

namespace Running

omit [Device.DeviceModule μ] in
lemma discreet_onShared {x : Action (Shared μ) α} (h : Discreet x) : Discreet (onShared x) :=
  h.zoom

omit [Device.DeviceModule μ] in
lemma discreet_connect : Discreet (connect : Action (Running μ) (Option SocketId)) := by
  refine Discreet.bind Discreet.get fun s => ?_
  split
  · exact Discreet.pure _
  · refine Discreet.bind (Discreet.modify _) fun _ => ?_
    split
    · exact Discreet.bind (Discreet.modify _) fun _ => Discreet.pure _
    · exact Discreet.bind (Discreet.modify _) fun _ => Discreet.pure _

omit [Device.DeviceModule μ] in
lemma discreet_accept (env : Environment) :
    Discreet (accept env : Action (Running μ) Unit) := by
  refine Discreet.bind Discreet.get fun s => ?_
  split
  · exact Discreet.pure _
  · exact Discreet.pure _
  · exact Discreet.pure _
  · exact Discreet.modify _
  · split
    · exact Discreet.modify _
    · split
      · exact Discreet.modify _
      · exact Discreet.modify _
  · exact Discreet.modify _
  · split
    · exact Discreet.modify _
    · exact Discreet.pure _

omit [Device.DeviceModule μ] in
lemma discreet_crashAccepting : Discreet (crashAccepting : Action (Running μ) Unit) := by
  refine Discreet.bind Discreet.get fun s => ?_
  split
  · exact Discreet.pure _
  · exact Discreet.pure _
  · exact Discreet.pure _
  · exact Discreet.modify _

/-- Stopping a server reports nothing, whichever sessions it closes. -/
lemma discreet_stop (env : Environment) : Discreet (stop env : Action (Running μ) Unit) := by
  have hgo : ∀ stopping, Discreet (Action.modify fun s : Running μ => { s with stopping }) :=
    fun _ => Discreet.modify _
  refine Discreet.bind Discreet.get fun s => ?_
  dsimp only
  split
  · exact Discreet.bind (discreet_onShared (Discreet.modify _)) fun _ => hgo _
  · exact Discreet.bind (Discreet.modify _) fun _ => hgo _
  · refine Discreet.bind (discreet_onShared ?_) fun _ => hgo _
    refine Discreet.bind (Discreet.view _) fun _ => ?_
    exact Discreet.bind (Discreet.modify _) fun _ => Discreet.pure _
  · refine Discreet.bind (discreet_onShared (Shared.discreet_changeSessions _)) fun found => ?_
    split
    · exact hgo _
    · exact hgo _
  · exact hgo _
  · exact hgo _
  · exact Discreet.bind (discreet_onShared (Closing.discreet_step _)) fun _ => hgo _
  · split
    · exact hgo _
    · exact Discreet.pure _
  · refine Discreet.bind (discreet_onShared (Shared.discreet_onModules ?_)) fun _ => hgo _
    exact fun _ => rfl
  · exact Discreet.bind (Discreet.log _ _ _ _) fun _ => hgo _
  · refine Discreet.bind (discreet_onShared (Shared.discreet_onModules ?_)) fun outcome => ?_
    · exact Device.Registry.discreet_close env _
    · cases outcome with
      | crashed => exact hgo _
      | returned _ => exact hgo _
  · exact Discreet.pure _
  · exact Discreet.pure _

/-- Nobody but the loops of the connections reports anything. -/
lemma discreet_step (env : Environment) {move : Move} (h : ∀ index size, move ≠ .loop index size) :
    Discreet (step env move : Action (Running μ) Unit) := by
  cases move with
  | connect => exact Discreet.bind discreet_connect fun _ => Discreet.pure _
  | send socket _ | hangUp socket | breakDown socket _ =>
    exact discreet_onShared (Shared.discreet_changeSocket socket _)
  | publish event => exact discreet_onShared (Shared.discreet_changeBus _)
  | accept => exact discreet_accept env
  | crashAccepting => exact discreet_crashAccepting
  | loop index size => exact absurd rfl (h index size)
  | deliver delivery => exact discreet_onShared (Shared.discreet_deliver env.now delivery)
  | stop => exact discreet_stop env

end Running

/-! ## Turns -/

namespace Turn

/-- What is reported in a turn. -/
def reports (s : Running μ) : Turn μ → List HealthEvent
  | .move env what => (Running.step env what s).reports
  | .modules _ => []

omit [Device.DeviceModule μ] in
/-- The notice that a turn gives. -/
def notice? (s : Running μ) : Turn μ → Option Notice
  | .move _ (.loop index _) => s.loops[index]?.bind (·.phase.notice?)
  | _ => none

lemma reports_eq (s : Running μ) (t : Turn μ) :
    t.reports s = (t.notice? s).toList.map (·.event s.shared.sessions) := by
  cases t with
  | modules change => rfl
  | move env what =>
    by_cases hl : ∃ index size, what = .loop index size
    · obtain ⟨index, size, rfl⟩ := hl
      cases hi : s.loops[index]? with
      | none => simp [reports, Running.step, Running.moveLoop, notice?, hi]
      | some l =>
        have hreports := Loop.reports_step (l := l) env size s.shared
        have hturn : (Running.step env (.loop index size) s).reports =
            (l.step env size s.shared).reports := by
          simp [Running.step, Running.moveLoop, Running.onShared, hi, Result.reports]
        rw [reports, hturn, hreports, notice?, hi, Option.bind_some]
    · have hn : ∀ index size, what ≠ .loop index size := fun index size he => hl ⟨index, size, he⟩
      have hnotice : (Turn.move env what).notice? s = none := by
        cases what with
        | loop index size => exact absurd rfl (hn index size)
        | _ => rfl
      rw [reports, Running.discreet_step env hn s, hnotice]
      rfl

end Turn

end ManagementServer.Server
