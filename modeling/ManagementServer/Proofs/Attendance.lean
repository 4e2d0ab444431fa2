import ManagementServer.Proofs.Validity

/-!
# What the steps of a server leave alone

Most steps take no session out of the registry, and ask modules at most (`Shared.Attends`). A
session that is taken out is in the hands of the thread that does so until it is marked as closed
(`Phase.marks?`).
-/

namespace ManagementServer.Server

open ManagementServer.Action (Preserves)

variable {μ : Type}

/-- The sessions stay registered, and modules are asked at most. -/
structure Shared.Attends (s s' : Shared μ) (calls : List Device.Call) : Prop where
  byId : s'.sessions.byId = s.sessions.byId
  records : s'.sessions.records.length = s.sessions.records.length
  modules : s.modules.Serves s'.modules calls

namespace Shared

lemma attends_of_same {s s' : Shared μ} (hs : s'.sessions = s.sessions)
    (hm : s'.modules = s.modules) : Attends s s' [] := by
  refine ⟨?_, ?_, ?_⟩
  · rw [hs]
  · rw [hs]
  · rw [hm]
    exact Device.Registry.serves_refl s.modules

lemma Attends.of_same {s₀ s s' : Shared μ} {calls : List Device.Call} (h : Attends s₀ s calls)
    (hs : s'.sessions = s.sessions) (hm : s'.modules = s.modules) : Attends s₀ s' calls := by
  refine ⟨?_, ?_, ?_⟩
  · rw [hs]
    exact h.byId
  · rw [hs]
    exact h.records
  · rw [hm]
    exact h.modules

lemma withstands_attends (s₀ : Shared μ) : Withstands (Attends s₀) := by
  refine ⟨?_, ?_, ?_, ?_, ?_, ?_⟩
  · intro s history ref f _ h
    refine ⟨h.byId, ?_, h.modules⟩
    rw [Session.Registry.update, List.length_modify]
    exact h.records
  · exact fun _ h => h.of_same rfl rfl
  · exact fun _ h => h.of_same rfl rfl
  · exact fun _ h => h.of_same rfl rfl
  · intro s history bus h
    refine ⟨h.byId, h.records, ?_⟩
    have hbus := h.modules.trans (s.modules.serves_bus bus)
    rwa [List.append_nil] at hbus
  · exact fun _ _ _ h => h.of_same rfl rfl

lemma withstandsAsking_attends (s₀ : Shared μ) : Dispatch.WithstandsAsking (Attends s₀) :=
  fun _ _ _ _ hs h => ⟨h.byId, h.records, h.modules.trans hs⟩

lemma withstands_silent : Withstands fun (_ : Shared μ) history => history = [] :=
  ⟨fun _ _ _ h => h, fun _ h => h, fun _ h => h, fun _ h => h, fun _ h => h, fun _ _ _ h => h⟩

lemma attends_of_preserves {α : Type} {x : Action (Shared μ) α} {s : Shared μ}
    (h : Preserves (Attends s) x) : Attends s (x s).state (x s).calls :=
  h s [] (attends_of_same rfl rfl)

lemma calls_of_preserves {α : Type} {x : Action (Shared μ) α}
    (h : Preserves (fun _ history => history = []) x) (s : Shared μ) : (x s).calls = [] :=
  h s [] rfl

lemma calls_onSessions {α : Type} (x : Action Session.Registry α) (s : Shared μ) :
    (onSessions x s).calls = (x s.sessions).calls := rfl

lemma attends_write (s₀ : Shared μ) (id : SocketId) (message : Protocol.ServerMessage) :
    Preserves (Attends s₀) (write id message : Action (Shared μ) _) := by
  refine Preserves.bind (Preserves.view _) fun k => ?_
  split
  · exact Preserves.pure _
  · refine Preserves.bind (Preserves.modify fun _ _ h => ?_) fun _ => Preserves.pure _
    exact h.of_same rfl rfl

end Shared

/-- The session that closing a session is to mark as closed. -/
def Closing.marks? : Closing → Option Session.Ref
  | .mark session => some session
  | _ => none

namespace Phase

/-- The session that a loop in the phase has taken out of the registry and is to mark as closed. -/
def marks? : Phase → Option Session.Ref
  | .closing _ _ rest => rest.marks?
  | .dispatching _ _ (.killEnd _ _ rest) => rest.marks?
  | _ => none

/-- Whether the step from the phase neither registers a session nor takes one out of the
registry. -/
def isAttending : Phase → Bool
  | .greeting _ | .removing _ | .dispatching _ _ (.killRemove _ _) => false
  | _ => true

end Phase

namespace Loop

variable [Device.DeviceModule μ] {l : Loop}

lemma preserves_reading (s₀ : Shared μ) (env : Environment) (size : Nat) (hp : l.phase = .reading) :
    Preserves (Shared.Attends s₀) (l.step env size : Action (Shared μ) Loop) := by
  simp only [step, hp]
  split
  · exact Preserves.pure _
  · exact Preserves.pure _
  · refine Preserves.bind ?_ fun reading => ?_
    · refine Preserves.bind (Preserves.view _) fun found => ?_
      exact Preserves.bind (Preserves.modify fun _ _ h => h.of_same rfl rfl) fun _ =>
        Preserves.pure _
    · split
      · exact Preserves.pure _
      · exact Preserves.pure _
      · exact Preserves.pure _
      · exact Preserves.pure _
      · exact Preserves.pure _

lemma preserves_dispatching (s₀ : Shared μ) (env : Environment) (size : Nat)
    {request : Protocol.Request} {session : Session.Ref} {stage : Dispatch.Stage}
    (hp : l.phase = .dispatching request session stage)
    (hkill : ∀ target closed, stage ≠ .killRemove target closed) :
    Preserves (Shared.Attends s₀) (l.step env size : Action (Shared μ) Loop) := by
  have hstep := Dispatch.preserves_step (Shared.withstands_attends s₀)
    (fun _ => Shared.withstandsAsking_attends s₀) env l.socket session request hkill
  cases stage with
  | done outcome =>
    simp only [step, hp]
    exact Preserves.pure _
  | _ =>
    simp only [step, hp]
    exact Preserves.bind hstep fun _ => Preserves.pure _

lemma preserves_closing (s₀ : Shared μ) (env : Environment) (size : Nat) {reason : ExitReason}
    {session : Session.Ref} {rest : Closing} (hp : l.phase = .closing reason session rest) :
    Preserves (Shared.Attends s₀) (l.step env size : Action (Shared μ) Loop) := by
  have hstep := Closing.preserves_step (Shared.withstands_attends s₀) rest
  cases rest with
  | done =>
    simp only [step, hp]
    refine Preserves.bind (Preserves.view _) fun _ => ?_
    exact Preserves.bind (Preserves.log _ _ _ _) fun _ => Preserves.pure _
  | _ =>
    simp only [step, hp]
    exact Preserves.bind hstep fun _ => Preserves.pure _

lemma preserves_step (s₀ : Shared μ) (env : Environment) (size : Nat) (h : l.phase.isAttending) :
    Preserves (Shared.Attends s₀) (l.step env size : Action (Shared μ) Loop) := by
  have hI := Shared.withstands_attends s₀
  cases hp : l.phase with
  | greeting hello => simp [hp, Phase.isAttending] at h
  | removing reason => simp [hp, Phase.isAttending] at h
  | reading => exact preserves_reading s₀ env size hp
  | dispatching request session stage =>
    refine preserves_dispatching s₀ env size hp fun target closed hs => ?_
    simp [hp, hs, Phase.isAttending] at h
  | registering =>
    simp only [step, hp]
    split
    · exact Preserves.pure _
    · refine Preserves.bind (Preserves.view _) fun made => ?_
      exact Preserves.bind (Preserves.modify fun _ _ h => h.of_same rfl rfl) fun _ =>
        Preserves.pure _
  | preparing =>
    simp only [step, hp]
    split
    · exact Preserves.pure _
    · exact Preserves.pure _
  | abandoning | unregistering =>
    simp only [step, hp]
    exact Preserves.bind (Preserves.modify fun _ _ h => h.of_same rfl rfl) fun _ => Preserves.pure _
  | dropping | shutting reason =>
    simp only [step, hp]
    exact Preserves.bind (Shared.preserves_shut hI.tolerates _) fun _ => Preserves.pure _
  | checkShutdown | checkClosing =>
    simp only [step, hp]
    refine Preserves.bind Preserves.get fun s => ?_
    split
    · exact Preserves.pure _
    · exact Preserves.pure _
  | received line =>
    simp only [step, hp]
    exact Preserves.pure _
  | opened session =>
    simp only [step, hp]
    refine Preserves.bind (Preserves.view _) fun s => ?_
    exact Preserves.bind (Preserves.emit rfl) fun _ => Preserves.pure _
  | describing =>
    simp only [step, hp]
    exact Preserves.bind (Preserves.view _) fun _ => Preserves.pure _
  | finding request =>
    simp only [step, hp]
    exact Preserves.bind Preserves.get fun _ => Preserves.pure _
  | checkActive request session =>
    simp only [step, hp]
    refine Preserves.bind (Preserves.view _) fun s => ?_
    split
    · exact Preserves.pure _
    · exact Preserves.pure _
  | answering message =>
    simp only [step, hp]
    refine Preserves.bind (Shared.attends_write s₀ _ _) fun sent => ?_
    split
    · exact Preserves.pure _
    · exact Preserves.pure _
  | replying request outcome =>
    simp only [step, hp]
    refine Preserves.bind (Shared.attends_write s₀ _ _) fun sent => ?_
    split
    · split
      · exact Preserves.pure _
      · exact Preserves.pure _
    · split
      · exact Preserves.bind (Shared.preserves_changeDelivery hI _ _) fun _ => Preserves.pure _
      · exact Preserves.pure _
  | openGate delivery closes =>
    simp only [step, hp]
    exact Preserves.bind (Shared.preserves_changeDelivery hI _ _) fun _ => Preserves.pure _
  | lastWord message =>
    simp only [step, hp]
    exact Preserves.bind (Shared.attends_write s₀ _ _) fun _ => Preserves.pure _
  | terminating reason =>
    simp only [step, hp]
    split
    · exact Preserves.bind (Shared.preserves_markTerminating hI.tolerates _) fun _ =>
        Preserves.pure _
    · exact Preserves.pure _
  | closing reason session rest => exact preserves_closing s₀ env size hp
  | reportClosed reason session =>
    simp only [step, hp]
    refine Preserves.bind (Preserves.view _) fun s => ?_
    exact Preserves.bind (Preserves.emit rfl) fun _ => Preserves.pure _
  | releasing =>
    simp only [step, hp]
    split
    · refine Preserves.bind (Preserves.view _) fun s => ?_
      split
      · exact Preserves.bind (Shared.preserves_changeDelivery hI _ _) fun _ => Preserves.pure _
      · exact Preserves.pure _
    · exact Preserves.pure _
  | ended =>
    simp only [step, hp]
    exact Preserves.pure _

lemma attends_step (env : Environment) (size : Nat) (s : Shared μ) (h : l.phase.isAttending) :
    Shared.Attends s (l.step env size s).state (l.step env size s).calls :=
  Shared.attends_of_preserves (preserves_step s env size h)

/-! ### Modules -/

lemma step_killRemove (env : Environment) (size : Nat) (s : Shared μ) {request : Protocol.Request}
    {session target : Session.Ref} {closed : Dispatch.Closed}
    (hp : l.phase = .dispatching request session (.killRemove target closed)) :
    (l.step env size).gist s =
      (l.goTo (.dispatching request session (.killEnd target closed
          (if (s.sessions.detachRef target).2 then .mark target else .done))),
        { s with sessions := (s.sessions.detachRef target).1 }, []) := by
  have hstep := Dispatch.step_killRemove env l.socket session target request closed s
  have hgo := Action.gist_pure (l.goTo (.dispatching request session (.killEnd target closed
    (if (s.sessions.detachRef target).2 then .mark target else .done))))
    { s with sessions := (s.sessions.detachRef target).1 }
  have hgist := Action.gist_bind
    (f := fun next => pure (l.goTo (.dispatching request session next))) hstep hgo
  simp only [step, hp]
  exact hgist

lemma calls_greeting (env : Environment) (size : Nat) (s : Shared μ) {hello : Protocol.Hello}
    (hp : l.phase = .greeting hello) : (l.step env size s).calls = [] := by
  simp only [step, hp]
  rw [Action.calls_bind, Shared.calls_onSessions, Session.Registry.add_calls]
  cases (Shared.onSessions (Session.Registry.add (Text.trim hello.sessionId) hello.username
    hello.capabilities l.connection) s).value with
  | error e => rfl
  | ok session => rfl

lemma modules_step (env : Environment) (size : Nat) (s : Shared μ) :
    s.modules.Serves (l.step env size s).state.modules (l.step env size s).calls := by
  by_cases ha : l.phase.isAttending
  · exact (attends_step env size s ha).modules
  cases hp : l.phase with
  | greeting hello =>
    rw [calls_greeting env size s hp]
    rcases step_greeting env size s hp with ⟨error, he⟩ | ⟨session, sessions, journal, he, -⟩
    · rw [he]
      exact Device.Registry.serves_refl s.modules
    · rw [he]
      exact Device.Registry.serves_refl s.modules
  | removing reason =>
    cases ho : l.own with
    | none =>
      rw [step_removing_none hp ho]
      exact Device.Registry.serves_refl s.modules
    | some own =>
      rw [step_removing hp ho]
      exact Device.Registry.serves_refl s.modules
  | dispatching request session stage =>
    cases stage with
    | killRemove target closed =>
      have hgist := step_killRemove env size s hp
      rw [Action.gist_eq_iff] at hgist
      rw [hgist.2.1, hgist.2.2]
      exact Device.Registry.serves_refl s.modules
    | _ => simp [hp, Phase.isAttending] at ha
  | _ => simp [hp, Phase.isAttending] at ha

/-! ### Sessions in the hands of a loop -/

lemma step_marks (env : Environment) (size : Nat) (s : Shared μ) {target : Session.Ref}
    (h : l.phase.marks? = some target) :
    (l.step env size s).state = { s with sessions := s.sessions.markClosed target } := by
  cases hp : l.phase with
  | closing reason session rest =>
    cases rest with
    | mark other =>
      rw [hp] at h
      obtain rfl : other = target := Option.some.inj h
      obtain ⟨journal, he⟩ := step_closing env size s hp Closing.noConfusion
      rw [he]
      rfl
    | _ => simp [hp, Phase.marks?, Closing.marks?] at h
  | dispatching request session stage =>
    cases stage with
    | killEnd killed closed rest =>
      cases rest with
      | mark other =>
        rw [hp] at h
        obtain rfl : other = target := Option.some.inj h
        obtain ⟨journal, he⟩ :=
          step_dispatching env size s hp fun _ => Dispatch.Stage.noConfusion
        rw [he]
        simp [Dispatch.step, Closing.step, Shared.changeSessions]
      | _ => simp [hp, Phase.marks?, Closing.marks?] at h
    | _ => simp [hp, Phase.marks?] at h
  | _ => simp [hp, Phase.marks?] at h

/-- Of the sessions that are not closed, a loop has taken in hand what it takes out. -/
lemma tracks_step (env : Environment) (size : Nat) {s : Shared μ} {others : Session.Ref → Prop}
    (hc : s.sessions.Coherent)
    (h : s.sessions.Tracks fun ref => l.phase.marks? = some ref ∨ others ref) :
    (l.step env size s).state.sessions.Tracks fun ref =>
      (l.step env size s).value.phase.marks? = some ref ∨ others ref := by
  cases hm : l.phase.marks? with
  | some target =>
    -- A loop that has a session in hand marks it, and does nothing else in that step.
    rw [step_marks env size s hm]
    have hmarked : (s.sessions.markClosed target).Tracks others := by
      apply Session.Registry.Tracks.markClosed
      refine h.mono fun ref hr => hr.imp_left fun he => ?_
      exact (Option.some.inj (hm.symm.trans he)).symm
    exact hmarked.mono fun _ hr => .inr hr
  | none =>
    have hothers : s.sessions.Tracks others := by
      refine h.mono fun ref hr => hr.resolve_left fun he => ?_
      rw [hm] at he
      cases he
    by_cases ha : l.phase.isAttending
    · have hattends := attends_step env size s ha
      have hages : s.sessions.Ages (l.step env size s).state.sessions := ages_step env size s
      exact (hothers.attended hattends.byId hattends.records hages).mono fun _ hr => .inr hr
    -- Three phases are left: one registers a session, and two take one out and have it in hand.
    cases hp : l.phase with
    | greeting hello =>
      rcases step_greeting env size s hp with ⟨error, he⟩ | ⟨session, sessions, journal, he, hr⟩
      · rw [he]
        exact hothers.mono fun _ hr => .inr hr
      · rw [he]
        exact (hothers.registers hr).mono fun _ hr => .inr hr
    | removing reason =>
      cases ho : l.own with
      | none =>
        rw [step_removing_none hp ho]
        exact hothers.mono fun _ hr => .inr hr
      | some own =>
        rw [step_removing hp ho]
        refine (hothers.detachRef hc own).mono fun ref hr => hr.imp_left ?_
        rintro ⟨hdetached, rfl⟩
        simp [hdetached, goTo, Phase.marks?, Closing.marks?]
    | dispatching request session stage =>
      cases stage with
      | killRemove target closed =>
        have hgist := step_killRemove env size s hp
        rw [Action.gist_eq_iff] at hgist
        rw [hgist.1, hgist.2.1]
        refine (hothers.detachRef hc target).mono fun ref hr => hr.imp_left ?_
        rintro ⟨hdetached, rfl⟩
        simp [hdetached, goTo, Phase.marks?, Closing.marks?]
      | _ => simp [hp, Phase.isAttending] at ha
    | _ => simp [hp, Phase.isAttending] at ha

/-! ### Connections -/

/-- Whichever connection a step opens is the one of the loop. -/
lemma carriers_step (env : Environment) (size : Nat) (s : Shared μ) {connection : ConnectionId}
    {socket : SocketId} (h : (connection, socket) ∈ (l.step env size s).state.carriers) :
    (connection, socket) ∈ s.carriers ∨ connection = (l.step env size s).value.connection := by
  by_cases hsilent : l.phase.isSilent
  · rw [(follows_step env size s hsilent).carriers] at h
    exact .inl h
  by_cases hwriting : l.phase.isWriting
  · rw [(persists_step env size s hwriting).carriers] at h
    exact .inl h
  cases hp : l.phase with
  | registering =>
    cases hf : env.socketFault with
    | none =>
      rw [step_registering hp hf] at h ⊢
      rw [Shared.carriers_register, List.mem_append, List.mem_singleton] at h
      exact h.imp_right fun he => (Prod.mk.inj he).1
    | some detail =>
      rw [step_registering_fault hp hf] at h
      exact .inl h
  | abandoning =>
    rw [step_abandoning hp] at h
    exact .inl ((Shared.mem_carriers_unregister s _ _ _).mp h).1
  | unregistering =>
    rw [step_unregistering hp] at h
    exact .inl ((Shared.mem_carriers_unregister s _ _ _).mp h).1
  | greeting hello =>
    rcases step_greeting env size s hp with ⟨error, he⟩ | ⟨session, sessions, journal, he, -⟩
    · rw [he] at h
      exact .inl h
    · rw [he] at h
      exact .inl h
  | _ => simp [hp, Phase.isSilent, Phase.isWriting] at hsilent hwriting

end Loop
end ManagementServer.Server
