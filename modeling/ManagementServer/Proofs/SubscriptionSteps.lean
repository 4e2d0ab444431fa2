import ManagementServer.Proofs.ConnectionLoop

/-!
# Who holds a subscription

Few steps make a delivery, give it to a session, take it away, or say that its request has been
answered: `Loop.Handles` and `Closing.Goes` list them. Under all others every session keeps what it
holds, and a delivery stays where it is (`Shared.Stays`).
-/

namespace ManagementServer

namespace Event.Delivery

instance : Std.Refl Stays := ⟨fun _ => ⟨rfl, rfl, .inl rfl⟩⟩

instance : IsTrans Delivery Stays := by
  refine ⟨fun d d' d'' h h' => ⟨h'.stage.trans h.stage, h'.socket.trans h.socket, ?_⟩⟩
  rcases h'.gate with hg | hg
  · rw [hg]
    exact h.gate
  · exact .inr hg

end Event.Delivery

namespace Session.Registry

/-- Every session holds what it has held, and is closed if it was. -/
structure Holds (r r' : Registry) : Prop where
  subscription : ∀ ref, (r'.record ref).subscription = (r.record ref).subscription
  closed : ∀ ref, (r'.record ref).status = .closed ↔ (r.record ref).status = .closed

instance : Std.Refl Holds := ⟨fun _ => ⟨fun _ => rfl, fun _ => Iff.rfl⟩⟩

instance : IsTrans Registry Holds :=
  ⟨fun _ _ _ h h' => ⟨fun ref => (h'.subscription ref).trans (h.subscription ref),
    fun ref => (h'.closed ref).trans (h.closed ref)⟩⟩

lemma holds_of_records {r r' : Registry} (h : r'.records = r.records) : Holds r r' := by
  have hr : ∀ ref, r'.record ref = r.record ref := by
    intro ref
    rw [record, record?, h, record, record?]
  refine ⟨fun ref => ?_, fun ref => ?_⟩
  · rw [hr]
  · rw [hr]

lemma holds_update (r : Registry) (ref : Ref) {f : Record → Record}
    (hs : ∀ k, (f k).subscription = k.subscription)
    (hc : ∀ k, (f k).status = .closed ↔ k.status = .closed) : Holds r (r.update ref f) := by
  refine ⟨fun other => ?_, fun other => ?_⟩
  · rw [record_update]
    split
    · exact hs _
    · rfl
  · rw [record_update]
    split
    · exact hc _
    · rfl

lemma holds_markTerminating (r : Registry) (ref : Ref) : Holds r (r.markTerminating ref) := by
  apply holds_update
  · exact fun _ => rfl
  · intro k
    cases k.status <;> simp [SessionStatus.terminate]

lemma records_detachRef (r : Registry) (ref : Ref) : (r.detachRef ref).1.records = r.records := by
  unfold detachRef
  dsimp only
  split <;> rfl

lemma holds_detachRef (r : Registry) (ref : Ref) : Holds r (r.detachRef ref).1 :=
  holds_of_records (r.records_detachRef ref)

lemma subscription_takeSubscription (r : Registry) (ref other : Ref) :
    ((r.takeSubscription ref).1.record other).subscription =
      if ref = other then none else (r.record other).subscription := by
  rw [takeSubscription, record_update]
  by_cases hr : ref = other ∧ ref.number < r.records.length
  · rw [if_pos hr, if_pos hr.1]
  · rw [if_neg hr]
    split
    · subst other
      have hlt : ¬ ref.number < r.records.length := fun hl => hr ⟨rfl, hl⟩
      rw [record, record?, List.getElem?_eq_none (by omega)]
      rfl
    · rfl

lemma status_takeSubscription (r : Registry) (ref other : Ref) :
    ((r.takeSubscription ref).1.record other).status = (r.record other).status := by
  rw [takeSubscription, record_update]
  split <;> rfl

/-- A session that is registered holds nothing and is not closed. -/
lemma Registers.holds {r r' : Registry} {ref : Ref} {s : Record} (h : Registers r r' ref s)
    (hs : s.subscription = none) : Holds r r' := by
  have hold : ∀ other, r'.record other = r.record other ∨
      r'.record other = s ∧ r.record other = default := by
    intro other
    rw [record, record?, h.records, record, record?]
    rcases Nat.lt_trichotomy other.number r.records.length with hl | hl | hl
    · left
      rw [List.getElem?_append_left hl]
    · right
      simp [hl]
    · left
      have hn : (r.records ++ [s])[other.number]? = none := by
        rw [List.getElem?_eq_none]
        simp
        omega
      rw [hn, List.getElem?_eq_none (by omega)]
  have hactive : s.status ≠ .closed := by
    rw [h.active]
    exact SessionStatus.noConfusion
  refine ⟨fun other => ?_, fun other => ?_⟩
  · rcases hold other with he | ⟨he, hd⟩
    · rw [he]
    · rw [he, hd, hs]
      rfl
  · rcases hold other with he | ⟨he, hd⟩
    · rw [he]
    · rw [he, hd]
      exact ⟨fun hc => absurd hc hactive, fun hc => SessionStatus.noConfusion hc⟩

end Session.Registry

namespace Server

open ManagementServer.Action (Keeps Preserves Yields)
open Session (DeliveryRef)

variable {μ : Type}

namespace Shared

/-- Every session holds what it has held, and every delivery stays where it is. -/
structure Stays (s s' : Shared μ) : Prop where
  sessions : s.sessions.Holds s'.sessions
  length : s'.deliveries.length = s.deliveries.length
  delivery : ∀ ref d', s'.delivery? ref = some d' → ∃ d, s.delivery? ref = some d ∧ d.Stays d'

instance : Std.Refl (Stays (μ := μ)) :=
  ⟨fun s => ⟨Std.Refl.refl s.sessions, rfl, fun _ d h => ⟨d, h, Std.Refl.refl d⟩⟩⟩

instance : IsTrans (Shared μ) Stays := by
  refine ⟨fun s s' s'' h h' => ⟨IsTrans.trans _ _ _ h.sessions h'.sessions,
    h'.length.trans h.length, ?_⟩⟩
  intro ref d'' hd''
  obtain ⟨d', hd', hs'⟩ := h'.delivery ref d'' hd''
  obtain ⟨d, hd, hs⟩ := h.delivery ref d' hd'
  exact ⟨d, hd, IsTrans.trans _ _ _ hs hs'⟩

lemma stays_of_same {s s' : Shared μ} (hs : s.sessions.Holds s'.sessions)
    (hd : s'.deliveries = s.deliveries) : Stays s s' := by
  refine ⟨hs, by rw [hd], ?_⟩
  intro ref d' h
  rw [delivery?, hd] at h
  exact ⟨d', h, Std.Refl.refl d'⟩

lemma stays_modify (s : Shared μ) (ref : DeliveryRef) {f : Event.Delivery → Event.Delivery}
    (hf : ∀ d : Event.Delivery, d.Stays (f d)) :
    Stays s { s with deliveries := s.deliveries.modify ref.number f } := by
  refine ⟨Std.Refl.refl s.sessions, List.length_modify _ _ _, ?_⟩
  intro other d' h
  simp only [delivery?, List.getElem?_modify] at h
  obtain ⟨d, hd, rfl⟩ := Option.map_eq_some_iff.mp h
  refine ⟨d, hd, ?_⟩
  split
  · exact hf d
  · exact Std.Refl.refl d

lemma tolerates_stays (s₀ : Shared μ) : Tolerates fun s _ => Stays s₀ s where
  terminate ref h := IsTrans.trans _ _ _ h
    (stays_of_same (Session.Registry.holds_markTerminating _ ref) rfl)
  flag _ h := IsTrans.trans _ _ _ h (stays_of_same (Std.Refl.refl _) rfl)
  shut _ h := IsTrans.trans _ _ _ h (stays_of_same (Std.Refl.refl _) rfl)
  halt ref _ hf h := IsTrans.trans _ _ _ h (stays_modify _ ref hf)
  bus _ h := IsTrans.trans _ _ _ h (stays_of_same (Std.Refl.refl _) rfl)
  notify _ _ _ h := IsTrans.trans _ _ _ h (stays_of_same (Std.Refl.refl _) rfl)

lemma stays_write (id : SocketId) (message : Protocol.ServerMessage) (s : Shared μ) :
    Stays s (write id message s).state := by
  cases hw : (s.socket id).writeFault? with
  | none =>
    rw [write_of_none message hw]
    exact stays_of_same (Std.Refl.refl _) rfl
  | some detail =>
    rw [write_of_some message hw]
    exact Std.Refl.refl s

/-- A delivery that moves leaves the others, and those who hold them, alone. -/
lemma deliver_alone (now : Time.Instant) (ref : DeliveryRef) (s : Shared μ) :
    (deliver now ref s).state.sessions = s.sessions ∧
      ∃ f, (deliver now ref s).state.deliveries = s.deliveries.modify ref.number f := by
  have hnone : ∃ f, s.deliveries = s.deliveries.modify ref.number f := ⟨id, by simp⟩
  simp only [deliver, Action.bind_apply, Action.get_apply]
  cases s.delivery? ref with
  | none => exact ⟨rfl, hnone⟩
  | some d =>
    dsimp only
    cases d.move now (s.waiting d) with
    | rest => exact ⟨rfl, hnone⟩
    | go stage | receive stage | unsubscribe => exact ⟨rfl, _, rfl⟩
    | write message stage =>
      cases hw : (s.socket d.socket).writeFault? with
      | none =>
        simp only [Action.bind_apply, write_of_none message hw]
        exact ⟨rfl, _, rfl⟩
      | some detail =>
        simp only [Action.bind_apply, write_of_some message hw]
        exact ⟨rfl, _, rfl⟩

lemma length_deliver (now : Time.Instant) (ref : DeliveryRef) (s : Shared μ) :
    (deliver now ref s).state.deliveries.length = s.deliveries.length := by
  obtain ⟨f, hf⟩ := (deliver_alone now ref s).2
  rw [hf, List.length_modify]

end Shared

/-! ## The steps of closing a session -/

namespace Closing

/-- What a step of closing a session comes to. -/
inductive Goes (s : Shared μ) : Closing → Closing → Shared μ → Prop
  | marks (session : Session.Ref) :
      Goes s (.mark session) (.take session) { s with sessions := s.sessions.markClosed session }
  | takes (session : Session.Ref) (delivery : DeliveryRef)
      (held : (s.sessions.record session).subscription = some delivery) :
      Goes s (.take session) (.cancel delivery)
        { s with sessions := (s.sessions.takeSubscription session).1 }
  | findsNone (session : Session.Ref) (held : (s.sessions.record session).subscription = none) :
      Goes s (.take session) .done { s with sessions := (s.sessions.takeSubscription session).1 }
  | cancels (delivery : DeliveryRef) :
      Goes s (.cancel delivery) (.join delivery) (Shared.cancel delivery s).state
  | joins (delivery : DeliveryRef) (finished : s.isFinished delivery) :
      Goes s (.join delivery) .done s
  | waits (delivery : DeliveryRef) (running : s.isFinished delivery = false) :
      Goes s (.join delivery) (.join delivery) s
  | rests : Goes s .done .done s

lemma goes_step (current : Closing) (s : Shared μ) :
    Goes s current (current.step s).value (current.step s).state := by
  cases current with
  | mark session => exact .marks session
  | cancel delivery => exact .cancels delivery
  | done => exact .rests
  | take session =>
    cases hs : (s.sessions.record session).subscription with
    | none =>
      have hstep : (step (.take session) : Action (Shared μ) Closing) s =
          ⟨.done, { s with sessions := (s.sessions.takeSubscription session).1 }, []⟩ := by
        simp [step, Shared.changeSessions, Session.Registry.takeSubscription, hs]
      rw [hstep]
      exact .findsNone session hs
    | some delivery =>
      have hstep : (step (.take session) : Action (Shared μ) Closing) s =
          ⟨.cancel delivery,
            { s with sessions := (s.sessions.takeSubscription session).1 }, []⟩ := by
        simp [step, Shared.changeSessions, Session.Registry.takeSubscription, hs]
      rw [hstep]
      exact .takes session delivery hs
  | join delivery =>
    cases hf : s.isFinished delivery with
    | true =>
      have hstep : (step (.join delivery) : Action (Shared μ) Closing) s = ⟨.done, s, []⟩ := by
        simp [step, hf]
      rw [hstep]
      exact .joins delivery hf
    | false =>
      have hstep : (step (.join delivery) : Action (Shared μ) Closing) s =
          ⟨.join delivery, s, []⟩ := by
        simp [step, hf]
      rw [hstep]
      exact .waits delivery hf

lemma length_step (current : Closing) (s : Shared μ) :
    (current.step s).state.deliveries.length = s.deliveries.length := by
  have h := current.goes_step s
  generalize (current.step s).state = s' at h ⊢
  generalize (current.step s).value = next at h
  cases h with
  | cancels delivery => exact List.length_modify _ _ _
  | _ => rfl

end Closing

/-! ## The steps of a request -/

namespace Dispatch

/-- The delivery that a request has made and not yet been answered for. -/
def Stage.pending? : Stage → Option DeliveryRef
  | .attach delivery | .reject delivery | .awaitRejected delivery => some delivery
  | .done outcome => outcome.gate
  | _ => none

/-- Whether only a request to subscribe comes to a stage. -/
def Stage.isSubscribing : Stage → Bool
  | .checkSubscription | .readWindow | .subscribe _ => true
  | stage => stage.pending?.isSome

/-- What is known of the stage behind another: it makes no delivery, and none but the route of a
request leads it to subscribing. -/
structure Leads (request : Protocol.Request) (stage next : Stage) : Prop where
  pending : ∀ delivery, next.pending? = some delivery → stage.pending? = some delivery
  subscribing : next.isSubscribing → stage.isSubscribing ∨ Route.ofRequest request = .subscribe
  outcome : ∀ outcome, next = .done outcome → outcome.gate.isSome → stage = .done outcome

lemma leads_of_plain {request : Protocol.Request} {stage next : Stage}
    (h : next.isSubscribing = false) : Leads request stage next := by
  have hn : next.pending? = none := by
    cases next <;> simp_all [Stage.isSubscribing, Stage.pending?]
  refine ⟨?_, ?_, ?_⟩
  · intro delivery hd
    rw [hn] at hd
    cases hd
  · intro hs
    rw [h] at hs
    cases hs
  · rintro outcome rfl hg
    rw [Stage.pending?] at hn
    rw [hn] at hg
    cases hg

lemma leads_of_subscribing {request : Protocol.Request} {stage next : Stage}
    (hp : ∀ delivery, next.pending? = some delivery → stage.pending? = some delivery)
    (hs : stage.isSubscribing ∨ Route.ofRequest request = .subscribe)
    (hn : ∀ outcome, next ≠ .done outcome) : Leads request stage next :=
  ⟨hp, fun _ => hs, fun outcome ho => absurd ho (hn outcome)⟩

lemma leads_start (s : Session.Record) (request : Protocol.Request) (stage : Stage) :
    Leads request stage (start s request (Route.ofRequest request)) := by
  cases hr : Route.ofRequest request with
  | closeSession | device | rejected => exact leads_of_plain rfl
  | killSession =>
    apply leads_of_plain
    unfold start
    dsimp only
    split
    · rfl
    · split <;> rfl
  | subscribe =>
    unfold start
    dsimp only
    split
    · exact leads_of_subscribing nofun (.inr hr) fun _ => Stage.noConfusion
    · exact leads_of_plain rfl

lemma yields_conclude (s : Session.Record) (request : Protocol.Request) (module : Device.Entry)
    (outcome : Rpc.Reply) (rest : List Device.Entry) (sum : Option Rpc.Reply) (stage : Stage) :
    Yields (Leads request stage)
      (conclude s request module outcome rest sum : Action (Shared μ) Stage) := by
  unfold conclude
  split
  · exact Yields.bind fun _ => Yields.pure (leads_of_plain rfl)
  · exact Yields.pure (leads_of_plain rfl)

variable [Device.DeviceModule μ]

lemma yields_killEnd (env : Environment) (close : Closer μ) (socket : SocketId)
    (session target : Session.Ref) (request : Protocol.Request) (closed : Closed)
    (closing : Closing) :
    Yields (fun next => next.isSubscribing = false) (step env close socket session request
      (.killEnd target closed closing) : Action (Shared μ) Stage) := by
  cases closing with
  | done => exact Yields.bind fun _ => Yields.bind fun _ => Yields.bind fun _ => Yields.pure rfl
  | _ =>
    refine Yields.bind fun _ => Yields.bind fun next => ?_
    dsimp only
    split
    · exact Yields.bind fun _ => Yields.bind fun _ => Yields.pure rfl
    · exact Yields.pure rfl

/-- What a step leads to that neither makes a delivery nor gives it to a session. -/
lemma yields_step (env : Environment) (close : Closer μ) (socket : SocketId)
    (session : Session.Ref) (request : Protocol.Request) {stage : Stage}
    (hs : ∀ window, stage ≠ .subscribe window) (ha : ∀ delivery, stage ≠ .attach delivery) :
    Yields (Leads request stage)
      (step env close socket session request stage : Action (Shared μ) Stage) := by
  cases stage with
  | subscribe window => exact absurd rfl (hs window)
  | attach delivery => exact absurd rfl (ha delivery)
  | routing => exact Yields.bind fun s => Yields.bind fun _ => Yields.pure (leads_start s request _)
  | markOwn => exact Yields.bind fun _ => Yields.bind fun _ => Yields.pure (leads_of_plain rfl)
  | closeOwn =>
    exact Yields.bind fun _ => Yields.bind fun _ => Yields.bind fun _ =>
      Yields.pure (leads_of_plain rfl)
  | killLookup target =>
    refine Yields.bind fun _ => Yields.bind fun found => ?_
    cases found <;> exact Yields.pure (leads_of_plain rfl)
  | killMark target =>
    exact Yields.bind fun _ => Yields.bind fun _ => Yields.pure (leads_of_plain rfl)
  | killClose target =>
    exact Yields.bind fun _ => Yields.bind fun _ => Yields.bind fun _ =>
      Yields.pure (leads_of_plain rfl)
  | killRemove target closed =>
    refine Yields.bind fun _ => Yields.bind fun detached => ?_
    split
    · exact Yields.pure (leads_of_plain rfl)
    · exact Yields.bind fun _ => Yields.bind fun _ => Yields.pure (leads_of_plain rfl)
  | killEnd target closed closing =>
    exact fun s => leads_of_plain
      (yields_killEnd env close socket session target request closed closing s)
  | checkSubscription =>
    refine Yields.bind fun _ => Yields.bind fun _ => ?_
    split
    · exact Yields.pure (leads_of_subscribing nofun (.inl rfl) fun _ => Stage.noConfusion)
    · exact Yields.pure (leads_of_plain rfl)
  | readWindow =>
    refine Yields.bind fun _ => ?_
    dsimp only
    split
    · exact Yields.pure (leads_of_subscribing nofun (.inl rfl) fun _ => Stage.noConfusion)
    · exact Yields.pure (leads_of_plain rfl)
  | reject delivery =>
    refine Yields.bind fun _ => Yields.bind fun _ => Yields.bind fun _ => ?_
    exact Yields.pure (leads_of_subscribing (fun _ hd => hd) (.inl rfl) fun _ => Stage.noConfusion)
  | awaitRejected delivery =>
    refine Yields.bind fun _ => Yields.bind fun _ => ?_
    split
    · exact Yields.pure (leads_of_plain rfl)
    · exact Yields.pure
        (leads_of_subscribing (fun _ hd => hd) (.inl rfl) fun _ => Stage.noConfusion)
  | select =>
    refine Yields.bind fun _ => Yields.bind fun found => ?_
    cases found <;> exact Yields.pure (leads_of_plain rfl)
  | execute modules sum =>
    refine Yields.bind fun _ => ?_
    cases modules with
    | nil => exact Yields.pure (leads_of_plain rfl)
    | cons module rest =>
      refine Yields.bind fun reply => ?_
      split
      · exact Yields.pure (leads_of_plain rfl)
      · exact yields_conclude _ _ _ _ _ _ _
  | readState module reply rest sum =>
    exact Yields.bind fun _ => Yields.bind fun _ => yields_conclude _ _ _ _ _ _ _
  | done outcome =>
    exact Yields.bind fun _ => Yields.pure ⟨fun _ hd => hd, fun h => .inl h, fun _ ho _ => ho ▸ rfl⟩

/-- What a step leaves as it is that neither makes or gives away a delivery nor closes a session. -/
lemma stays_step (env : Environment) (socket : SocketId) (session : Session.Ref)
    (request : Protocol.Request) {stage : Stage} (s : Shared μ)
    (h : stage.isMild ∨ ∃ target closed, stage = .killRemove target closed) :
    s.Stays (step env Shared.closeConnection socket session request stage s).state := by
  rcases h with hm | ⟨target, closed, rfl⟩
  · have hA : ∀ s₀ : Shared μ, WithstandsAsking fun s _ => s₀.Stays s := by
      intro s₀ s _ modules calls _ h
      exact IsTrans.trans _ _ _ h (Shared.stays_of_same (Std.Refl.refl _) rfl)
    exact Preserves.keeps (fun s₀ => preserves_mild (Shared.tolerates_stays s₀) (fun _ => hA s₀)
      env socket session request hm) s
  · have hgist := step_killRemove env socket session target request closed s
    rw [Action.gist_eq_iff] at hgist
    rw [hgist.2.1]
    exact Shared.stays_of_same (s.sessions.holds_detachRef target) rfl

lemma step_subscribe_fault {env : Environment} {detail : String} (close : Closer μ)
    (socket : SocketId) (session : Session.Ref) (request : Protocol.Request)
    (window : Event.Window) (s : Shared μ) (hf : env.threadFault = some detail) :
    ∃ e journal, step env close socket session request (.subscribe window) s =
      ⟨.done (.ofError e),
        { s with
          modules := { s.modules with
            bus := (s.modules.bus.subscribe window.start window.stop).1.unsubscribe
              s.modules.bus.nextId } }, journal⟩ := by
  simp only [step, hf]
  exact ⟨_, _, rfl⟩

lemma step_subscribe {env : Environment} (close : Closer μ) (socket : SocketId)
    (session : Session.Ref) (request : Protocol.Request) (window : Event.Window) (s : Shared μ)
    (hf : env.threadFault = none) :
    step env close socket session request (.subscribe window) s =
      ⟨.attach ⟨s.deliveries.length⟩,
        { s with
          modules := { s.modules with bus := (s.modules.bus.subscribe window.start window.stop).1 }
          deliveries := s.deliveries ++ [.start (s.sessions.record session).id socket window
            s.modules.bus.nextId (s.modules.bus.replay window.start window.stop)] }, []⟩ := by
  simp [step, hf, Shared.changeBus, Event.Bus.subscribe]

lemma step_attach (env : Environment) (close : Closer μ) (socket : SocketId)
    (session : Session.Ref) (request : Protocol.Request) {delivery : DeliveryRef} {s : Shared μ}
    (h : (s.sessions.record session).subscription.all s.isFinished) :
    ∃ journal, step env close socket session request (.attach delivery) s =
      ⟨.done ⟨.ok, false, some delivery⟩,
        { s with sessions := s.sessions.update session ({ · with subscription := some delivery }) },
        journal⟩ := by
  simp [step, Shared.changeSessions, Session.Registry.attach, h]

lemma step_attach_refused (env : Environment) (close : Closer μ) (socket : SocketId)
    (session : Session.Ref) (request : Protocol.Request) {delivery : DeliveryRef} {s : Shared μ}
    (h : (s.sessions.record session).subscription.all s.isFinished = false) :
    step env close socket session request (.attach delivery) s = ⟨.reject delivery, s, []⟩ := by
  simp [step, Shared.changeSessions, Session.Registry.attach, h]

lemma step_killEnd (env : Environment) (close : Closer μ) (socket : SocketId)
    (session target : Session.Ref) (request : Protocol.Request) (closed : Closed)
    {current : Closing} (h : current ≠ .done) (s : Shared μ) :
    (step env close socket session request (.killEnd target closed current) s).value =
        .killEnd target closed (current.step s).value ∧
      (step env close socket session request (.killEnd target closed current) s).state =
        (current.step s).state := by
  cases current with
  | done => exact absurd rfl h
  | _ =>
    simp only [step, Action.bind_apply]
    split <;> exact ⟨rfl, rfl⟩

end Dispatch

/-! ## The steps of a loop -/

namespace Phase

/-- The delivery that waits for the answer of a loop. -/
def pending? : Phase → Option DeliveryRef
  | .dispatching _ _ stage => stage.pending?
  | .replying _ outcome => outcome.gate
  | _ => none

/-- The delivery that a loop has answered for and not let through. -/
def opening? : Phase → Option DeliveryRef
  | .openGate delivery _ => some delivery
  | _ => none

/-- How far a loop has come with closing a session. -/
def closing? : Phase → Option Closing
  | .closing _ _ rest => some rest
  | .dispatching _ _ (.killEnd _ _ current) => some current
  | _ => none

/-- Whether a loop neither answers a request nor closes a session. -/
def isAloof : Phase → Bool
  | .dispatching .. | .replying .. | .openGate .. | .closing .. => false
  | _ => true

lemma pending?_of_isAloof {phase : Phase} (h : phase.isAloof) : phase.pending? = none := by
  cases phase <;> first | rfl | cases h

lemma opening?_of_isAloof {phase : Phase} (h : phase.isAloof) : phase.opening? = none := by
  cases phase <;> first | rfl | cases h

lemma waits_of_isAloof {phase : Phase} (h : phase.isAloof) :
    phase.pending? = none ∧ phase.opening? = none :=
  ⟨pending?_of_isAloof h, opening?_of_isAloof h⟩

lemma closing?_of_isAloof {phase : Phase} (h : phase.isAloof) : phase.closing? = none := by
  cases phase <;> first | rfl | cases h

end Phase

namespace Loop

/-- What a step of a loop does to deliveries and to those who hold them. -/
inductive Handles (l : Loop) (s : Shared μ) (l' : Loop) (s' : Shared μ) : Prop where
  | subscribes (request : Protocol.Request) (session : Session.Ref) (window : Event.Window)
      (id : String) (subscriber : Nat) (replay : List Event.Notification)
      (phase : l.phase = .dispatching request session (.subscribe window))
      (next : l'.phase = .dispatching request session (.attach ⟨s.deliveries.length⟩))
      (sessions : s'.sessions = s.sessions)
      (deliveries : s'.deliveries = s.deliveries ++ [.start id l.socket window subscriber replay])
  | attaches (request : Protocol.Request) (session : Session.Ref) (delivery : DeliveryRef)
      (phase : l.phase = .dispatching request session (.attach delivery))
      (free : (s.sessions.record session).subscription.all s.isFinished)
      (next : l'.phase = .dispatching request session (.done ⟨.ok, false, some delivery⟩))
      (sessions : s'.sessions =
        s.sessions.update session ({ · with subscription := some delivery }))
      (deliveries : s'.deliveries = s.deliveries)
  | answers (request : Protocol.Request) (outcome : Dispatched)
      (phase : l.phase = .replying request outcome)
      (sent : (s.socket l.socket).writeFault? = none) (next : l'.phase = afterReply outcome)
      (shared : s' = s.append l.socket (replyMessage request outcome.reply))
  | fails (request : Protocol.Request) (outcome : Dispatched)
      (phase : l.phase = .replying request outcome)
      (fault : (s.socket l.socket).writeFault? ≠ none) (next : l'.phase.isAloof)
      (stays : s.Stays s')
  | opens (delivery : DeliveryRef) (phase : l.phase.opening? = some delivery)
      (next : l'.phase.isAloof) (shared : s' = (Shared.setGate delivery .opened s).state)
  | closes (current : Closing) (phase : l.phase.closing? = some current) (busy : current ≠ .done)
      (next : l'.phase.closing? = some (current.step s).value)
      (shared : s' = (current.step s).state)
  | rests (stays : s.Stays s')
      (answered : l.phase.opening? = none ∧ ∀ request outcome, l.phase ≠ .replying request outcome)
      (pending : ∀ delivery, l'.phase.pending? = some delivery → l.phase.pending? = some delivery)
      (opening : l'.phase.opening? = none)
      (closing : ∀ current, l.phase.closing? = some current → current = .done)

lemma handles_aloof {l l' : Loop} {s s' : Shared μ} (hl : l.phase.isAloof) (hs : s.Stays s')
    (hn : l'.phase.pending? = none ∧ l'.phase.opening? = none) : l.Handles s l' s' := by
  refine .rests hs ⟨Phase.opening?_of_isAloof hl, ?_⟩ ?_ hn.2 ?_
  · intro request outcome hp
    rw [hp] at hl
    cases hl
  · intro delivery hd
    rw [hn.1] at hd
    cases hd
  · intro current hc
    rw [Phase.closing?_of_isAloof hl] at hc
    cases hc

lemma isAloof_afterFault (fault : Protocol.Fault) : (afterFault fault).isAloof := by
  unfold afterFault
  split
  · rfl
  · split <;> rfl

lemma isAloof_afterLine (line : List UInt8) : (afterLine line).isAloof := by
  unfold afterLine
  split
  · exact isAloof_afterFault _
  · split
    · exact isAloof_afterFault _
    · split <;> rfl

lemma isAloof_find (l : Loop) (request : Protocol.Request) (s : Shared μ) :
    (l.find request s).isAloof := by
  unfold find
  split
  · exact isAloof_afterFault _
  · dsimp only
    split
    · rfl
    · split
      · rfl
      · split <;> rfl

lemma isAloof_afterReading {phase : Phase} (h : AfterReading phase) : phase.isAloof := by
  rcases h with rfl | ⟨_, rfl⟩ | rfl | ⟨_, rfl⟩ | ⟨_, _, rfl⟩ <;> rfl

lemma Handles.length_le {l l' : Loop} {s s' : Shared μ} (h : l.Handles s l' s') :
    s.deliveries.length ≤ s'.deliveries.length := by
  cases h with
  | subscribes _ _ _ _ _ _ _ _ _ deliveries => simp [deliveries]
  | attaches _ _ _ _ _ _ _ deliveries => exact Nat.le_of_eq (by rw [deliveries])
  | answers _ _ _ _ _ shared =>
    subst shared
    exact Nat.le_refl _
  | fails _ _ _ _ _ stays => exact Nat.le_of_eq stays.length.symm
  | opens _ _ _ shared => simp [shared, Shared.setGate, Shared.changeDelivery]
  | closes _ _ _ _ shared => exact Nat.le_of_eq (by rw [shared, Closing.length_step])
  | rests stays => exact Nat.le_of_eq stays.length.symm

/-- A loop waits for no delivery but those that it has waited for and the one that it makes. -/
lemma Handles.pending {l l' : Loop} {s s' : Shared μ} (h : l.Handles s l' s') {ref : DeliveryRef}
    (hp : l'.phase.pending? = some ref) :
    l.phase.pending? = some ref ∨
      ref.number = s.deliveries.length ∧ s.deliveries.length < s'.deliveries.length := by
  cases h with
  | subscribes _ _ _ _ _ _ _ next _ deliveries =>
    rw [next] at hp
    obtain rfl := Option.some.inj hp
    exact .inr ⟨rfl, by simp [deliveries]⟩
  | attaches _ _ _ phase _ next =>
    rw [next] at hp
    rw [phase]
    exact .inl hp
  | answers _ outcome _ _ next =>
    rw [next, afterReply] at hp
    split at hp
    · cases hp
    · split at hp <;> cases hp
  | fails _ _ _ _ next | opens _ _ next =>
    rw [Phase.pending?_of_isAloof next] at hp
    cases hp
  | closes current _ _ next =>
    exfalso
    cases hl : l'.phase with
    | dispatching _ _ stage =>
      cases stage <;> simp_all [Phase.pending?, Phase.closing?, Dispatch.Stage.pending?]
    | _ => simp_all [Phase.pending?, Phase.closing?]
  | rests _ _ pending => exact .inl (pending ref hp)

/-- A loop lets through only the delivery that it has answered for. -/
lemma Handles.opening {l l' : Loop} {s s' : Shared μ} (h : l.Handles s l' s') {ref : DeliveryRef}
    (hp : l'.phase.opening? = some ref) : ∃ request outcome,
      l.phase = .replying request outcome ∧ outcome.gate = some ref ∧
        (s.socket l.socket).writeFault? = none := by
  cases h with
  | subscribes _ _ _ _ _ _ _ next | attaches _ _ _ _ _ next =>
    rw [next] at hp
    cases hp
  | answers request outcome phase sent next =>
    refine ⟨request, outcome, phase, ?_, sent⟩
    rw [next, afterReply] at hp
    split at hp
    · rename_i delivery hg
      rw [hg]
      exact hp
    · split at hp <;> cases hp
  | fails _ _ _ _ next | opens _ _ next =>
    rw [Phase.opening?_of_isAloof next] at hp
    cases hp
  | closes current _ _ next =>
    exfalso
    cases hl : l'.phase <;> simp_all [Phase.opening?, Phase.closing?]
  | rests _ _ _ opening =>
    rw [opening] at hp
    cases hp

variable [Device.DeviceModule μ] {l : Loop}

lemma stays_reading (env : Environment) (size : Nat) (s : Shared μ) (hp : l.phase = .reading) :
    s.Stays (l.step env size s).state := by
  have hread : Keeps (Shared.Stays (μ := μ)) (Shared.read l.socket size) :=
    fun _ => Shared.stays_of_same (Std.Refl.refl _) rfl
  have hkeeps : Keeps Shared.Stays (l.step env size : Action (Shared μ) Loop) := by
    simp only [step, hp]
    split
    · exact Keeps.pure _
    · exact Keeps.pure _
    · refine Keeps.bind hread fun reading => ?_
      split <;> exact Keeps.pure _
  exact hkeeps s

lemma handles_dispatching (env : Environment) (size : Nat) (s : Shared μ)
    {request : Protocol.Request} {session : Session.Ref} {stage : Dispatch.Stage}
    (hp : l.phase = .dispatching request session stage) :
    l.Handles s (l.step env size s).value (l.step env size s).state := by
  have hanswered : l.phase.opening? = none ∧
      ∀ request outcome, l.phase ≠ .replying request outcome := by
    rw [hp]
    exact ⟨rfl, fun _ _ => Phase.noConfusion⟩
  by_cases hdone : ∃ outcome, stage = .done outcome
  · obtain ⟨outcome, rfl⟩ := hdone
    rw [step_dispatching_done hp]
    refine .rests (Std.Refl.refl s) hanswered ?_ rfl ?_
    · intro delivery hd
      rw [hp]
      exact hd
    · intro current hc
      rw [hp] at hc
      cases hc
  obtain ⟨journal, he⟩ :=
    step_dispatching env size s hp fun outcome hc => hdone ⟨outcome, hc⟩
  -- Most stages leave sessions and deliveries as they are; the others come one by one below.
  have hrest : (stage.isMild ∨ ∃ target closed, stage = .killRemove target closed) →
      (∀ current, l.phase.closing? = some current → current = .done) →
      l.Handles s (l.step env size s).value (l.step env size s).state := by
    intro hm hc
    have hwindow : ∀ window, stage ≠ .subscribe window := by
      rintro window rfl
      simp [Dispatch.Stage.isMild] at hm
    have hattach : ∀ delivery, stage ≠ .attach delivery := by
      rintro delivery rfl
      simp [Dispatch.Stage.isMild] at hm
    have hleads := Dispatch.yields_step env Shared.closeConnection l.socket session request
      hwindow hattach s
    rw [he]
    refine .rests (Dispatch.stays_step env l.socket session request s hm) hanswered ?_ rfl hc
    intro delivery hd
    rw [hp]
    exact hleads.pending delivery hd
  cases stage with
  | subscribe window =>
    cases hf : env.threadFault with
    | none =>
      rw [he, Dispatch.step_subscribe _ _ _ _ _ _ hf]
      exact .subscribes request session window _ _ _ hp rfl rfl rfl
    | some detail =>
      obtain ⟨e, journal', he'⟩ :=
        Dispatch.step_subscribe_fault Shared.closeConnection l.socket session request window s hf
      rw [he, he']
      exact .rests (Shared.stays_of_same (Std.Refl.refl _) rfl) hanswered nofun rfl
        (by simp [hp, Phase.closing?])
  | attach delivery =>
    cases hfree : (s.sessions.record session).subscription.all s.isFinished with
    | true =>
      obtain ⟨journal', he'⟩ := Dispatch.step_attach env Shared.closeConnection l.socket session
        request hfree
      rw [he, he']
      exact .attaches request session delivery hp hfree rfl rfl rfl
    | false =>
      rw [he, Dispatch.step_attach_refused _ _ _ _ _ hfree]
      refine .rests (Std.Refl.refl s) hanswered ?_ rfl (by simp [hp, Phase.closing?])
      intro other hd
      rw [hp]
      exact hd
  | killEnd target closed current =>
    by_cases hc : current = .done
    · subst hc
      exact hrest (.inl rfl) (by simp [hp, Phase.closing?])
    · have hs := Dispatch.step_killEnd env Shared.closeConnection l.socket session target request
        closed hc s
      rw [he]
      exact .closes current (by rw [hp]; rfl) hc (by rw [hs.1]; rfl) hs.2
  | killRemove target closed =>
    exact hrest (.inr ⟨target, closed, rfl⟩) (by simp [hp, Phase.closing?])
  | _ => exact hrest (.inl rfl) (by simp [hp, Phase.closing?])

lemma handles_step (env : Environment) (size : Nat) (s : Shared μ) :
    l.Handles s (l.step env size s).value (l.step env size s).state := by
  have hr : s.Stays s := Std.Refl.refl s
  have hsame : ∀ s' : Shared μ, s'.sessions = s.sessions → s'.deliveries = s.deliveries →
      s.Stays s' := by
    intro s' hs hd
    apply Shared.stays_of_same _ hd
    rw [hs]
    exact Std.Refl.refl _
  have haloof : ∀ {phase : Phase}, l.phase = phase → phase.isAloof → l.phase.isAloof := by
    rintro _ rfl h
    exact h
  cases hp : l.phase with
  | dispatching request session stage => exact handles_dispatching env size s hp
  | registering =>
    cases hf : env.socketFault with
    | none =>
      rw [step_registering hp hf]
      exact handles_aloof (haloof hp rfl) (hsame _ rfl rfl) ⟨rfl, rfl⟩
    | some detail =>
      rw [step_registering_fault hp hf]
      exact handles_aloof (haloof hp rfl) hr ⟨rfl, rfl⟩
  | preparing =>
    rw [step_preparing hp]
    apply handles_aloof (haloof hp rfl) hr
    dsimp only [goTo]
    split <;> exact ⟨rfl, rfl⟩
  | abandoning =>
    rw [step_abandoning hp]
    exact handles_aloof (haloof hp rfl) (hsame _ rfl rfl) ⟨rfl, rfl⟩
  | dropping =>
    rw [step_dropping hp]
    exact handles_aloof (haloof hp rfl) (hsame _ rfl rfl) ⟨rfl, rfl⟩
  | checkShutdown =>
    rw [step_checkShutdown hp]
    apply handles_aloof (haloof hp rfl) hr
    dsimp only [goTo]
    split <;> exact ⟨rfl, rfl⟩
  | checkClosing =>
    rw [step_checkClosing hp]
    apply handles_aloof (haloof hp rfl) hr
    dsimp only [goTo]
    split <;> exact ⟨rfl, rfl⟩
  | reading =>
    obtain ⟨reader, phase, hv, hn⟩ := yields_reading env size hp s
    rw [hv]
    exact handles_aloof (haloof hp rfl) (stays_reading env size s hp)
      (Phase.waits_of_isAloof (isAloof_afterReading hn))
  | received line =>
    rw [step_received hp]
    exact handles_aloof (haloof hp rfl) hr (Phase.waits_of_isAloof (isAloof_afterLine line))
  | greeting hello =>
    rcases step_greeting env size s hp with ⟨error, he⟩ | ⟨session, sessions, journal, he, hreg⟩
    · rw [he]
      exact handles_aloof (haloof hp rfl) hr ⟨rfl, rfl⟩
    · rw [he]
      exact handles_aloof (haloof hp rfl) (Shared.stays_of_same (hreg.holds rfl) rfl) ⟨rfl, rfl⟩
  | opened session =>
    rw [step_opened hp]
    exact handles_aloof (haloof hp rfl) hr ⟨rfl, rfl⟩
  | describing =>
    rw [step_describing hp]
    exact handles_aloof (haloof hp rfl) hr ⟨rfl, rfl⟩
  | finding request =>
    rw [step_finding hp]
    exact handles_aloof (haloof hp rfl) hr (Phase.waits_of_isAloof (isAloof_find l request s))
  | checkActive request session =>
    rw [step_checkActive hp]
    apply handles_aloof (haloof hp rfl) hr
    dsimp only [goTo]
    split <;> exact ⟨rfl, rfl⟩
  | answering message =>
    cases hw : (s.socket l.socket).writeFault? with
    | none =>
      rw [step_answering hp hw]
      exact handles_aloof (haloof hp rfl) (hsame _ rfl rfl) ⟨rfl, rfl⟩
    | some detail =>
      rw [step_answering_fault hp hw]
      exact handles_aloof (haloof hp rfl) hr
        (Phase.waits_of_isAloof (isAloof_afterFault (.io detail)))
  | replying request outcome =>
    cases hw : (s.socket l.socket).writeFault? with
    | none =>
      rw [step_replying hp hw]
      exact .answers request outcome hp hw rfl rfl
    | some detail =>
      rw [step_replying_fault hp hw]
      refine .fails request outcome hp (by rw [hw]; simp) (isAloof_afterFault (.io detail)) ?_
      dsimp only
      split
      · exact Shared.stays_modify s _ fun _ => ⟨rfl, rfl, .inr rfl⟩
      · exact hr
  | openGate delivery closes =>
    rw [step_openGate hp]
    refine .opens delivery (by rw [hp]; rfl) ?_ rfl
    dsimp only [goTo]
    split <;> rfl
  | lastWord message =>
    rw [step_lastWord hp]
    exact handles_aloof (haloof hp rfl) (Shared.stays_write l.socket message s) ⟨rfl, rfl⟩
  | terminating reason =>
    rw [step_terminating hp]
    refine handles_aloof (haloof hp rfl) ?_ ⟨rfl, rfl⟩
    dsimp only
    split
    · exact Shared.stays_of_same (Session.Registry.holds_markTerminating _ _) rfl
    · exact hr
  | shutting reason =>
    rw [step_shutting hp]
    exact handles_aloof (haloof hp rfl) (hsame _ rfl rfl) ⟨rfl, rfl⟩
  | removing reason =>
    cases ho : l.own with
    | none =>
      rw [step_removing_none hp ho]
      exact handles_aloof (haloof hp rfl) hr ⟨rfl, rfl⟩
    | some own =>
      rw [step_removing hp ho]
      refine handles_aloof (haloof hp rfl)
        (Shared.stays_of_same (s.sessions.holds_detachRef own) rfl) ?_
      dsimp only [goTo]
      split <;> exact ⟨rfl, rfl⟩
  | closing reason session rest =>
    by_cases hd : rest = .done
    · subst hd
      obtain ⟨journal, he⟩ := step_closing_done env size s hp
      rw [he]
      refine .rests hr ⟨by rw [hp]; rfl, by simp [hp]⟩ nofun rfl ?_
      intro current hc
      rw [hp] at hc
      exact (Option.some.inj hc).symm
    · obtain ⟨journal, he⟩ := step_closing env size s hp hd
      rw [he]
      exact .closes rest (by rw [hp]; rfl) hd rfl rfl
  | reportClosed reason session =>
    obtain ⟨journal, he⟩ := step_reportClosed env size s hp
    rw [he]
    exact handles_aloof (haloof hp rfl) hr ⟨rfl, rfl⟩
  | unregistering =>
    rw [step_unregistering hp]
    exact handles_aloof (haloof hp rfl) (hsame _ rfl rfl) ⟨rfl, rfl⟩
  | releasing =>
    by_cases hd : ∃ own delivery, l.own = some own ∧
        (s.sessions.record own).subscription = some delivery
    · obtain ⟨own, delivery, ho, hd⟩ := hd
      rw [step_releasing_some hp ho hd]
      exact handles_aloof (haloof hp rfl)
        (Shared.stays_modify s delivery fun _ => ⟨rfl, rfl, .inl rfl⟩) ⟨rfl, rfl⟩
    · rw [step_releasing_none hp fun own ho => ?_]
      · exact handles_aloof (haloof hp rfl) hr ⟨rfl, rfl⟩
      · cases hs : (s.sessions.record own).subscription with
        | none => rfl
        | some delivery => exact absurd ⟨own, delivery, ho, hs⟩ hd
  | ended =>
    rw [step_ended hp]
    exact handles_aloof (haloof hp rfl) hr (by rw [hp]; exact ⟨rfl, rfl⟩)

end Loop

end Server

end ManagementServer
