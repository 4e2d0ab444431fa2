import ManagementServer.Proofs.KillSession
import ManagementServer.Proofs.SubscriberNumbers

/-!
# Requests to subscribe

A request to subscribe is checked, makes a delivery, and gives it to its session. If the session
has another by then, the delivery is told to stop and waited for. `Applicant.Steps` says what a step
of such a request comes to. Until a session is given a delivery, the delivery stays sealed, whatever
happens to it (`Shared.Minds`).
-/

namespace ManagementServer

/-- The delivery is told to stop, and the answer that it waits for is dropped. -/
def Event.Delivery.halt (d : Delivery) : Delivery :=
  { d with gate := .dropped, isCancelled := true }

namespace Server

open Session (DeliveryRef)

variable {μ : Type}

/-! ## The steps of a request to subscribe -/

/-- A request to subscribe: who asks, where the request stands, and the delivery that was made for
it. -/
structure Applicant where
  asking : Asking
  stage : Dispatch.Stage
  made : Option DeliveryRef

/-- Whether a request to subscribe has not come to where its delivery is made. -/
def Dispatch.Stage.isEarly : Dispatch.Stage → Bool
  | .routing | .checkSubscription | .readWindow | .subscribe _ => true
  | _ => false

/-- Whether the next step is to subscribe to the bus. -/
def Dispatch.Stage.isOrdering : Dispatch.Stage → Bool
  | .subscribe _ => true
  | _ => false

namespace Applicant

/-- The delivery that the session was given for the request. -/
def given? (a : Applicant) : Option DeliveryRef :=
  match a.stage with
  | .done outcome => outcome.gate
  | _ => none

/-- Whether the request is answered with an error. -/
def isRefused (a : Applicant) : Bool :=
  match a.stage with
  | .done outcome => outcome.reply.isError
  | _ => false

lemma isRefused_iff {a : Applicant} :
    a.isRefused ↔ ∃ outcome, a.stage = .done outcome ∧ outcome.reply.isError := by
  unfold isRefused
  split
  · rename_i outcome hs
    constructor
    · exact fun he => ⟨outcome, hs, he⟩
    · rintro ⟨other, ho, he⟩
      rw [Dispatch.Stage.done.inj (hs.symm.trans ho)]
      exact he
  · rename_i hs
    refine ⟨nofun, ?_⟩
    rintro ⟨outcome, ho, -⟩
    exact (hs outcome ho).elim

def step [Device.DeviceModule μ] (a : Applicant) (env : Environment) :
    Action (Shared μ) Applicant := do
  let next ← Dispatch.step env Shared.closeConnection a.asking.socket a.asking.session
    a.asking.request a.stage
  return { a with stage := next, made := a.made <|> next.pending? }

/-- Where a request stands, and what has become of its delivery. -/
inductive Stands (a : Applicant) (s : Shared μ) : Prop
  | early (stage : a.stage.isEarly) (made : a.made = none)
  | pending (ref : DeliveryRef) (d : Event.Delivery)
      (stage : a.stage = .attach ref ∨ a.stage = .reject ref) (made : a.made = some ref)
      (delivery : s.delivery? ref = some d) (isSealed : Sealed d)
  | ousted (ref : DeliveryRef) (d : Event.Delivery) (stage : a.stage = .awaitRejected ref)
      (made : a.made = some ref) (delivery : s.delivery? ref = some d) (isSealed : Sealed d)
      (halted : Halted d)
  | refused (e : Rpc.Error) (stage : a.stage = .done (.ofError e))
      (ended : ∀ ref, a.made = some ref → ∃ d, s.delivery? ref = some d ∧ d.stage = .ended)
  | given (ref : DeliveryRef) (d : Event.Delivery)
      (stage : a.stage = .done ⟨.ok, false, some ref⟩) (made : a.made = some ref)
      (delivery : s.delivery? ref = some d)

/-- What a step of a request comes to. -/
inductive Steps (a : Applicant) (s : Shared μ) (a' : Applicant) (s' : Shared μ) : Prop
  | proceeds (stage : a.stage.isEarly) (was : a.made = none) (next : a'.stage.isEarly)
      (made : a'.made = a.made) (shared : s' = s)
  | refused (e : Rpc.Error) (stage : a.stage.isEarly) (was : a.made = none)
      (next : a'.stage = .done (.ofError e)) (made : a'.made = a.made) (shared : s' = s)
  | unstarted (window : Event.Window) (e : Rpc.Error) (stage : a.stage = .subscribe window)
      (was : a.made = none) (next : a'.stage = .done (.ofError e)) (made : a'.made = a.made)
      (shared : s' =
        { s with
          modules := { s.modules with
            bus := (s.modules.bus.subscribe window.start window.stop).1.unsubscribe
              s.modules.bus.nextId } })
  | subscribes (window : Event.Window) (stage : a.stage = .subscribe window)
      (was : a.made = none) (next : a'.stage = .attach ⟨s.deliveries.length⟩)
      (made : a'.made = some ⟨s.deliveries.length⟩)
      (shared : s' =
        { s with
          modules := { s.modules with bus := (s.modules.bus.subscribe window.start window.stop).1 }
          deliveries := s.deliveries ++ [.start (s.sessions.record a.asking.session).id
            a.asking.socket window s.modules.bus.nextId
            (s.modules.bus.replay window.start window.stop)] })
  | attaches (ref : DeliveryRef) (d : Event.Delivery) (stage : a.stage = .attach ref)
      (was : a.made = some ref) (delivery : s.delivery? ref = some d)
      (free : (s.sessions.record a.asking.session).subscription.all s.isFinished)
      (next : a'.stage = .done ⟨.ok, false, some ref⟩) (made : a'.made = a.made)
      (shared : s' =
        { s with
          sessions := s.sessions.update a.asking.session ({ · with subscription := some ref }) })
  | overtaken (ref : DeliveryRef) (d : Event.Delivery) (stage : a.stage = .attach ref)
      (was : a.made = some ref) (delivery : s.delivery? ref = some d) (isSealed : Sealed d)
      (next : a'.stage = .reject ref) (made : a'.made = a.made) (shared : s' = s)
  | withdraws (ref : DeliveryRef) (d : Event.Delivery) (stage : a.stage = .reject ref)
      (was : a.made = some ref) (delivery : s.delivery? ref = some d) (isSealed : Sealed d)
      (next : a'.stage = .awaitRejected ref) (made : a'.made = a.made)
      (shared : s' = { s with deliveries := s.deliveries.modify ref.number (·.halt) })
  | ends (ref : DeliveryRef) (d : Event.Delivery) (stage : a.stage = .awaitRejected ref)
      (was : a.made = some ref) (delivery : s.delivery? ref = some d) (finished : s.isFinished ref)
      (next : a'.stage = .done (.ofError Dispatch.alreadySubscribed)) (made : a'.made = a.made)
      (shared : s' = s)
  | rests (applicant : a' = a) (shared : s' = s)

variable {a : Applicant} {s s' : Shared μ} {ref : DeliveryRef}

lemma given?_of_isEarly (h : a.stage.isEarly) : a.given? = none := by
  unfold given?
  split
  · rename_i hs
    rw [hs] at h
    cases h
  · rfl

lemma given?_of_refusal {e : Rpc.Error} (h : a.stage = .done (.ofError e)) : a.given? = none := by
  simp [given?, h, Dispatched.ofError, Dispatched.ofReply]

lemma Stands.found (h : a.Stands s) (hm : a.made = some ref) :
    ∃ d, s.delivery? ref = some d := by
  cases h with
  | early stage made => cases made.symm.trans hm
  | refused e stage ended =>
    obtain ⟨d, hd, -⟩ := ended ref hm
    exact ⟨d, hd⟩
  | pending _ d _ made delivery | ousted _ d _ made delivery | given _ d _ made delivery =>
    obtain rfl := Option.some.inj (made.symm.trans hm)
    exact ⟨d, delivery⟩

/-- A session is given what was made for its request. -/
lemma Stands.made_of_given (h : a.Stands s) (hg : a.given? = some ref) : a.made = some ref := by
  cases h with
  | early stage made =>
    rw [given?_of_isEarly stage] at hg
    cases hg
  | pending _ _ stage => rcases stage with stage | stage <;> simp [given?, stage] at hg
  | ousted _ _ stage => simp [given?, stage] at hg
  | refused e stage => cases (given?_of_refusal stage).symm.trans hg
  | given other d stage made =>
    obtain rfl : other = ref := by simpa [given?, stage] using hg
    exact made

lemma Stands.given_of_refused (h : a.Stands s) (hr : a.isRefused) : a.given? = none := by
  obtain ⟨outcome, ho, he⟩ := isRefused_iff.mp hr
  cases h with
  | early stage made => exact given?_of_isEarly stage
  | pending _ _ stage => rcases stage with stage | stage <;> cases stage.symm.trans ho
  | ousted _ _ stage => cases stage.symm.trans ho
  | refused e stage => exact given?_of_refusal stage
  | given other d stage made =>
    obtain rfl := Dispatch.Stage.done.inj (stage.symm.trans ho)
    cases he

variable [Device.DeviceModule μ]

lemma asking_step (env : Environment) (a : Applicant) (s : Shared μ) :
    (a.step env s).value.asking = a.asking := rfl

/-- Once a request is answered it makes no step. -/
lemma step_done {outcome : Dispatched} (h : a.stage = .done outcome) (env : Environment)
    (s : Shared μ) : (a.step env s).value.stage = .done outcome := by
  obtain ⟨asking, stage, made⟩ := a
  obtain rfl : stage = .done outcome := h
  rfl

lemma steps (h : a.Stands s) (hr : Route.ofRequest a.asking.request = .subscribe)
    (env : Environment) : a.Steps s (a.step env s).value (a.step env s).state := by
  obtain ⟨asking, stage, made⟩ := a
  cases h with
  | early early made =>
    obtain rfl : _ = none := made
    cases stage with
    | routing =>
      have hstep : step ⟨asking, .routing, none⟩ env s =
          ⟨⟨asking, Dispatch.start (s.sessions.record asking.session) asking.request .subscribe,
            (Dispatch.start (s.sessions.record asking.session) asking.request
              .subscribe).pending?⟩, s, (step ⟨asking, .routing, none⟩ env s).journal⟩ := by
        simp [step, Dispatch.step, show Route.ofRequest asking.request = .subscribe from hr]
      rw [hstep, Dispatch.start]
      split
      · exact .proceeds rfl rfl rfl rfl rfl
      · exact .refused _ rfl rfl rfl rfl rfl
    | checkSubscription =>
      cases hf : (s.sessions.record asking.session).subscription.all s.isFinished with
      | true =>
        have hstep : step ⟨asking, .checkSubscription, none⟩ env s =
            ⟨⟨asking, .readWindow, none⟩, s, []⟩ := by
          simp [step, Dispatch.step, hf, Dispatch.Stage.pending?]
        rw [hstep]
        exact .proceeds rfl rfl rfl rfl rfl
      | false =>
        have hstep : step ⟨asking, .checkSubscription, none⟩ env s =
            ⟨⟨asking, .done (.ofError Dispatch.alreadySubscribed), none⟩, s, []⟩ := by
          simp [step, Dispatch.step, hf, Dispatch.Stage.pending?, Dispatched.ofError,
            Dispatched.ofReply]
        rw [hstep]
        exact .refused _ rfl rfl rfl rfl rfl
    | readWindow =>
      cases hw : Event.Window.ofPayload asking.request.payload env.now with
      | ok window =>
        have hstep : step ⟨asking, .readWindow, none⟩ env s =
            ⟨⟨asking, .subscribe window, none⟩, s, []⟩ := by
          simp [step, Dispatch.step, hw, Dispatch.Stage.pending?]
        rw [hstep]
        exact .proceeds rfl rfl rfl rfl rfl
      | error fault =>
        have hstep : step ⟨asking, .readWindow, none⟩ env s =
            ⟨⟨asking, .done (.ofError fault.toError), none⟩, s, []⟩ := by
          simp [step, Dispatch.step, hw, Dispatch.Stage.pending?, Dispatched.ofError,
            Dispatched.ofReply]
        rw [hstep]
        exact .refused _ rfl rfl rfl rfl rfl
    | subscribe window =>
      cases hf : env.threadFault with
      | some detail =>
        obtain ⟨e, journal, he⟩ := Dispatch.step_subscribe_fault Shared.closeConnection
          asking.socket asking.session asking.request window s hf
        simp only [step, Action.bind_apply, he]
        exact .unstarted window e rfl rfl rfl rfl rfl
      | none =>
        simp only [step, Action.bind_apply, Dispatch.step_subscribe _ _ _ _ _ _ hf]
        exact .subscribes window rfl rfl rfl rfl rfl
    | _ => cases early
  | pending ref d which made delivery isSealed =>
    obtain rfl : _ = some ref := made
    rcases which with which | which
    · obtain rfl : stage = .attach ref := which
      cases hf : (s.sessions.record asking.session).subscription.all s.isFinished with
      | true =>
        obtain ⟨journal, he⟩ := @Dispatch.step_attach μ _ env Shared.closeConnection asking.socket
          asking.session asking.request ref s hf
        simp only [step, Action.bind_apply, he]
        exact .attaches ref d rfl rfl delivery hf rfl rfl rfl
      | false =>
        simp only [step, Action.bind_apply,
          Dispatch.step_attach_refused env Shared.closeConnection asking.socket asking.session
            asking.request hf]
        exact .overtaken ref d rfl rfl delivery isSealed rfl rfl rfl
    · obtain rfl : stage = .reject ref := which
      have hstep : step ⟨asking, .reject ref, some ref⟩ env s =
          ⟨⟨asking, .awaitRejected ref, some ref⟩,
            { s with deliveries := s.deliveries.modify ref.number (·.halt) }, []⟩ := by
        simp [step, Dispatch.step, Shared.setGate, Shared.cancel, Shared.changeDelivery,
          List.modify_modify_eq, Function.comp_def, Event.Delivery.halt]
      rw [hstep]
      exact .withdraws ref d rfl rfl delivery isSealed rfl rfl rfl
  | ousted ref d which made delivery =>
    obtain rfl : stage = .awaitRejected ref := which
    obtain rfl : _ = some ref := made
    cases hf : s.isFinished ref with
    | true =>
      have hstep : step ⟨asking, .awaitRejected ref, some ref⟩ env s =
          ⟨⟨asking, .done (.ofError Dispatch.alreadySubscribed), some ref⟩, s, []⟩ := by
        simp [step, Dispatch.step, hf]
      rw [hstep]
      exact .ends ref d rfl rfl delivery hf rfl rfl rfl
    | false =>
      have hstep : step ⟨asking, .awaitRejected ref, some ref⟩ env s =
          ⟨⟨asking, .awaitRejected ref, some ref⟩, s, []⟩ := by
        simp [step, Dispatch.step, hf]
      rw [hstep]
      exact .rests rfl rfl
  | refused e which =>
    obtain rfl : stage = .done (.ofError e) := which
    refine .rests ?_ rfl
    cases made <;> rfl
  | given ref d which made delivery =>
    obtain rfl : stage = .done ⟨.ok, false, some ref⟩ := which
    obtain rfl : _ = some ref := made
    exact .rests rfl rfl

end Applicant

/-! ## Deliveries that nobody lets through -/

/-- A delivery stays sealed, and halted, if it was. -/
structure Bides (d d' : Event.Delivery) : Prop where
  isSealed : Sealed d → Sealed d'
  halted : Halted d → Halted d'

lemma bides_of_stays {d d' : Event.Delivery} (h : d.Stays d')
    (hc : d.isCancelled → d'.isCancelled) : Bides d d' := by
  refine ⟨fun hs => hs.stays h, fun hh => ⟨hc hh.cancelled, ?_⟩⟩
  exact h.gate.elim (fun hg => hg.trans hh.dropped) id

namespace Shared

variable {P : DeliveryRef → Prop} {s s' : Shared μ}

/-- Every delivery is still there, at its end if it was, and bides if the property holds of it. -/
def Minds (P : DeliveryRef → Prop) (s s' : Shared μ) : Prop :=
  ∀ ref d, s.delivery? ref = some d → ∃ d', s'.delivery? ref = some d' ∧
    (d.stage = .ended → d'.stage = .ended) ∧ (P ref → Bides d d')

lemma minds_of_same (h : s'.deliveries = s.deliveries) : s.Minds P s' :=
  fun ref d hd => ⟨d, (delivery?_congr h ref).trans hd, id, fun _ => ⟨id, id⟩⟩

lemma minds_concat {made : Event.Delivery} (h : s'.deliveries = s.deliveries ++ [made]) :
    s.Minds P s' := by
  intro ref d hd
  refine ⟨d, ?_, id, fun _ => ⟨id, id⟩⟩
  rw [delivery?, h, List.getElem?_append_left (List.getElem?_eq_some_iff.mp hd).1]
  exact hd

lemma minds_modify {other : DeliveryRef} {f : Event.Delivery → Event.Delivery}
    (hs : ∀ d, (f d).stage = d.stage) (hb : P other → ∀ d, Bides d (f d)) :
    s.Minds P { s with deliveries := s.deliveries.modify other.number f } := by
  intro ref d hd
  by_cases he : other = ref
  · subst he
    exact ⟨f d, delivery?_modify hd f, fun hended => (hs d).trans hended, fun hp => hb hp d⟩
  · exact ⟨d, (delivery?_modify_ne he rfl).trans hd, id, fun _ => ⟨id, id⟩⟩

lemma minds_deliver (now : Time.Instant) (ref : DeliveryRef) :
    s.Minds P (deliver now ref s).state := by
  intro other d hd
  by_cases he : ref = other
  · subst he
    obtain ⟨next, hm⟩ := moved_deliver now hd
    refine ⟨_, hm.delivery, fun hs => (hm.goes.ended_iff rfl).mpr (.inr hs), fun _ => ?_⟩
    exact ⟨fun hs => (hs.goes hm.goes).2, fun hh => ⟨hh.cancelled, hh.dropped⟩⟩
  · obtain ⟨f, hf⟩ := (deliver_alone now ref s).2
    exact ⟨d, (delivery?_modify_ne he hf).trans hd, id, fun _ => ⟨id, id⟩⟩

lemma Minds.finished (h : s.Minds P s') {ref : DeliveryRef} {d : Event.Delivery}
    (hd : s.delivery? ref = some d) (hf : s.isFinished ref) : s'.isFinished ref := by
  obtain ⟨d', hd', hended, -⟩ := h ref d hd
  exact (isFinished_iff hd').mpr (hended ((isFinished_iff hd).mp hf))

end Shared

/-- A request stands where it has stood as long as what was made for it bides. -/
lemma Applicant.Stands.minds {a : Applicant} {s s' : Shared μ} {P : DeliveryRef → Prop}
    (h : a.Stands s) (hs : s.Minds P s')
    (hp : ∀ ref, a.made = some ref → a.given? = none → P ref) : a.Stands s' := by
  cases h with
  | early stage made => exact .early stage made
  | pending ref d stage made delivery isSealed =>
    obtain ⟨d', hd', -, hb⟩ := hs ref d delivery
    have hnone : a.given? = none := by rcases stage with stage | stage <;> simp [given?, stage]
    exact .pending ref d' stage made hd' ((hb (hp ref made hnone)).isSealed isSealed)
  | ousted ref d stage made delivery isSealed halted =>
    obtain ⟨d', hd', -, hb⟩ := hs ref d delivery
    have hb := hb (hp ref made (by simp [given?, stage]))
    exact .ousted ref d' stage made hd' (hb.isSealed isSealed) (hb.halted halted)
  | refused e stage ended =>
    refine .refused e stage fun ref hm => ?_
    obtain ⟨d, hdelivery, hended⟩ := ended ref hm
    obtain ⟨d', hd', he, -⟩ := hs ref d hdelivery
    exact ⟨d', hd', he hended⟩
  | given ref d stage made delivery =>
    obtain ⟨d', hd', -⟩ := hs ref d delivery
    exact .given ref d' stage made hd'

end Server

end ManagementServer
