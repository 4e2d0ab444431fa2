import ManagementServer.Device.Scripted
import ManagementServer.Proofs.SubscriptionDesk

/-!
# Requests to subscribe that are refused

By the time a request to subscribe is refused, it may have subscribed to the bus and made a
delivery. All of that is unwound, and nothing else is touched on the way (`Shared.TouchesOnly`): no
session, no socket, no other delivery, and no other subscriber of the bus. A session is given a
subscription only when the one that it was given before has ended, or is being ended by whoever
closes the session.
-/

namespace ManagementServer

/-- Whoever subscribes to a bus takes nothing away from the others. -/
lemma Event.Bus.pending_subscribe_of_ne {b : Bus} {id : Nat} (h : id ≠ b.nextId)
    (start stop : Option Time.Timestamp) :
    (b.subscribe start stop).1.pending id = b.pending id := by
  by_cases hm : id ∈ b.numbers
  · exact pending_subscribe hm start stop
  · rw [pending_of_not_mem hm, pending_of_not_mem]
    rw [numbers_subscribe, List.mem_append, List.mem_singleton, not_or]
    exact ⟨hm, h⟩

namespace Server

open Event (Bus subscriberBound)
open Session (Registry Ref DeliveryRef)

variable {μ : Type}

/-! ## What a request may touch -/

/-- The number under which a delivery is subscribed, if there is one. -/
def Shared.number? (s : Shared μ) (made : Option DeliveryRef) : Option Nat :=
  made.bind fun ref => (s.ticket? ref).map (·.1)

/-- Nothing is touched but the delivery and its own subscription, whose number nobody had before:
the sessions, the connections, their sockets, and the modules are what they were, and so are the
other deliveries, the other subscribers of the bus, and what waits for them. -/
structure Shared.TouchesOnly (made : Option DeliveryRef) (s s' : Shared μ) : Prop where
  sessions : s'.sessions = s.sessions
  table : s'.table = s.table
  sockets : s'.sockets = s.sockets
  isShuttingDown : s'.isShuttingDown = s.isShuttingDown
  modules : { s'.modules with bus := s.modules.bus } = s.modules
  history : { s'.modules.bus with
    subscribers := s.modules.bus.subscribers, nextId := s.modules.bus.nextId } = s.modules.bus
  deliveries : ∀ ref, made ≠ some ref → s'.delivery? ref = s.delivery? ref
  subscribers : ∀ id, s'.number? made ≠ some id →
    (id ∈ s'.modules.bus.numbers ↔ id ∈ s.modules.bus.numbers) ∧
      s'.modules.bus.pending id = s.modules.bus.pending id
  fresh : ∀ id, s'.number? made = some id → id ∈ s.modules.bus.numbers → s.number? made = some id
  number : ∀ id, s.number? made = some id → s'.number? made = some id

namespace Shared

variable {s s' : Shared μ} {made : Option DeliveryRef} {ref : DeliveryRef} {d : Event.Delivery}

instance : Std.Refl (TouchesOnly (μ := μ) made) :=
  ⟨fun _ => ⟨rfl, rfl, rfl, rfl, rfl, rfl, fun _ _ => rfl, fun _ _ => ⟨Iff.rfl, rfl⟩,
    fun _ h _ => h, fun _ => id⟩⟩

instance : IsTrans (Shared μ) (TouchesOnly made) := by
  refine ⟨fun s s' s'' h h' => ?_⟩
  have hnumber : ∀ id, s''.number? made ≠ some id → s'.number? made ≠ some id :=
    fun id hne he => hne (h'.number id he)
  refine ⟨h'.sessions.trans h.sessions, h'.table.trans h.table, h'.sockets.trans h.sockets,
    h'.isShuttingDown.trans h.isShuttingDown, ?_, ?_, ?_, ?_, ?_, ?_⟩
  · rw [← h.modules, ← h'.modules]
  · rw [← h.history, ← h'.history]
  · exact fun ref hne => (h'.deliveries ref hne).trans (h.deliveries ref hne)
  · intro id hne
    obtain ⟨hmem', hpending'⟩ := h'.subscribers id hne
    obtain ⟨hmem, hpending⟩ := h.subscribers id (hnumber id hne)
    exact ⟨hmem'.trans hmem, hpending'.trans hpending⟩
  · intro id he hm
    by_cases hmid : s'.number? made = some id
    · exact h.fresh id hmid hm
    · exact absurd (h'.fresh id he ((h.subscribers id hmid).1.mpr hm)) hmid
  · exact fun id he => h'.number id (h.number id he)

lemma number?_of_some (hd : s.delivery? ref = some d) :
    s.number? (some ref) = some d.subscriber := by
  simp [number?, ticket?, hd]

/-- The next delivery is not there yet. -/
lemma number?_of_length (s : Shared μ) : s.number? (some ⟨s.deliveries.length⟩) = none := by
  simp [number?, ticket?, delivery?]

lemma number?_modify {f : Event.Delivery → Event.Delivery}
    (h : s'.deliveries = s.deliveries.modify ref.number f)
    (hf : ∀ d, (f d).subscriber = d.subscriber) (made : Option DeliveryRef) :
    s'.number? made = s.number? made := by
  cases made with
  | none => rfl
  | some other =>
    simp only [number?, ticket?, delivery?, h, List.getElem?_modify, Option.bind_some,
      Option.map_map]
    cases s.deliveries[other.number]? with
    | none => rfl
    | some d =>
      by_cases hn : ref.number = other.number
      · simp [hn, hf]
      · simp [hn]

/-- Something is done to the delivery alone, and it keeps its number. -/
lemma touchesOnly_modify {f : Event.Delivery → Event.Delivery}
    (hf : ∀ d, (f d).subscriber = d.subscriber) :
    s.TouchesOnly (some ref) { s with deliveries := s.deliveries.modify ref.number f } := by
  have hnumber : number? { s with deliveries := s.deliveries.modify ref.number f } (some ref) =
      s.number? (some ref) := number?_modify rfl hf _
  refine ⟨rfl, rfl, rfl, rfl, rfl, rfl, ?_, fun _ _ => ⟨Iff.rfl, rfl⟩, ?_, ?_⟩
  · exact fun other hne => delivery?_modify_ne (fun he => hne (congrArg some he)) rfl
  · exact fun id he _ => hnumber.symm.trans he
  · exact fun id he => hnumber.trans he

/-- The delivery is made, under a number that nobody has. -/
lemma touchesOnly_subscribe (hn : s.modules.bus.nextId ∉ s.modules.bus.numbers)
    (hs : d.subscriber = s.modules.bus.nextId) (start stop : Option Time.Timestamp) :
    s.TouchesOnly (some ⟨s.deliveries.length⟩)
      { s with
        modules := { s.modules with bus := (s.modules.bus.subscribe start stop).1 }
        deliveries := s.deliveries ++ [d] } := by
  have hnumber : number?
      { s with
        modules := { s.modules with bus := (s.modules.bus.subscribe start stop).1 }
        deliveries := s.deliveries ++ [d] } (some ⟨s.deliveries.length⟩) =
      some s.modules.bus.nextId := by
    rw [← hs]
    exact number?_of_some List.getElem?_concat_length
  refine ⟨rfl, rfl, rfl, rfl, rfl, rfl, ?_, ?_, ?_, ?_⟩
  · exact fun other hne => delivery?_concat_of_ne rfl fun he => hne (congrArg some he)
  · intro id hne
    have hid : id ≠ s.modules.bus.nextId := fun he => hne (he ▸ hnumber)
    refine ⟨?_, Bus.pending_subscribe_of_ne hid start stop⟩
    rw [Bus.numbers_subscribe, List.mem_append, List.mem_singleton]
    exact or_iff_left hid
  · intro id he hm
    rw [hnumber] at he
    exact absurd (Option.some.inj he ▸ hm) hn
  · intro id he
    cases s.number?_of_length.symm.trans he

/-- The delivery leaves the bus. -/
lemma touchesOnly_unsubscribe (hd : s.delivery? ref = some d) :
    s.TouchesOnly (some ref)
      { s with modules := { s.modules with bus := s.modules.bus.unsubscribe d.subscriber } } := by
  refine ⟨rfl, rfl, rfl, rfl, rfl, rfl, fun _ _ => rfl, ?_, fun _ he _ => he, fun _ => id⟩
  intro id hne
  have hid : id ≠ d.subscriber := fun he => hne (he ▸ number?_of_some hd)
  exact ⟨Bus.mem_numbers_unsubscribe.trans (and_iff_left hid),
    Bus.pending_unsubscribe_of_ne _ hid⟩

/-- A sealed delivery that moves touches nothing but itself and its own subscription. -/
lemma touchesOnly_deliver (h : Sealed d) (hd : s.delivery? ref = some d) (now : Time.Instant) :
    s.TouchesOnly (some ref) (deliver now ref s).state := by
  rcases h.deliver hd now with hs | ⟨stage, hs⟩ | hs <;> rw [hs]
  · exact Std.Refl.refl s
  · exact touchesOnly_modify fun _ => rfl
  · exact IsTrans.trans _ _ _ (touchesOnly_unsubscribe hd) (touchesOnly_modify fun _ => rfl)

end Shared

/-- A step of a request that is given nothing. -/
lemma Applicant.Steps.touchesOnly {a a' : Applicant} {s s' : Shared μ} (h : a.Steps s a' s')
    (hn : s.modules.bus.nextId ∉ s.modules.bus.numbers) (hg : a'.given? = none)
    {made : Option DeliveryRef} (hm : a'.made = none ∨ a'.made = made) : s.TouchesOnly made s' := by
  cases h with
  | proceeds _ _ _ _ shared | refused _ _ _ _ _ shared | overtaken _ _ _ _ _ _ _ _ shared
  | ends _ _ _ _ _ _ _ _ shared | rests _ shared =>
    rw [shared]
    exact Std.Refl.refl s
  | attaches ref d stage was delivery free next => simp [given?, next] at hg
  | unstarted window e stage was next _ shared =>
    rw [Bus.unsubscribe_subscribe hn] at shared
    rw [shared]
    exact ⟨rfl, rfl, rfl, rfl, rfl, rfl, fun _ _ => rfl, fun _ _ => ⟨Iff.rfl, rfl⟩,
      fun _ he _ => he, fun _ => id⟩
  | subscribes window stage was next hmade shared =>
    have hmade : made = some ⟨s.deliveries.length⟩ := by
      rw [hmade] at hm
      exact (hm.resolve_left (Option.some_ne_none _)).symm
    subst hmade
    rw [shared]
    exact Shared.touchesOnly_subscribe hn rfl window.start window.stop
  | withdraws ref d stage was delivery isSealed next hmade shared =>
    have hmade : made = some ref := by
      rw [hmade, was] at hm
      exact (hm.resolve_left (Option.some_ne_none _)).symm
    subst hmade
    rw [shared]
    exact Shared.touchesOnly_modify fun _ => rfl

/-! ## A request and its own moves -/

namespace Desk

/-- The delivery that was made for a request. -/
def made? (x : Desk μ) (i : Nat) : Option DeliveryRef := x.applicants[i]?.bind (·.made)

/-- A move of a request, or of the delivery that was made for it. -/
def IsOwn (x : Desk μ) (i : Nat) : Move μ → Prop
  | .step index _ => index = i
  | .deliver _ ref => x.made? i = some ref
  | _ => False

/-- Nobody moves but a request and its delivery. -/
def OwnRun [Device.DeviceModule μ] (x : Desk μ) (i : Nat) : List (Move μ) → Prop
  | [] => True
  | m :: rest => x.IsOwn i m ∧ OwnRun (x.act m) i rest

/-- What becomes of a request later says what has been given and made for it so far. -/
structure Unserved (x : Desk μ) (i : Nat) (made : Option DeliveryRef) : Prop where
  given : ∀ a, x.applicants[i]? = some a → a.given? = none
  made : ∀ a, x.applicants[i]? = some a → a.made = none ∨ a.made = made

/-- What was made for a request has ended, and neither the bus nor a session knows it. -/
structure Unwound (x : Desk μ) (a : Applicant) : Prop where
  ended : ∀ ref, a.made = some ref → x.shared.isFinished ref
  left : ∀ id, x.shared.number? a.made = some id → id ∉ x.bus.numbers
  free : ∀ session ref, a.made = some ref → x.slot session ≠ some ref

variable {x : Desk μ} {i : Nat} {a a' : Applicant} {ref : DeliveryRef}

lemma Sound.unserved (h : x.Sound) (hi : x.applicants[i]? = some a) (hr : a.isRefused) :
    x.Unserved i a.made := by
  constructor <;> intro b hb <;> obtain rfl := Option.some.inj (hi.symm.trans hb)
  · exact (h.stands i a hi).given_of_refused hr
  · exact .inr rfl

lemma Sound.unwound (h : x.Sound) (hi : x.applicants[i]? = some a) (hr : a.isRefused) :
    x.Unwound a := by
  have hstands := h.stands i a hi
  have hgiven := hstands.given_of_refused hr
  have hended : ∀ ref, a.made = some ref → x.shared.isFinished ref := by
    intro ref hm
    obtain ⟨outcome, ho, he⟩ := Applicant.isRefused_iff.mp hr
    cases hstands with
    | early stage made => cases made.symm.trans hm
    | pending _ _ stage => rcases stage with stage | stage <;> cases stage.symm.trans ho
    | ousted _ _ stage => cases stage.symm.trans ho
    | refused e stage ended =>
      obtain ⟨d, hd, hs⟩ := ended ref hm
      exact (Shared.isFinished_iff hd).mpr hs
    | given other d stage made => simp [Applicant.given?, stage] at hgiven
  refine ⟨hended, ?_, ?_⟩
  · intro id hid hmem
    obtain ⟨ref, hm, hticket⟩ := Option.bind_eq_some_iff.mp hid
    obtain ⟨⟨id', ended⟩, hhas, rfl⟩ := Option.map_eq_some_iff.mp hticket
    rcases (h.numbered.numbers _).mp hmem with hg | ⟨other, hother⟩
    · exact h.numbered.apart ref _ ended hhas hg
    · obtain rfl := h.numbered.unique other ref _ false ended hother hhas
      obtain ⟨d, hd⟩ := hstands.found hm
      have hrunning : d.isFinished = false := by
        rw [Shared.ticket?_of_some hd] at hother
        exact (Prod.mk.inj (Option.some.inj hother)).2
      have hfinished := (Shared.isFinished_iff hd).mp (hended other hm)
      rw [← Event.Delivery.isFinished_iff, hrunning] at hfinished
      cases hfinished
  · intro session ref hm hslot
    obtain ⟨j, b, hj, -, hb⟩ := h.slots session ref hslot
    exact h.not_isGiven hi hm hgiven ⟨j, b, hj, hb⟩

variable [Device.DeviceModule μ]

/-- A move leaves a request where it is, or is a step of it. -/
lemma applicant_act (hi : x.applicants[i]? = some a) (m : Move μ) :
    (x.act m).applicants[i]? = some a ∨
      ∃ env, m = .step i env ∧ (x.act m).applicants[i]? = some (a.step env x.shared).value := by
  have hlt := (List.getElem?_eq_some_iff.mp hi).1
  cases m with
  | step j env =>
    by_cases he : j = i
    · subst he
      refine .inr ⟨env, rfl, ?_⟩
      rw [act_step hi]
      exact List.getElem?_set_self hlt
    · left
      rw [act]
      split
      · exact hi
      · exact (List.getElem?_set_ne he).trans hi
  | ask asking =>
    left
    rw [act]
    split
    · exact (List.getElem?_append_left hlt).trans hi
    · exact hi
  | answer | close | goOn | guest | other =>
    left
    rw [act]
    split <;> exact hi
  | deliver | cancel | renew => exact .inl hi

/-- A request was there before a move, or has just come. -/
lemma applicant_of_act {m : Move μ} (hi : (x.act m).applicants[i]? = some a') :
    (∃ a, x.applicants[i]? = some a) ∨ a'.given? = none := by
  cases m with
  | ask asking =>
    rw [act] at hi
    split at hi
    · rcases Running.Valid.getElem?_concat hi with hi | rfl
      · exact .inl ⟨a', hi⟩
      · exact .inr rfl
    · exact .inl ⟨a', hi⟩
  | step j env =>
    left
    rw [act] at hi
    split at hi
    · exact ⟨a', hi⟩
    · rename_i b hj
      rcases Running.Valid.getElem?_set_cases hi with ⟨rfl, -⟩ | ⟨-, hi⟩
      · exact ⟨b, hj⟩
      · exact ⟨a', hi⟩
  | answer | close | goOn | guest | other =>
    left
    rw [act] at hi
    split at hi <;> exact ⟨a', hi⟩
  | deliver | cancel | renew => exact .inl ⟨a', hi⟩

/-- A session keeps what it was given, and what was made for a request stays its own. -/
lemma applicant_after (hi : x.applicants[i]? = some a) (moves : List (Move μ)) :
    ∃ a', (x.after moves).applicants[i]? = some a' ∧
      (∀ ref, a.given? = some ref → a'.given? = some ref) ∧
        ∀ ref, a.made = some ref → a'.made = some ref := by
  induction moves generalizing x a with
  | nil => exact ⟨a, hi, fun _ => id, fun _ => id⟩
  | cons m rest ih =>
    rcases applicant_act hi m with hi | ⟨env, -, hi'⟩
    · exact ih hi
    · obtain ⟨a', hlast, hgiven, hmade⟩ := ih hi'
      refine ⟨a', hlast, fun ref hg => hgiven ref ?_, fun ref hm => hmade ref ?_⟩
      · unfold Applicant.given? at hg
        split at hg
        · rename_i outcome hs
          rw [Applicant.given?, Applicant.step_done hs]
          exact hg
        · cases hg
      · simp [Applicant.step, hm]

lemma Unserved.before {made : Option DeliveryRef} {moves : List (Move μ)}
    (h : (x.after moves).Unserved i made) : x.Unserved i made := by
  constructor <;> intro a hi <;> obtain ⟨a', hi', hgiven, hmade⟩ := applicant_after hi moves
  · cases hg : a.given? with
    | none => rfl
    | some ref => cases (h.given a' hi').symm.trans (hgiven ref hg)
  · cases hm : a.made with
    | none => exact .inl rfl
    | some ref =>
      refine .inr ?_
      rcases h.made a' hi' with hn | hn
      · cases hn.symm.trans (hmade ref hm)
      · exact (hmade ref hm).symm.trans hn

/-- A move of a request that is given nothing, or of its delivery. -/
lemma Sound.touchesOnly_act (h : x.Sound) {m : Move μ} (ho : x.IsOwn i m)
    {made : Option DeliveryRef} (he : (x.act m).Unserved i made) :
    x.shared.TouchesOnly made (x.act m).shared := by
  cases m with
  | step j env =>
    obtain rfl : j = i := ho
    cases hi : x.applicants[j]? with
    | none =>
      rw [act_step_of_none hi]
      exact Std.Refl.refl _
    | some a =>
      have hsteps := Applicant.steps (h.stands j a hi) (h.asked j a hi).2 env
      have hi' : (x.act (.step j env)).applicants[j]? = some (a.step env x.shared).value := by
        rw [act_step hi]
        exact List.getElem?_set_self (List.getElem?_eq_some_iff.mp hi).1
      have htouches := hsteps.touchesOnly h.numbered.fresh (he.given _ hi') (he.made _ hi')
      rw [act_step hi]
      exact htouches
  | deliver now ref =>
    obtain ⟨a, hi, hm⟩ := Option.bind_eq_some_iff.mp ho
    obtain rfl : made = some ref := by
      rcases he.made a hi with hn | hn
      · cases hn.symm.trans hm
      · exact hn.symm.trans hm
    rw [Desk.act]
    cases h.stands i a hi with
    | early stage none => cases none.symm.trans hm
    | pending other d stage made delivery isSealed | ousted other d stage made delivery isSealed =>
      obtain rfl := Option.some.inj (made.symm.trans hm)
      exact Shared.touchesOnly_deliver isSealed delivery now
    | refused e stage ended =>
      obtain ⟨d, hd, hs⟩ := ended ref hm
      rw [Shared.deliver_rest hd (by simp [Event.Delivery.move, hs])]
      exact Std.Refl.refl _
    | given other d stage made delivery =>
      have hgiven : a.given? = some other := by simp [Applicant.given?, stage]
      cases (he.given a hi).symm.trans hgiven
  | _ => exact ho.elim

/-- Moves of a request that is given nothing, and of its delivery. -/
lemma Sound.touchesOnly_after (h : x.Sound) {own : List (Move μ)} (ho : x.OwnRun i own)
    {made : Option DeliveryRef} (he : (x.after own).Unserved i made)
    (hn : x.bus.nextId + x.subscriptions own < subscriberBound) :
    x.shared.TouchesOnly made (x.after own).shared := by
  induction own generalizing x with
  | nil => exact Std.Refl.refl _
  | cons m rest ih =>
    rw [subscriptions] at hn
    obtain ⟨hsound, hle⟩ := h.act m (by omega)
    have hrest := ih hsound ho.2 he (by omega)
    exact Trans.trans (h.touchesOnly_act ho.1 (Unserved.before (x := x.act m) he)) hrest

/-- What a request has made in its own moves was not there before them. -/
lemma Sound.number?_of_unmade (h : x.Sound) {own : List (Move μ)} (ho : x.OwnRun i own)
    (hnone : x.made? i = none) (he : (x.after own).Unserved i (some ref))
    (hm : (x.after own).made? i = some ref)
    (hn : x.bus.nextId + x.subscriptions own < subscriberBound) :
    x.shared.number? (some ref) = none := by
  induction own generalizing x with
  | nil => cases hnone.symm.trans hm
  | cons m rest ih =>
    rw [subscriptions] at hn
    obtain ⟨hsound, hle⟩ := h.act m (by omega)
    have hact : (x.act m).Unserved i (some ref) := Unserved.before (x := x.act m) he
    cases hmid : (x.act m).made? i with
    | none =>
      have hlater := ih hsound ho.2 hmid he hm (by omega)
      cases hid : x.shared.number? (some ref) with
      | none => rfl
      | some id => cases hlater.symm.trans ((h.touchesOnly_act ho.1 hact).number id hid)
    | some made =>
      obtain ⟨a', hi', ha'⟩ := Option.bind_eq_some_iff.mp hmid
      obtain rfl : made = ref := by
        rcases hact.made a' hi' with hc | hc
        · cases hc.symm.trans ha'
        · exact Option.some.inj (ha'.symm.trans hc)
      cases m with
      | step j env =>
        obtain rfl : j = i := ho.1
        cases hi : x.applicants[j]? with
        | none =>
          rw [act_step_of_none hi] at hmid
          cases hnone.symm.trans hmid
        | some a =>
          have hwas : a.made = none := by simpa [made?, hi] using hnone
          have hstep : (a.step env x.shared).value.made = some made := by
            rcases applicant_act hi (.step j env) with hc | ⟨env', he', hc⟩
            · obtain rfl := Option.some.inj (hc.symm.trans hi')
              cases hwas.symm.trans ha'
            · cases he'
              obtain rfl := Option.some.inj (hc.symm.trans hi')
              exact ha'
          cases Applicant.steps (h.stands j a hi) (h.asked j a hi).2 env with
          | subscribes window stage was next hmade shared =>
            obtain rfl := Option.some.inj (hmade.symm.trans hstep)
            exact Shared.number?_of_length x.shared
          | rests applicant shared =>
            rw [applicant] at hstep
            cases hwas.symm.trans hstep
          | proceeds _ _ _ hmade | refused _ _ _ _ hmade | unstarted _ _ _ _ _ hmade
          | attaches _ _ _ _ _ _ _ hmade | overtaken _ _ _ _ _ _ _ hmade
          | withdraws _ _ _ _ _ _ _ hmade | ends _ _ _ _ _ _ _ hmade =>
            cases hwas.symm.trans (hmade.symm.trans hstep)
      | deliver => cases hnone.symm.trans hmid
      | _ => exact ho.1.elim

/-- The subscribers of the bus are the same before and behind the moves of a request that is
refused, if nobody else moves. -/
lemma Sound.numbers_of_refused (h : x.Sound) {own : List (Move μ)} (ho : x.OwnRun i own)
    (hnone : x.made? i = none) (hi : (x.after own).applicants[i]? = some a) (hr : a.isRefused)
    (hn : x.bus.nextId + x.subscriptions own < subscriberBound) (id : Nat) :
    id ∈ (x.after own).bus.numbers ↔ id ∈ x.bus.numbers := by
  have hsound := (h.after own hn).1
  have hunserved : (x.after own).Unserved i a.made := hsound.unserved hi hr
  have htouches := h.touchesOnly_after ho hunserved hn
  by_cases hid : (x.after own).shared.number? a.made = some id
  · refine iff_of_false ((hsound.unwound hi hr).left id hid) fun hmem => ?_
    have hwas := htouches.fresh id hid hmem
    cases hm : a.made with
    | none =>
      rw [hm] at hwas
      cases hwas
    | some ref =>
      rw [hm] at hwas hunserved
      have hmade : (x.after own).made? i = some ref := by simp [made?, hi, hm]
      cases (h.number?_of_unmade ho hnone hunserved hmade hn).symm.trans hwas
  · exact (htouches.subscribers id hid).1

/-! ## What a session is given -/

/-- A session is given a subscription. What it has held until now has ended, and so has all that it
was given before, unless somebody is closing the session and ending that. -/
structure Grants (x x' : Desk μ) (session : Ref) (ref : DeliveryRef) : Prop where
  free : (x.slot session).all x.shared.isFinished
  held : x'.slot session = some ref
  earlier : ∀ (j : Nat) (b : Applicant) (other : DeliveryRef), x.applicants[j]? = some b →
    b.asking.session = session → b.given? = some other →
      x.shared.isFinished other ∨ x.IsClosed session ∧ x.IsEnding other

lemma Sound.grants (h : x.Sound) {m : Move μ} (hi : (x.act m).applicants[i]? = some a')
    (hg : a'.given? = some ref) (hnew : ∀ a, x.applicants[i]? = some a → a.given? = none) :
    x.Grants (x.act m) a'.asking.session ref := by
  rcases applicant_of_act hi with ⟨a, ha⟩ | hnone
  swap
  · cases hnone.symm.trans hg
  rcases applicant_act ha m with hsame | ⟨env, rfl, hstep⟩
  · obtain rfl := Option.some.inj (hsame.symm.trans hi)
    cases (hnew a ha).symm.trans hg
  obtain rfl := Option.some.inj (hstep.symm.trans hi)
  have hshared : (x.act (.step i env)).shared = (a.step env x.shared).state := by
    rw [act_step ha]
  have hsteps := Applicant.steps (h.stands i a ha) (h.asked i a ha).2 env
  rw [Applicant.asking_step]
  cases hsteps with
  | attaches made d stage was delivery free next _ shared =>
    obtain rfl : made = ref := by simpa [Applicant.given?, next] using hg
    refine ⟨free, ?_, fun j b other hj hs hb => ?_⟩
    · rw [slot, hshared, shared, Registry.record_update, if_pos ⟨rfl, (h.asked i a ha).1⟩]
    · rcases h.held j b other hj hb with hf | hslot | hc
      · exact .inl hf
      · rw [hs, slot] at hslot
        rw [hslot] at free
        exact .inl free
      · exact .inr (hs ▸ hc)
  | rests applicant =>
    rw [applicant] at hg
    cases (hnew a ha).symm.trans hg
  | proceeds _ _ next => cases (Applicant.given?_of_isEarly next).symm.trans hg
  | refused _ _ _ next | unstarted _ _ _ _ next | ends _ _ _ _ _ _ next =>
    cases (Applicant.given?_of_refusal next).symm.trans hg
  | subscribes _ _ _ next | overtaken _ _ _ _ _ _ next | withdraws _ _ _ _ _ _ next =>
    simp [Applicant.given?, next] at hg

omit [Device.DeviceModule μ] in
/-- What a session was given and what has not ended is what the session holds, unless the session
is closed. -/
lemma Sound.slot_of_running (h : x.Sound) (hi : x.applicants[i]? = some a)
    (hg : a.given? = some ref) (hrunning : ¬ x.shared.isFinished ref)
    (hopen : ¬ x.IsClosed a.asking.session) : x.slot a.asking.session = some ref := by
  rcases h.held i a ref hi hg with hf | hs | ⟨hc, -⟩
  · exact absurd hf hrunning
  · exact hs
  · exact absurd hc hopen

/-! ## A delivery that is waited for -/

end Desk

lemma Shared.ended_of_leaving {s : Shared μ} {ref : DeliveryRef} {d : Event.Delivery}
    (hd : s.delivery? ref = some d) (hs : d.stage = .leaving ∨ d.stage = .ended)
    (now : Time.Instant) :
    ∃ d', (deliver now ref s).state.delivery? ref = some d' ∧ d'.stage = .ended := by
  obtain ⟨next, hm⟩ := moved_deliver now hd
  exact ⟨_, hm.delivery, (hm.goes.ended_iff rfl).mpr hs⟩

/-- A delivery that is told to stop, and whose answer will not come, has ended after two moves. -/
lemma Halted.ends {s : Shared μ} {ref : DeliveryRef} {d : Event.Delivery} (h : Halted d)
    (hs : Sealed d) (hd : s.delivery? ref = some d) (now now' : Time.Instant) :
    (Shared.deliver now' ref (Shared.deliver now ref s).state).state.isFinished ref := by
  obtain ⟨d', hd', hstage⟩ : ∃ d', (Shared.deliver now ref s).state.delivery? ref = some d' ∧
      (d'.stage = .leaving ∨ d'.stage = .ended) := by
    have hgoes : d.move now (s.waiting d) = .go .leaving →
        ∃ d', (Shared.deliver now ref s).state.delivery? ref = some d' ∧
          (d'.stage = .leaving ∨ d'.stage = .ended) := by
      intro hm
      rw [Shared.deliver_go hd hm]
      exact ⟨_, Shared.delivery?_modify hd _, .inl rfl⟩
    have hended : d.stage = .leaving ∨ d.stage = .ended →
        ∃ d', (Shared.deliver now ref s).state.delivery? ref = some d' ∧
          (d'.stage = .leaving ∨ d'.stage = .ended) := by
      intro hl
      obtain ⟨d', hd', he⟩ := Shared.ended_of_leaving hd hl now
      exact ⟨d', hd', .inr he⟩
    have hstage := hs.stage
    cases hat : d.stage with
    | awaiting => exact hgoes (by simp [Event.Delivery.move, hat, h.cancelled])
    | atGate => exact hgoes (by simp [Event.Delivery.move, hat, h.dropped])
    | leaving => exact hended (.inl hat)
    | ended => exact hended (.inr hat)
    | _ =>
      rw [hat] at hstage
      cases hstage
  obtain ⟨d'', hd'', hended⟩ := Shared.ended_of_leaving hd' hstage now'
  exact (Shared.isFinished_iff hd'').mpr hended

namespace Desk

variable [Device.DeviceModule μ] {x : Desk μ} {i : Nat} {a : Applicant} {ref : DeliveryRef}

/-- A request that waits for its delivery to end is answered once the delivery has moved twice. -/
lemma Sound.answers_overtaken (h : x.Sound) (hi : x.applicants[i]? = some a)
    (hs : a.stage = .awaitRejected ref) (now now' : Time.Instant) (env : Environment) :
    (x.after [.deliver now ref, .deliver now' ref, .step i env]).applicants[i]? =
      some { a with stage := .done (.ofError Dispatch.alreadySubscribed) } := by
  obtain ⟨asking, stage, made⟩ := a
  obtain rfl : stage = .awaitRejected ref := hs
  cases h.stands i _ hi with
  | ousted other d stage made delivery isSealed halted =>
    obtain rfl := Dispatch.Stage.awaitRejected.inj stage
    obtain rfl : _ = some ref := made
    have hended := halted.ends isSealed delivery now now'
    simp only [Desk.after, List.foldl_cons, List.foldl_nil, Desk.act, hi]
    rw [List.getElem?_set_self (List.getElem?_eq_some_iff.mp hi).1]
    simp [Applicant.step, Dispatch.step, hended]
  | early early => cases early
  | pending _ _ stage => rcases stage with stage | stage <;> cases stage
  | refused _ stage => cases stage
  | given _ _ stage => cases stage

/-! ## Every run -/

/-- The subscribers of the bus are its guests and the deliveries that have not ended. A session that
is not closed was given at most one delivery that has not ended, and that is what it holds. -/
structure Settled (x : Desk μ) : Prop where
  numbers : ∀ id, id ∈ x.bus.numbers ↔
    id ∈ x.guests ∨ ∃ ref, x.shared.ticket? ref = some (id, false)
  held : ∀ (i : Nat) (a : Applicant) (ref : DeliveryRef), x.applicants[i]? = some a →
    a.given? = some ref → ¬ x.shared.isFinished ref → ¬ x.IsClosed a.asking.session →
      x.slot a.asking.session = some ref
  single : ∀ (i j : Nat) (a b : Applicant) (ref ref' : DeliveryRef), x.applicants[i]? = some a →
    x.applicants[j]? = some b → a.asking.session = b.asking.session →
      ¬ x.IsClosed a.asking.session → a.given? = some ref → b.given? = some ref' →
        ¬ x.shared.isFinished ref → ¬ x.shared.isFinished ref' → ref = ref'

omit [Device.DeviceModule μ] in
lemma Sound.settled (h : x.Sound) : x.Settled where
  numbers := h.numbered.numbers
  held i a ref hi hg hrunning hopen := h.slot_of_running hi hg hrunning hopen
  single i j a b ref ref' hi hj hs hopen hg hg' hrunning hrunning' := by
    have hslot := h.slot_of_running hi hg hrunning hopen
    rw [hs] at hslot hopen
    exact Option.some.inj (hslot.symm.trans (h.slot_of_running hj hg' hrunning' hopen))

end Desk

/-- However requests to subscribe and all others follow each other, nothing is left of a request
that is refused, whatever point it has come to. Its own moves and those of its delivery have touched
nothing else, nor written anything, and a session that is not closed is given a subscription only
when what it was given before has ended. -/
theorem refused_subscription_unwinds [Device.DeviceModule μ] (modules : Device.Registry μ)
    (hb : ∀ id ∈ modules.bus.numbers, id < modules.bus.nextId) (moves : List (Desk.Move μ))
    (hn : modules.bus.nextId + (Desk.ofModules modules).subscriptions moves < subscriberBound) :
    let start := Desk.ofModules modules
    let last := start.after moves
    (∀ i a, last.applicants[i]? = some a → a.isRefused → last.Unwound a ∧
      ∀ earlier own later, moves = earlier ++ own ++ later →
        let x := start.after earlier
        x.OwnRun i own → x.shared.TouchesOnly a.made (x.after own).shared ∧
          (later = [] → x.made? i = none →
            ∀ id, id ∈ last.bus.numbers ↔ id ∈ x.bus.numbers)) ∧
    (∀ i a ref, last.applicants[i]? = some a → a.stage = .awaitRejected ref →
      ∀ now now' env,
        (last.after [.deliver now ref, .deliver now' ref, .step i env]).applicants[i]? =
          some { a with stage := .done (.ofError Dispatch.alreadySubscribed) }) ∧
    last.Settled ∧
    ∀ (earlier later : List (Desk.Move μ)) (m : Desk.Move μ) (i : Nat) (a : Applicant)
      (ref : DeliveryRef), moves = earlier ++ m :: later →
      let x := start.after earlier
      (x.act m).applicants[i]? = some a → a.given? = some ref →
        (∀ b : Applicant, x.applicants[i]? = some b → b.given? = none) →
          x.Grants (x.act m) a.asking.session ref := by
  intro start last
  have hstart : start.Sound := Desk.sound_ofModules hb
  have hlast : last.Sound := (hstart.after moves hn).1
  refine ⟨fun i a hi hr => ⟨hlast.unwound hi hr, ?_⟩, ?_, hlast.settled, ?_⟩
  · intro earlier own later hmoves x ho
    obtain ⟨hsound, hfew⟩ := hstart.cut (hmoves.trans (List.append_assoc ..)) hn
    have hown : (start.after earlier).bus.nextId + (start.after earlier).subscriptions own <
        subscriberBound := by
      rw [Desk.subscriptions_append] at hfew
      omega
    have hend : last = (x.after own).after later := by
      simp only [last, x, Desk.after, hmoves, List.foldl_append]
    constructor
    · have hunserved := hlast.unserved hi hr
      rw [hend] at hunserved
      exact hsound.touchesOnly_after ho hunserved.before hown
    · rintro rfl hnone
      have hsame : last = x.after own := hend
      rw [hsame] at hi ⊢
      exact hsound.numbers_of_refused ho hnone hi hr hown
  · exact fun i a ref hi hs now now' env => hlast.answers_overtaken hi hs now now' env
  · intro earlier later m i a ref hmoves x hi hg hnew
    exact (hstart.cut hmoves hn).1.grants hi hg hnew

/-- One session asks twice. Both requests are checked before either of them attaches. -/
def overtakingMoves : List (Desk.Move Device.ScriptedModule) :=
  let asking : Asking := ⟨⟨0⟩, ⟨0⟩, ⟨"a", none, "create-subscription", none, .null⟩⟩
  [.other .connect, .other (.register "a" "operator" ⟨[Capability.notification]⟩ ⟨0⟩),
    .ask asking, .ask asking] ++ List.replicate 3 (.step 1 .calm) ++
    List.replicate 5 (.step 0 .calm)

/-- The request that comes second subscribes, finds its session served, and waits for its own
delivery to end. -/
def overtakenMoves : List (Desk.Move Device.ScriptedModule) :=
  List.replicate 3 (.step 1 .calm) ++ List.replicate 2 (.deliver 0 ⟨1⟩) ++ [.step 1 .calm]

theorem refused_subscription_unwinds_overtaken :
    let start : Desk Device.ScriptedModule := .ofModules .empty
    let x := start.after overtakingMoves
    let last := start.after (overtakingMoves ++ overtakenMoves)
    last.slot ⟨0⟩ = some ⟨0⟩ ∧ last.bus.numbers = [0] ∧ last.bus.nextId = 2 ∧ last.Settled ∧
      ∃ a, last.applicants[1]? = some a ∧ a.isRefused ∧ a.made = some ⟨1⟩ ∧ last.Unwound a ∧
        x.shared.TouchesOnly a.made last.shared ∧
          ∀ id, id ∈ last.bus.numbers ↔ id ∈ x.bus.numbers := by
  intro start x last
  have hfew : start.bus.nextId + start.subscriptions (overtakingMoves ++ overtakenMoves) <
      subscriberBound := by
    decide +kernel
  have hcomes : last.slot ⟨0⟩ = some ⟨0⟩ ∧ last.bus.numbers = [0] ∧ last.bus.nextId = 2 ∧
      last.applicants[1]?.any (fun a => a.isRefused && a.made == some ⟨1⟩) ∧
        x.made? 1 = none := by
    decide +kernel
  have hown : x.OwnRun 1 overtakenMoves := by
    refine ⟨rfl, rfl, rfl, ?_, ?_, rfl, trivial⟩ <;> rw [Desk.IsOwn] <;> decide +kernel
  obtain ⟨hslot, hnumbers, hnext, hany, hnone⟩ := hcomes
  obtain ⟨hrefused, -, hsettled, -⟩ := refused_subscription_unwinds .empty nofun _ hfew
  obtain ⟨a, hi, ha⟩ := Option.any_eq_true _ _ |>.mp hany
  obtain ⟨hr, hm⟩ := (Bool.and_eq_true _ _).mp ha
  obtain ⟨hunwound, hsegment⟩ := hrefused 1 a hi hr
  obtain ⟨htouches, hsame⟩ :=
    hsegment overtakingMoves overtakenMoves [] (List.append_nil _).symm hown
  have hlast : last = x.after overtakenMoves := List.foldl_append
  exact ⟨hslot, hnumbers, hnext, hsettled, a, hi, hr, eq_of_beq hm, hunwound, hlast ▸ htouches,
    hsame rfl hnone⟩

/-- A session that was given a subscription asks for another one, past the check that it is active.
Another thread closes it, and takes its subscription from it before ending that. -/
def racingMoves : List (Desk.Move Device.ScriptedModule) :=
  let asking : Asking := ⟨⟨0⟩, ⟨0⟩, ⟨"a", none, "create-subscription", none, .null⟩⟩
  [.other .connect, .other (.register "a" "operator" ⟨[Capability.notification]⟩ ⟨0⟩),
    .ask asking] ++ List.replicate 5 (.step 0 .calm) ++
    [.answer 0 .opened, .ask asking, .close ⟨0⟩, .goOn 0, .goOn 0] ++
    List.replicate 5 (.step 1 .calm)

/-- The place of the session is empty, and it is given the other subscription although the first has
not ended. -/
theorem closing_session_given_another :
    let start : Desk Device.ScriptedModule := .ofModules .empty
    let x := start.after racingMoves
    x.applicants.map (fun a => (a.asking.session, a.given?)) =
        [(⟨0⟩, some ⟨0⟩), (⟨0⟩, some ⟨1⟩)] ∧
      x.IsClosed ⟨0⟩ ∧ .cancel ⟨0⟩ ∈ x.teardowns ∧ x.slot ⟨0⟩ = some ⟨1⟩ ∧
      x.shared.isFinished ⟨0⟩ = false ∧ x.shared.isFinished ⟨1⟩ = false ∧
      ¬ ∀ moves, ∀ a ∈ (start.after moves).applicants, ∀ b ∈ (start.after moves).applicants,
        a.asking.session = b.asking.session → ∀ ref ref', a.given? = some ref →
          b.given? = some ref' → (start.after moves).shared.isFinished ref = false →
            (start.after moves).shared.isFinished ref' = false → ref = ref' := by
  intro start x
  have hrun : x.applicants.map (fun a => (a.asking.session, a.given?)) =
        [(⟨0⟩, some ⟨0⟩), (⟨0⟩, some ⟨1⟩)] ∧
      (x.shared.sessions.record ⟨0⟩).status = .closed ∧ .cancel ⟨0⟩ ∈ x.teardowns ∧
      x.slot ⟨0⟩ = some ⟨1⟩ ∧ x.shared.isFinished ⟨0⟩ = false ∧
      x.shared.isFinished ⟨1⟩ = false := by
    decide +kernel
  obtain ⟨hgiven, hclosed, hending, hslot, hfirst, hsecond⟩ := hrun
  refine ⟨hgiven, hclosed, hending, hslot, hfirst, hsecond, fun hall => ?_⟩
  have hmem : ∀ ref ∈ [⟨0⟩, ⟨1⟩], ∃ a ∈ x.applicants, (a.asking.session, a.given?) =
      (⟨0⟩, some ref) := by
    intro ref hr
    have hpair : (⟨0⟩, some ref) ∈ x.applicants.map fun a => (a.asking.session, a.given?) := by
      rw [hgiven]
      simpa using hr
    exact List.mem_map.mp hpair
  obtain ⟨a, ha, hae⟩ := hmem ⟨0⟩ (by decide)
  obtain ⟨b, hb, hbe⟩ := hmem ⟨1⟩ (by decide)
  obtain ⟨has, hag⟩ := Prod.mk.inj hae
  obtain ⟨hbs, hbg⟩ := Prod.mk.inj hbe
  have hsame := hall racingMoves a ha b hb (has.trans hbs.symm) ⟨0⟩ ⟨1⟩ hag hbg hfirst hsecond
  cases hsame

end Server

end ManagementServer
