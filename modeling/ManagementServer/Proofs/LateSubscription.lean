import ManagementServer.Device.Scripted
import ManagementServer.Proofs.Crowd

/-!
# Subscriptions of sessions that close

Closing a session marks it as closed and then takes its subscription away. A subscription that the
session is given behind that is late: nobody ends it. `Crowd.Settles` is what every move keeps of
all others.
-/

namespace ManagementServer.Server

open Session (DeliveryRef)

variable {μ : Type}

namespace Crowd

variable {x x' : Crowd μ} {as : List Attachment} {a : Attachment} {session : Session.Ref}

/-- The subscription that a session holds. -/
def slot (x : Crowd μ) (session : Session.Ref) : Option DeliveryRef :=
  (x.server.shared.sessions.record session).subscription

def IsClosed (x : Crowd μ) (session : Session.Ref) : Prop :=
  (x.server.shared.sessions.record session).status = .closed

instance (x : Crowd μ) (session : Session.Ref) : Decidable (x.IsClosed session) :=
  inferInstanceAs (Decidable (_ = _))

/-- A subscription that was given to a session in time has ended, or the session holds it and
whoever closes the session is still to take it away, or somebody is about to end it. -/
inductive InTime (x : Crowd μ) (a : Attachment) : Prop where
  | ended (finished : x.server.shared.isFinished a.delivery)
  | held (slot : x.slot a.session = some a.delivery)
      (hand : x.IsClosed a.session → .take a.session ∈ x.hands)
  | cancelled (hand : .cancel a.delivery ∈ x.hands)
  | awaited (hand : .join a.delivery ∈ x.hands)

/-- Somebody is still to take away what a closed session holds, or the session holds nothing, or it
was given that too late. -/
inductive Emptied (x : Crowd μ) (as : List Attachment) (session : Session.Ref) : Prop where
  | taken (hand : .take session ∈ x.hands)
  | empty (slot : x.slot session = none)
  | late (a : Attachment) (mem : a ∈ as) (session_eq : a.session = session) (isLate : a.isLate)
      (slot : x.slot session = some a.delivery)

/-- What becomes of the subscriptions that sessions were given. -/
structure Settles (x : Crowd μ) (as : List Attachment) : Prop where
  inRange : ∀ a ∈ as, a.delivery.number < x.server.shared.deliveries.length
  emptied : ∀ session, x.IsClosed session → x.Emptied as session
  inTime : ∀ a ∈ as, a.isLate = false → x.InTime a

lemma InTime.keeps (h : x.InTime a) (hh : ∀ c ∈ x.hands, c ≠ .done → c ∈ x'.hands)
    (hf : x.server.shared.isFinished a.delivery → x'.server.shared.isFinished a.delivery)
    (hs : x'.slot a.session = x.slot a.session)
    (hc : x'.IsClosed a.session → x.IsClosed a.session) : x'.InTime a := by
  cases h with
  | ended finished => exact .ended (hf finished)
  | held slot hand =>
    exact .held (hs.trans slot) fun hclosed => hh _ (hand (hc hclosed)) Closing.noConfusion
  | cancelled hand => exact .cancelled (hh _ hand Closing.noConfusion)
  | awaited hand => exact .awaited (hh _ hand Closing.noConfusion)

lemma Emptied.keeps (h : x.Emptied as session)
    (hh : .take session ∈ x.hands → .take session ∈ x'.hands)
    (hs : x'.slot session = x.slot session) : x'.Emptied as session := by
  cases h with
  | taken hand => exact .taken (hh hand)
  | empty slot => exact .empty (hs.trans slot)
  | late a mem session_eq isLate slot => exact .late a mem session_eq isLate (hs.trans slot)

lemma Settles.retains (h : x.Settles as) (hr : x.server.shared.Retains x'.server.shared)
    (hh : ∀ c ∈ x.hands, c ≠ .done → c ∈ x'.hands) : x'.Settles as := by
  refine ⟨?_, ?_, ?_⟩
  · exact fun a ha => Nat.lt_of_lt_of_le (h.inRange a ha) hr.length
  · intro session hc
    have hclosed : x.IsClosed session := (hr.sessions.closed session).mp hc
    exact (h.emptied session hclosed).keeps (fun hm => hh _ hm Closing.noConfusion)
      (hr.sessions.subscription session)
  · intro a ha hl
    exact (h.inTime a ha hl).keeps hh (hr.finished _ (h.inRange a ha))
      (hr.sessions.subscription _) (hr.sessions.closed _).mp

lemma Emptied.mono (h : x.Emptied as session) (more : List Attachment) :
    x.Emptied (as ++ more) session := by
  cases h with
  | taken hand => exact .taken hand
  | empty slot => exact .empty slot
  | late a mem session_eq isLate slot =>
    exact .late a (List.mem_append_left _ mem) session_eq isLate slot

/-- A session that is given a subscription held none, or one that has ended. -/
lemma Settles.attaches (h : x.Settles as) (hx : x.Sound) {i : Nat} {l : Loop}
    {request : Protocol.Request} {delivery : DeliveryRef} (hi : x.server.loops[i]? = some l)
    (hp : l.phase = .dispatching request session (.attach delivery))
    (hfree : (x.slot session).all x.server.shared.isFinished)
    (hs : x'.server.shared.sessions =
      x.server.shared.sessions.update session ({ · with subscription := some delivery }))
    (hd : x'.server.shared.deliveries = x.server.shared.deliveries)
    (hh : ∀ c ∈ x.hands, c ≠ .done → c ∈ x'.hands) :
    x'.Settles (as ++ [⟨session, delivery,
      decide ((x.server.shared.sessions.record session).status = .closed)⟩]) := by
  have hmade : delivery.number < x.server.shared.deliveries.length :=
    hx.ranged i l delivery hi (.inl (by rw [hp]; rfl))
  have hseat : session.number < x.server.shared.sessions.records.length :=
    hx.seated i l request session hi (by rw [hp]; rfl)
  have hself : x'.slot session = some delivery := by
    rw [slot, hs, Session.Registry.record_update, if_pos ⟨rfl, hseat⟩]
  have hother : ∀ other, other ≠ session → x'.slot other = x.slot other := by
    intro other hne
    rw [slot, hs, Session.Registry.record_update_of_ne _ _ hne.symm, slot]
  have hclosed : ∀ other, x'.IsClosed other ↔ x.IsClosed other := by
    intro other
    rw [IsClosed, hs, Session.Registry.record_update]
    split <;> rfl
  have hfinished : ∀ ref, x'.server.shared.isFinished ref = x.server.shared.isFinished ref := by
    intro ref
    rw [Shared.isFinished, Shared.delivery?, hd, Shared.isFinished, Shared.delivery?]
  refine ⟨?_, ?_, ?_⟩
  · rw [hd]
    intro a ha
    rcases List.mem_append.mp ha with ha | ha
    · exact h.inRange a ha
    · rw [List.mem_singleton.mp ha]
      exact hmade
  · intro other hc
    have hwas := (hclosed other).mp hc
    by_cases he : other = session
    · subst he
      refine .late _ (List.mem_append_right _ (List.mem_singleton.mpr rfl)) rfl ?_ hself
      exact decide_eq_true hwas
    · have hkept := (h.emptied other hwas).keeps (fun hm => hh _ hm Closing.noConfusion)
        (hother other he)
      exact hkept.mono _
  · intro a ha hl
    rcases List.mem_append.mp ha with ha | ha
    · have hfin : x.server.shared.isFinished a.delivery → x'.server.shared.isFinished a.delivery :=
        fun hf => (hfinished _).trans hf
      by_cases he : a.session = session
      · cases h.inTime a ha hl with
        | ended finished => exact .ended (hfin finished)
        | held hslot =>
          -- It makes way for the new one, which is attached only if it has ended.
          rw [he] at hslot
          rw [hslot] at hfree
          exact .ended (hfin hfree)
        | cancelled hand => exact .cancelled (hh _ hand Closing.noConfusion)
        | awaited hand => exact .awaited (hh _ hand Closing.noConfusion)
      · exact (h.inTime a ha hl).keeps hh hfin (hother _ he) (hclosed _).mp
    · obtain rfl := List.mem_singleton.mp ha
      refine .held hself fun hc => ?_
      exact absurd ((hclosed session).mp hc) (by simpa [IsClosed] using hl)

/-- Whoever marks a session as closed is to take its subscription away next. -/
lemma Settles.marks (h : x.Settles as) (hn : .take session ∈ x'.hands)
    (hs : x'.server.shared = { x.server.shared with
      sessions := x.server.shared.sessions.markClosed session })
    (hh : ∀ c ∈ x.hands, c ≠ .done → c ≠ .mark session → c ∈ x'.hands) : x'.Settles as := by
  have hslot : ∀ other, x'.slot other = x.slot other := by
    intro other
    rw [slot, hs, Session.Registry.markClosed, Session.Registry.record_update]
    split <;> rfl
  have hclosed : ∀ other, x'.IsClosed other → other = session ∨ x.IsClosed other := by
    intro other hc
    by_cases he : session = other
    · exact .inl he.symm
    · rw [IsClosed, hs, Session.Registry.markClosed,
        Session.Registry.record_update_of_ne _ _ he] at hc
      exact .inr hc
  have htake : ∀ other, .take other ∈ x.hands → .take other ∈ x'.hands :=
    fun other hm => hh _ hm Closing.noConfusion Closing.noConfusion
  refine ⟨?_, ?_, ?_⟩
  · rw [hs]
    exact h.inRange
  · intro other hc
    rcases hclosed other hc with rfl | hc
    · exact .taken hn
    · exact (h.emptied other hc).keeps (htake other) (hslot other)
  · intro a ha hl
    cases h.inTime a ha hl with
    | ended finished =>
      refine .ended ?_
      rw [hs]
      exact finished
    | held held hand =>
      refine .held ((hslot _).trans held) fun hc => ?_
      rcases hclosed _ hc with he | hc
      · rw [he]
        exact hn
      · exact htake _ (hand hc)
    | cancelled hand => exact .cancelled (hh _ hand Closing.noConfusion Closing.noConfusion)
    | awaited hand => exact .awaited (hh _ hand Closing.noConfusion Closing.noConfusion)

/-- Whoever takes a subscription away is to cancel it next. -/
lemma Settles.takes (h : x.Settles as)
    (hn : ∀ delivery, x.slot session = some delivery → .cancel delivery ∈ x'.hands)
    (hs : x'.server.shared = { x.server.shared with
      sessions := (x.server.shared.sessions.takeSubscription session).1 })
    (hh : ∀ c ∈ x.hands, c ≠ .done → c ≠ .take session → c ∈ x'.hands) : x'.Settles as := by
  have hself : x'.slot session = none := by
    rw [slot, hs, Session.Registry.subscription_takeSubscription, if_pos rfl]
  have hother : ∀ other, session ≠ other → x'.slot other = x.slot other := by
    intro other hne
    rw [slot, hs, Session.Registry.subscription_takeSubscription, if_neg hne, slot]
  have hclosed : ∀ other, x'.IsClosed other → x.IsClosed other := by
    intro other hc
    rw [IsClosed, hs, Session.Registry.status_takeSubscription] at hc
    exact hc
  have htake : ∀ other, session ≠ other → .take other ∈ x.hands → .take other ∈ x'.hands := by
    intro other hne hm
    exact hh _ hm Closing.noConfusion fun hc => hne (Closing.take.inj hc).symm
  refine ⟨?_, ?_, ?_⟩
  · rw [hs]
    exact h.inRange
  · intro other hc
    by_cases he : session = other
    · exact .empty (he ▸ hself)
    · exact (h.emptied other (hclosed other hc)).keeps (htake other he) (hother other he)
  · intro a ha hl
    cases h.inTime a ha hl with
    | ended finished =>
      refine .ended ?_
      rw [hs]
      exact finished
    | held held hand =>
      by_cases he : session = a.session
      · exact .cancelled (hn _ (he ▸ held))
      · exact .held ((hother _ he).trans held) fun hc => htake _ he (hand (hclosed _ hc))
    | cancelled hand => exact .cancelled (hh _ hand Closing.noConfusion Closing.noConfusion)
    | awaited hand => exact .awaited (hh _ hand Closing.noConfusion Closing.noConfusion)

/-- Whoever cancels a subscription waits for it next, and goes on once it has ended. -/
lemma Settles.waits (h : x.Settles as) {current : Closing}
    (hr : x.server.shared.Retains x'.server.shared) (ht : ∀ session, current ≠ .take session)
    (hc : ∀ delivery, current = .cancel delivery → .join delivery ∈ x'.hands)
    (hj : ∀ delivery, current = .join delivery →
      .join delivery ∈ x'.hands ∨ x.server.shared.isFinished delivery)
    (hh : ∀ c ∈ x.hands, c ≠ .done → c ≠ current → c ∈ x'.hands) : x'.Settles as := by
  have htake : ∀ other, .take other ∈ x.hands → .take other ∈ x'.hands :=
    fun other hm => hh _ hm Closing.noConfusion (ht other).symm
  refine ⟨fun a ha => Nat.lt_of_lt_of_le (h.inRange a ha) hr.length, ?_, ?_⟩
  · intro other hclosed
    exact (h.emptied other ((hr.sessions.closed other).mp hclosed)).keeps (htake other)
      (hr.sessions.subscription other)
  · intro a ha hl
    have hfinished := hr.finished _ (h.inRange a ha)
    cases h.inTime a ha hl with
    | ended finished => exact .ended (hfinished finished)
    | held held hand =>
      refine .held ((hr.sessions.subscription _).trans held) fun hclosed => ?_
      exact htake _ (hand ((hr.sessions.closed _).mp hclosed))
    | cancelled hand =>
      by_cases he : current = .cancel a.delivery
      · exact .awaited (hc _ he)
      · exact .cancelled (hh _ hand Closing.noConfusion (Ne.symm he))
    | awaited hand =>
      by_cases he : current = .join a.delivery
      · rcases hj _ he with hand | finished
        · exact .awaited hand
        · exact .ended (hfinished finished)
      · exact .awaited (hh _ hand Closing.noConfusion (Ne.symm he))

lemma Settles.closes (h : x.Settles as) {current : Closing}
    (hn : (current.step x.server.shared).value ∈ x'.hands)
    (hs : x'.server.shared = (current.step x.server.shared).state)
    (hh : ∀ c ∈ x.hands, c = .done ∨ c = current ∨ c ∈ x'.hands) : x'.Settles as := by
  have hkeep : ∀ c ∈ x.hands, c ≠ .done → c ≠ current → c ∈ x'.hands :=
    fun c hm hd hc => ((hh c hm).resolve_left hd).resolve_left hc
  have hgoes := current.goes_step x.server.shared
  rw [← hs] at hgoes
  generalize (current.step x.server.shared).value = next at hn hgoes
  generalize hx' : x'.server.shared = s' at hgoes
  cases hgoes with
  | marks marked => exact h.marks hn hx' hkeep
  | takes emptied delivery held =>
    refine h.takes ?_ hx' hkeep
    intro other hslot
    obtain rfl := Option.some.inj (held.symm.trans hslot)
    exact hn
  | findsNone emptied held =>
    refine h.takes ?_ hx' hkeep
    intro other hslot
    cases held.symm.trans hslot
  | cancels delivery =>
    refine h.waits ?_ (fun _ => Closing.noConfusion) ?_ (fun _ he => Closing.noConfusion he) hkeep
    · rw [hx']
      exact Shared.retains_modify _ delivery fun _ => rfl
    · rintro other he
      obtain rfl := Closing.cancel.inj he
      exact hn
  | joins delivery finished =>
    refine h.waits ?_ (fun _ => Closing.noConfusion) (fun _ he => Closing.noConfusion he) ?_ hkeep
    · rw [hx']
      exact Shared.retains_of_same rfl rfl
    · rintro other he
      obtain rfl := Closing.join.inj he
      exact .inr finished
  | waits delivery running =>
    refine h.waits ?_ (fun _ => Closing.noConfusion) (fun _ he => Closing.noConfusion he) ?_ hkeep
    · rw [hx']
      exact Shared.retains_of_same rfl rfl
    · rintro other he
      obtain rfl := Closing.join.inj he
      exact .inl hn
  | rests =>
    refine h.waits ?_ (fun _ => Closing.noConfusion) (fun _ he => Closing.noConfusion he)
      (fun _ he => Closing.noConfusion he) hkeep
    rw [hx']
    exact Shared.retains_of_same rfl rfl

variable [Device.DeviceModule μ]

lemma Settles.act (h : x.Settles as) (hx : x.Sound) (m : Move μ) :
    (x.act m).Settles (as ++ (x.attached? m).toList) := by
  have hdeals := x.deals m
  generalize x.act m = x' at hdeals
  generalize x.attached? m = attached at hdeals
  cases hdeals with
  | retains shared hands =>
    rw [Option.toList_none, List.append_nil]
    exact h.retains shared fun c hm hn => (hands c hm).resolve_left hn
  | attaches i l request session delivery found phase free sessions deliveries hands =>
    exact h.attaches hx found phase free sessions deliveries fun c hm hn =>
      (hands c hm).resolve_left hn
  | closes current next shared hands =>
    rw [Option.toList_none, List.append_nil]
    exact h.closes next shared hands

lemma Settles.after (h : x.Settles as) (hx : x.Sound) (moves : List (Move μ)) :
    (x.after moves).Settles (as ++ x.attachments moves) := by
  induction moves generalizing x as with
  | nil =>
    rw [attachments, List.append_nil]
    exact h
  | cons m rest ih =>
    rw [attachments, ← List.append_assoc]
    exact ih (h.act hx m) (hx.act m)

end Crowd

/-- A server before anybody removes a session from it. -/
def Running.alone (s : Running μ) : Crowd μ := ⟨s, []⟩

lemma Running.IsNew.settles {s : Running μ} (h : s.IsNew) : s.alone.Settles [] := by
  refine ⟨nofun, ?_, nofun⟩
  intro session hc
  have hrecord : s.shared.sessions.record session = default := by
    rw [h.shared]
    rfl
  rw [Crowd.IsClosed, Running.alone, hrecord] at hc
  cases hc

/-- Once a session is closed and nobody is still to take its subscription away, what it was given
in time has ended or is waited for, and it holds nothing that it was not given too late. -/
theorem settled_when_closed [Device.DeviceModule μ] (s : Running μ) (h : s.IsNew)
    (moves : List (Crowd.Move μ)) (x : Crowd μ) (hx : s.alone.after moves = x)
    (session : Session.Ref) (hclosed : x.IsClosed session) (hleft : .take session ∉ x.hands) :
    (∀ delivery, x.slot session = some delivery →
      ⟨session, delivery, true⟩ ∈ s.alone.attachments moves) ∧
    ∀ delivery, ⟨session, delivery, false⟩ ∈ s.alone.attachments moves →
      x.server.shared.isFinished delivery ∨ .cancel delivery ∈ x.hands ∨
        .join delivery ∈ x.hands := by
  have hsettles := h.settles.after ⟨h.valid, h.ranged, h.seated⟩ moves
  rw [hx, List.nil_append] at hsettles
  constructor
  · intro delivery hslot
    cases hsettles.emptied session hclosed with
    | taken hand => exact absurd hand hleft
    | empty slot => cases slot.symm.trans hslot
    | late a mem session_eq isLate slot =>
      obtain rfl := Option.some.inj (slot.symm.trans hslot)
      obtain ⟨_, _, _⟩ := a
      obtain rfl : _ = session := session_eq
      obtain rfl : _ = true := isLate
      exact mem
  · intro delivery ha
    cases hsettles.inTime _ ha rfl with
    | ended finished => exact .inl finished
    | held slot hand => exact absurd (hand hclosed) hleft
    | cancelled hand => exact .inr (.inl hand)
    | awaited hand => exact .inr (.inr hand)

/-- A peer subscribes, and its loop comes to where the session is given the subscription. -/
def attachingMoves : List (Crowd.Move Device.ScriptedModule) :=
  let turns : List (Turn Device.ScriptedModule) :=
    [.connect, .send 0 (.hello ⟨"a", "operator", ⟨[Capability.notification]⟩⟩),
      .send 0 (.rpc ⟨"a", some "1", "create-subscription", none, .null⟩)] ++ Turn.steps 0 20
  turns.map .turn

/-- The request is answered, and an event is published and delivered. -/
def streamingMoves : List (Crowd.Move Device.ScriptedModule) :=
  let turns : List (Turn Device.ScriptedModule) :=
    Turn.steps 0 4 ++ [.move .calm (.publish (.at 3 "linkDown" .null))] ++
      List.replicate 8 (.move .calm (.deliver ⟨0⟩))
  turns.map .turn

/-- Another thread removes the session, and closes it as far as it can. -/
def removingMoves : List (Crowd.Move Device.ScriptedModule) :=
  .remove "a" :: List.replicate 4 (.close 0)

/-- The session has its subscription when it is removed, and the delivery comes to its end. -/
def timelyMoves : List (Crowd.Move Device.ScriptedModule) :=
  attachingMoves ++ streamingMoves ++ removingMoves ++
    (List.replicate 4 (.move .calm (.deliver ⟨0⟩))).map .turn ++ [.close 0]

theorem settled_when_closed_timely :
    let start : Running Device.ScriptedModule := .ofHost default
    let x := start.alone.after timelyMoves
    start.IsNew ∧ x.IsClosed ⟨0⟩ ∧ .take ⟨0⟩ ∉ x.hands ∧
      start.alone.attachments timelyMoves = [⟨⟨0⟩, ⟨0⟩, false⟩] ∧
      (∀ c ∈ x.hands, c = .done) ∧
      (∀ delivery, x.slot ⟨0⟩ = some delivery →
        ⟨⟨0⟩, delivery, true⟩ ∈ start.alone.attachments timelyMoves) ∧
      ∀ delivery, ⟨⟨0⟩, delivery, false⟩ ∈ start.alone.attachments timelyMoves →
        x.server.shared.isFinished delivery ∨ .cancel delivery ∈ x.hands ∨
          .join delivery ∈ x.hands := by
  intro start x
  have hnew : start.IsNew := Running.isNew_ofHost default
  have hrun : x.IsClosed ⟨0⟩ ∧ .take ⟨0⟩ ∉ x.hands ∧
      start.alone.attachments timelyMoves = [⟨⟨0⟩, ⟨0⟩, false⟩] ∧ ∀ c ∈ x.hands, c = .done := by
    decide +kernel
  obtain ⟨hclosed, hleft, hattached, hdone⟩ := hrun
  exact ⟨hnew, hclosed, hleft, hattached, hdone,
    settled_when_closed start hnew timelyMoves x rfl ⟨0⟩ hclosed hleft⟩

/-- The session is removed between the request's checks and the subscription. -/
def lateAttachMoves : List (Crowd.Move Device.ScriptedModule) :=
  attachingMoves ++ removingMoves ++ streamingMoves

/-- The request is answered with `ok` and the event is delivered, to a session that is closed and
that nobody closes any more. -/
theorem late_subscription_streams :
    let start : Running Device.ScriptedModule := .ofHost default
    let x := start.alone.after lateAttachMoves
    x.IsClosed ⟨0⟩ ∧ (∀ c ∈ x.hands, c = .done) ∧ (∀ r ∈ x.removals, r.rest = []) ∧
      x.slot ⟨0⟩ = some ⟨0⟩ ∧ x.server.shared.isFinished ⟨0⟩ = false ∧
      start.alone.attachments lateAttachMoves = [⟨⟨0⟩, ⟨0⟩, true⟩] ∧
      (x.server.written ⟨0⟩).map (fun m => (m.isError, m.isNotification)) =
        [(false, false), (false, false), (false, true)] ∧
      ¬ ∀ moves session, (start.alone.after moves).IsClosed session →
        (∀ c ∈ (start.alone.after moves).hands, c = .done) →
          ((start.alone.after moves).slot session).all
            (start.alone.after moves).server.shared.isFinished := by
  intro start x
  have hrun : x.IsClosed ⟨0⟩ ∧ (∀ c ∈ x.hands, c = .done) ∧ (∀ r ∈ x.removals, r.rest = []) ∧
      x.slot ⟨0⟩ = some ⟨0⟩ ∧ x.server.shared.isFinished ⟨0⟩ = false ∧
      start.alone.attachments lateAttachMoves = [⟨⟨0⟩, ⟨0⟩, true⟩] ∧
      (x.server.written ⟨0⟩).map (fun m => (m.isError, m.isNotification)) =
        [(false, false), (false, false), (false, true)] := by
    decide +kernel
  obtain ⟨hclosed, hdone, hrests, hslot, hrunning, hattached, hwritten⟩ := hrun
  refine ⟨hclosed, hdone, hrests, hslot, hrunning, hattached, hwritten, ?_⟩
  intro hall
  have hended : (x.slot ⟨0⟩).all x.server.shared.isFinished :=
    hall lateAttachMoves ⟨0⟩ hclosed hdone
  rw [hslot, Option.all_some, hrunning] at hended
  cases hended

end ManagementServer.Server
