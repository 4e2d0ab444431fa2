import ManagementServer.Proofs.Answers
import ManagementServer.Proofs.DeliveryMoves
import ManagementServer.Proofs.SubscriptionTurns

/-!
# Threads that remove sessions

Sessions are closed by their loops, by loops that kill them, by whoever stops the server, and by
other threads that take them out of the registry: a `Crowd` is a server with such threads beside it.
`Crowd.Deals` lists what a move does to sessions, their subscriptions, and those who close them, and
`Crowd.Sound` is what no move breaks.
-/

namespace ManagementServer

namespace Session.Registry

variable {r : Registry}

lemma Coherent.narrows_detachId (h : r.Coherent) (id : String) : r.Narrows (r.detachId id).1 := by
  unfold detachId
  split
  · exact Std.Refl.refl r
  · rename_i ref hl
    have hid := (h.recorded id ref (h.lookup_iff.mp hl)).2
    have hn := r.narrows_detach ref (by rw [hid]; exact hl)
    rw [hid] at hn
    exact hn

lemma records_detachId (r : Registry) (id : String) : (r.detachId id).1.records = r.records := by
  unfold detachId
  split <;> rfl

end Session.Registry

namespace Server

open Session (DeliveryRef)

variable {μ : Type}

/-! ## Threads that remove sessions -/

/-- A thread that closes the sessions that it has taken out of the registry, one after the other. -/
structure Removal where
  current : Closing
  rest : List Session.Ref
  deriving DecidableEq

/-- The next step of a thread that closes sessions. -/
def Removal.step (r : Removal) : Action (Shared μ) Removal :=
  match r.current, r.rest with
  | .done, [] => pure r
  | .done, session :: rest => pure ⟨.mark session, rest⟩
  | current, rest => do return ⟨← current.step, rest⟩

/-- A server, and threads that remove sessions from it. -/
structure Crowd (μ : Type) where
  server : Running μ
  removals : List Removal

namespace Crowd

/-- A turn of the server, the first step of a thread that removes sessions, or a further one. -/
inductive Move (μ : Type) where
  | turn (t : Turn μ)
  | remove (id : String)
  | removeRef (session : Session.Ref)
  | drain
  | close (index : Nat)

/-- Takes sessions out of the registry, for a thread of its own to close them. -/
def takeOut (f : Session.Registry → Session.Registry × List Session.Ref) (x : Crowd μ) : Crowd μ :=
  let taken := f x.server.shared.sessions
  { server := { x.server with shared := { x.server.shared with sessions := taken.1 } }
    removals := x.removals ++ [⟨.done, taken.2⟩] }

/-- What the threads that close sessions are to do next. -/
def hands (x : Crowd μ) : List Closing :=
  x.server.loops.filterMap (·.phase.closing?) ++ x.server.stopping.closing?.toList ++
    x.removals.map (·.current)

/-- A subscription that a session was given, and whether the session was closed by then. -/
structure Attachment where
  session : Session.Ref
  delivery : DeliveryRef
  isLate : Bool
  deriving DecidableEq

/-- The subscription that a loop is about to give to a session. -/
def attachment? (s : Shared μ) (l : Loop) : Option Attachment :=
  match l.phase with
  | .dispatching _ session (.attach delivery) =>
    if (s.sessions.record session).subscription.all s.isFinished then
      some ⟨session, delivery, decide ((s.sessions.record session).status = .closed)⟩
    else none
  | _ => none

/-- The subscription that a session is given by a move. -/
def attached? (x : Crowd μ) : Move μ → Option Attachment
  | .turn (.move _ (.loop index _)) => x.server.loops[index]?.bind (attachment? x.server.shared)
  | _ => none

variable [Device.DeviceModule μ]

/-- The crowd behind a move. -/
def act (x : Crowd μ) : Move μ → Crowd μ
  | .turn t => { x with server := Turn.act x.server t }
  | .remove id => x.takeOut fun r => ((r.detachId id).1, (r.detachId id).2.toList)
  | .removeRef session =>
    x.takeOut fun r => ((r.detachRef session).1, if (r.detachRef session).2 then [session] else [])
  | .drain => x.takeOut (·.detachAll)
  | .close index =>
    match x.removals[index]? with
    | none => x
    | some r =>
      { server := { x.server with shared := (r.step x.server.shared).state }
        removals := x.removals.set index (r.step x.server.shared).value }

def after (x : Crowd μ) (moves : List (Move μ)) : Crowd μ := moves.foldl act x

/-- The subscriptions that sessions are given by moves that happen one after the other. -/
def attachments (x : Crowd μ) : List (Move μ) → List Attachment
  | [] => []
  | m :: rest => (x.attached? m).toList ++ attachments (x.act m) rest

end Crowd

/-! ## Steps that leave sessions their subscriptions -/

namespace Shared

variable {s s' : Shared μ} {ref : DeliveryRef}

/-- Every session holds what it has held, and a delivery that has ended stays at its end. -/
structure Retains (s s' : Shared μ) : Prop where
  sessions : s.sessions.Holds s'.sessions
  length : s.deliveries.length ≤ s'.deliveries.length
  finished : ∀ ref : DeliveryRef, ref.number < s.deliveries.length →
    s.isFinished ref → s'.isFinished ref

lemma Stays.retains (h : s.Stays s') : s.Retains s' := by
  refine ⟨h.sessions, Nat.le_of_eq h.length.symm, ?_⟩
  intro ref _ hf
  rw [isFinished, Option.all_eq_true] at hf ⊢
  intro d' hd'
  obtain ⟨d, hd, hs⟩ := h.delivery ref d' hd'
  have hended := hf d hd
  rw [Event.Delivery.isFinished] at hended ⊢
  rw [hs.stage]
  exact hended

lemma retains_of_same (hs : s'.sessions = s.sessions) (hd : s'.deliveries = s.deliveries) :
    s.Retains s' := by
  refine (stays_of_same ?_ hd).retains
  rw [hs]
  exact Std.Refl.refl _

lemma isFinished_iff {d : Event.Delivery} (hd : s.delivery? ref = some d) :
    s.isFinished ref ↔ d.stage = .ended := by
  rw [isFinished, hd, Option.all_some, Event.Delivery.isFinished]
  cases d.stage <;> simp

lemma retains_modify (s : Shared μ) (ref : DeliveryRef) {f : Event.Delivery → Event.Delivery}
    (hf : ∀ d, (f d).stage = d.stage) :
    s.Retains { s with deliveries := s.deliveries.modify ref.number f } := by
  refine ⟨Std.Refl.refl _, Nat.le_of_eq (List.length_modify _ _ _).symm, ?_⟩
  intro other hlt hended
  have hd : s.delivery? other = some s.deliveries[other.number] := List.getElem?_eq_getElem hlt
  have hstage := (isFinished_iff hd).mp hended
  rw [isFinished, delivery?, List.getElem?_modify, List.getElem?_eq_getElem hlt]
  by_cases hn : ref.number = other.number
  · simp [hn, Event.Delivery.isFinished, hf, hstage]
  · simp [hn, Event.Delivery.isFinished, hstage]

/-- A delivery at its end does not move. -/
lemma retains_deliver (now : Time.Instant) (ref : DeliveryRef) (s : Shared μ) :
    s.Retains (deliver now ref s).state := by
  obtain ⟨hsessions, f, hf⟩ := deliver_alone now ref s
  refine ⟨?_, Nat.le_of_eq (length_deliver now ref s).symm, ?_⟩
  · rw [hsessions]
    exact Std.Refl.refl _
  · intro other hlt hended
    have hd : s.delivery? other = some s.deliveries[other.number] := List.getElem?_eq_getElem hlt
    by_cases he : other = ref
    · subst he
      have hstage := (isFinished_iff hd).mp hended
      rw [deliver_rest hd (by simp [Event.Delivery.move, hstage])]
      exact hended
    · have hn : ref.number ≠ other.number := by
        intro hc
        exact he (by cases ref; cases other; simpa using hc.symm)
      have hsame : (deliver now ref s).state.delivery? other = s.delivery? other := by
        simp [delivery?, hf, hn]
      rw [isFinished, hsame]
      exact hended

end Shared

namespace Loop

variable {l l' : Loop} {s s' : Shared μ}

/-- A step of a loop that neither gives a session a subscription nor goes on with closing one. -/
lemma Handles.retains (h : l.Handles s l' s')
    (ha : ∀ request session delivery, l.phase = .dispatching request session (.attach delivery) →
      (s.sessions.record session).subscription.all s.isFinished = false)
    (hc : ∀ c, l.phase.closing? = some c → c = .done) : s.Retains s' := by
  cases h with
  | subscribes _ _ _ id subscriber replay _ _ sessions deliveries =>
    refine ⟨?_, by simp [deliveries], ?_⟩
    · rw [sessions]
      exact Std.Refl.refl _
    · intro ref hlt hf
      rw [Shared.isFinished, Shared.delivery?, deliveries, List.getElem?_append_left hlt]
      exact hf
  | attaches request session delivery phase free =>
    rw [ha request session delivery phase] at free
    cases free
  | answers _ _ _ _ _ shared =>
    subst shared
    exact Shared.retains_of_same rfl rfl
  | fails _ _ _ _ _ stays => exact stays.retains
  | opens delivery _ _ shared =>
    subst shared
    exact Shared.retains_modify s delivery fun _ => rfl
  | closes current phase busy => exact absurd (hc current phase) busy
  | rests stays => exact stays.retains

end Loop

/-! ## What a move does -/

namespace Crowd

variable {x x' : Crowd μ} {c : Closing}

lemma mem_hands : c ∈ x.hands ↔
    (∃ (i : Nat) (l : Loop), x.server.loops[i]? = some l ∧ l.phase.closing? = some c) ∨
      x.server.stopping.closing? = some c ∨
        ∃ (i : Nat) (r : Removal), x.removals[i]? = some r ∧ r.current = c := by
  rw [hands, List.mem_append, List.mem_append, List.mem_filterMap, Option.mem_toList, List.mem_map,
    or_assoc]
  refine or_congr ⟨?_, ?_⟩ (or_congr Iff.rfl ⟨?_, ?_⟩)
  · rintro ⟨l, hm, hc⟩
    obtain ⟨i, hi⟩ := List.mem_iff_getElem?.mp hm
    exact ⟨i, l, hi, hc⟩
  · rintro ⟨i, l, hi, hc⟩
    exact ⟨l, List.mem_of_getElem? hi, hc⟩
  · rintro ⟨r, hm, hc⟩
    obtain ⟨i, hi⟩ := List.mem_iff_getElem?.mp hm
    exact ⟨i, r, hi, hc⟩
  · rintro ⟨i, r, hi, hc⟩
    exact ⟨r, List.mem_of_getElem? hi, hc⟩

/-- What a move does to the sessions and to those who close them: it retains what they hold, gives
one of them a subscription, or goes on with closing one. -/
inductive Deals (x x' : Crowd μ) : Option Attachment → Prop
  | retains (shared : x.server.shared.Retains x'.server.shared)
      (hands : ∀ c ∈ x.hands, c = .done ∨ c ∈ x'.hands) : Deals x x' none
  | attaches (i : Nat) (l : Loop) (request : Protocol.Request) (session : Session.Ref)
      (delivery : DeliveryRef) (found : x.server.loops[i]? = some l)
      (phase : l.phase = .dispatching request session (.attach delivery))
      (free : (x.server.shared.sessions.record session).subscription.all
        x.server.shared.isFinished)
      (sessions : x'.server.shared.sessions = x.server.shared.sessions.update session
        ({ · with subscription := some delivery }))
      (deliveries : x'.server.shared.deliveries = x.server.shared.deliveries)
      (hands : ∀ c ∈ x.hands, c = .done ∨ c ∈ x'.hands) :
      Deals x x' (some ⟨session, delivery,
        decide ((x.server.shared.sessions.record session).status = .closed)⟩)
  | closes (current : Closing) (next : (current.step x.server.shared).value ∈ x'.hands)
      (shared : x'.server.shared = (current.step x.server.shared).state)
      (hands : ∀ c ∈ x.hands, c = .done ∨ c = current ∨ c ∈ x'.hands) : Deals x x' none

/-- The loops make their steps, and others close what they were closing. -/
lemma hands_stepped {index : Nat} {l l' : Loop} (hi : x.server.loops[index]? = some l)
    (hl : x'.server.loops = x.server.loops.set index l')
    (hs : x'.server.stopping = x.server.stopping) (hr : x'.removals = x.removals)
    (hc : c ∈ x.hands) : l.phase.closing? = some c ∨ c ∈ x'.hands := by
  rw [mem_hands] at hc
  rcases hc with ⟨j, m, hj, hc⟩ | hc | hc
  · by_cases he : index = j
    · subst he
      obtain rfl := Option.some.inj (hi.symm.trans hj)
      exact .inl hc
    · refine .inr (mem_hands.mpr (.inl ⟨j, m, ?_, hc⟩))
      rw [hl, List.getElem?_set_ne he]
      exact hj
  · refine .inr (mem_hands.mpr (.inr (.inl ?_)))
    rw [hs]
    exact hc
  · refine .inr (mem_hands.mpr (.inr (.inr ?_)))
    rw [hr]
    exact hc

lemma hands_stepped_self {index : Nat} {l l' : Loop} (hi : x.server.loops[index]? = some l)
    (hl : x'.server.loops = x.server.loops.set index l') (hc : l'.phase.closing? = some c) :
    c ∈ x'.hands := by
  refine mem_hands.mpr (.inl ⟨index, l', ?_, hc⟩)
  rw [hl, List.getElem?_set_self (List.getElem?_eq_some_iff.mp hi).1]

lemma attachment?_eq_none {s : Shared μ} {l : Loop}
    (h : ∀ request session delivery, l.phase = .dispatching request session (.attach delivery) →
      (s.sessions.record session).subscription.all s.isFinished = false) :
    attachment? s l = none := by
  unfold attachment?
  split
  · rename_i request session delivery hp
    rw [if_neg]
    rw [h request session delivery hp]
    exact Bool.false_ne_true
  · rfl

/-- A loop that closes a session goes on with that. -/
lemma deals_closing {index : Nat} {l l' : Loop} (hi : x.server.loops[index]? = some l)
    (hl : x'.server.loops = x.server.loops.set index l')
    (hs : x'.server.stopping = x.server.stopping) (hr : x'.removals = x.removals)
    (hstep : l.Handles x.server.shared l' x'.server.shared) (hc : l.phase.closing? = some c)
    (hn : c ≠ .done) : Deals x x' none := by
  have hshared : l'.phase.closing? = some (c.step x.server.shared).value ∧
      x'.server.shared = (c.step x.server.shared).state := by
    cases hstep with
    | closes current phase _ next shared =>
      obtain rfl := Option.some.inj (hc.symm.trans phase)
      exact ⟨next, shared⟩
    | rests _ _ _ _ closing => exact absurd (closing c hc) hn
    | subscribes _ _ _ _ _ _ phase | attaches _ _ _ phase | answers _ _ phase | fails _ _ phase =>
      rw [phase] at hc
      cases hc
    | opens delivery phase =>
      exfalso
      cases hp : l.phase <;> simp_all [Phase.opening?, Phase.closing?]
  refine .closes c (hands_stepped_self hi hl hshared.1) hshared.2 ?_
  intro other hm
  refine .inr ((hands_stepped hi hl hs hr hm).imp_left fun ho => ?_)
  exact Option.some.inj (ho.symm.trans hc)

/-- Taking sessions out of the registry changes no record. -/
lemma deals_takeOut (x : Crowd μ) {f : Session.Registry → Session.Registry × List Session.Ref}
    (hf : (f x.server.shared.sessions).1.records = x.server.shared.sessions.records) :
    Deals x (x.takeOut f) none := by
  have hstays : x.server.shared.Stays (x.takeOut f).server.shared :=
    Shared.stays_of_same (Session.Registry.holds_of_records hf) rfl
  refine .retains hstays.retains ?_
  · intro c hm
    rw [mem_hands] at hm
    refine .inr (mem_hands.mpr (hm.imp_right (Or.imp_right ?_)))
    rintro ⟨i, r, hi, hc⟩
    refine ⟨i, r, ?_, hc⟩
    exact (List.getElem?_append_left (List.getElem?_eq_some_iff.mp hi).1).trans hi

/-- A thread that closes sessions takes the next, or goes on with the one at hand. -/
lemma step_removal (r : Removal) (s : Shared μ) :
    r.current = .done ∧ (r.step s).state = s ∨
      (r.step s).value.current = (r.current.step s).value ∧
        (r.step s).state = (r.current.step s).state := by
  obtain ⟨current, rest⟩ := r
  cases current with
  | done => cases rest <;> exact .inl ⟨rfl, rfl⟩
  | _ => exact .inr ⟨rfl, rfl⟩

variable [Device.DeviceModule μ]

lemma deals_loop {env : Environment} {index size : Nat} {l : Loop}
    (hi : x.server.loops[index]? = some l)
    (hl : x'.server.loops = x.server.loops.set index (l.step env size x.server.shared).value)
    (hs : x'.server.shared = (l.step env size x.server.shared).state)
    (hstop : x'.server.stopping = x.server.stopping) (hr : x'.removals = x.removals) :
    Deals x x' (attachment? x.server.shared l) := by
  have hstep := l.handles_step env size x.server.shared
  rw [← hs] at hstep
  have hhands : ∀ c ∈ x.hands, l.phase.closing? = some c ∨ c ∈ x'.hands :=
    fun c hm => hands_stepped hi hl hstop hr hm
  -- The loop gives a session a subscription, or goes on with closing one, or does neither.
  by_cases hfree : ∃ request session delivery,
      l.phase = .dispatching request session (.attach delivery) ∧
        (x.server.shared.sessions.record session).subscription.all x.server.shared.isFinished
  · obtain ⟨request, session, delivery, hp, hf⟩ := hfree
    obtain ⟨journal, he⟩ :=
      Loop.step_dispatching env size x.server.shared hp fun _ => Dispatch.Stage.noConfusion
    obtain ⟨journal', hattach⟩ :=
      Dispatch.step_attach env Shared.closeConnection l.socket session request hf
    rw [he, hattach] at hs
    have hattached : attachment? x.server.shared l = some ⟨session, delivery,
        decide ((x.server.shared.sessions.record session).status = .closed)⟩ := by
      simp [attachment?, hp, hf]
    rw [hattached]
    refine .attaches index l request session delivery hi hp hf (by rw [hs]) (by rw [hs]) ?_
    intro c hm
    refine .inr ((hhands c hm).resolve_left ?_)
    rw [hp]
    exact nofun
  · have hnone : ∀ request session delivery,
        l.phase = .dispatching request session (.attach delivery) →
          (x.server.shared.sessions.record session).subscription.all
            x.server.shared.isFinished = false := by
      intro request session delivery hp
      by_contra hc
      exact hfree ⟨request, session, delivery, hp, by simpa using hc⟩
    rw [attachment?_eq_none hnone]
    by_cases hbusy : ∃ c, l.phase.closing? = some c ∧ c ≠ .done
    · obtain ⟨c, hc, hn⟩ := hbusy
      exact deals_closing hi hl hstop hr hstep hc hn
    · have hdone : ∀ c, l.phase.closing? = some c → c = .done := by
        intro c hc
        by_contra hn
        exact hbusy ⟨c, hc, hn⟩
      exact .retains (hstep.retains hnone hdone) fun c hm => (hhands c hm).imp_left (hdone c)

lemma deals_turn (x : Crowd μ) (t : Turn μ) :
    Deals x (x.act (.turn t)) (x.attached? (.turn t)) := by
  have hmove := t.handles x.server
  have hr : (x.act (.turn t)).removals = x.removals := rfl
  have hserver : (x.act (.turn t)).server = Turn.act x.server t := rfl
  rw [← hserver] at hmove
  generalize x.act (.turn t) = x' at hmove hr
  have haside : t.IsAside x.server → x.attached? (.turn t) = none := by
    intro ha
    cases t with
    | modules => rfl
    | move env what =>
      cases what with
      | loop index size =>
        have hn : x.server.loops[index]? = none := ha
        rw [attached?, hn]
        rfl
      | deliver => exact ha.elim
      | _ => rfl
  have hsame : x'.server.loops = x.server.loops ∨
      (∃ socket, x'.server.loops = x.server.loops ++ [.start socket]) →
      ∀ c ∈ x.hands, x.server.stopping.closing? = some c ∨ c ∈ x'.hands := by
    intro hl c hm
    rw [mem_hands] at hm
    rcases hm with ⟨i, l, hi, hc⟩ | hc | hc
    · refine .inr (mem_hands.mpr (.inl ⟨i, l, ?_, hc⟩))
      rcases hl with hl | ⟨socket, hl⟩
      · rw [hl]
        exact hi
      · rw [hl, List.getElem?_append_left (List.getElem?_eq_some_iff.mp hi).1]
        exact hi
    · exact .inl hc
    · refine .inr (mem_hands.mpr (.inr (.inr ?_)))
      rw [hr]
      exact hc
  cases hmove with
  | steps env index size l turn found loops shared stopping =>
    subst turn
    rw [attached?, found]
    exact deals_loop found loops shared stopping hr
  | delivers env ref turn loops shared stopping =>
    subst turn
    refine .retains ?_ ?_
    · rw [shared]
      exact Shared.retains_deliver env.now ref x.server.shared
    · intro c hm
      refine .inr ((hsame (.inl loops) c hm).elim (fun hc => ?_) id)
      refine mem_hands.mpr (.inr (.inl ?_))
      rw [stopping]
      exact hc
  | closes current aside closing busy next loops shared =>
    rw [haside aside]
    refine .closes current (mem_hands.mpr (.inr (.inl next))) shared ?_
    intro c hm
    refine .inr ((hsame (.inl loops) c hm).imp_left fun hc => ?_)
    exact Option.some.inj (hc.symm.trans closing)
  | rests aside stays loops closing =>
    rw [haside aside]
    refine .retains stays.retains fun c hm => ?_
    rcases hsame loops c hm with hc | hc
    · exact (closing c hc).imp_right fun hc => mem_hands.mpr (.inr (.inl hc))
    · exact .inr hc

lemma deals_close (x : Crowd μ) (index : Nat) : Deals x (x.act (.close index)) none := by
  cases hi : x.removals[index]? with
  | none =>
    have hact : x.act (.close index) = x := by simp [act, hi]
    rw [hact]
    exact .retains (Shared.retains_of_same rfl rfl) fun _ hc => .inr hc
  | some r =>
    have hact : x.act (.close index) =
        { server := { x.server with shared := (r.step x.server.shared).state }
          removals := x.removals.set index (r.step x.server.shared).value } := by
      simp [act, hi]
    have hhands : ∀ c ∈ x.hands, c = r.current ∨ c ∈ (x.act (.close index)).hands := by
      intro c hm
      rw [hact]
      rw [mem_hands] at hm ⊢
      rcases hm with hc | hc | ⟨j, m, hj, hc⟩
      · exact .inr (.inl hc)
      · exact .inr (.inr (.inl hc))
      · by_cases he : index = j
        · subst he
          obtain rfl := Option.some.inj (hi.symm.trans hj)
          exact .inl hc.symm
        · refine .inr (.inr (.inr ⟨j, m, ?_, hc⟩))
          dsimp only
          rw [List.getElem?_set_ne he]
          exact hj
    rcases step_removal r x.server.shared with ⟨hdone, hs⟩ | ⟨hvalue, hs⟩
    · refine .retains ?_ ?_
      · rw [hact]
        dsimp only
        rw [hs]
        exact Shared.retains_of_same rfl rfl
      · rw [hdone] at hhands
        exact hhands
    · refine .closes r.current ?_ ?_ ?_
      · rw [← hvalue, hact, mem_hands]
        refine .inr (.inr ⟨index, _, ?_, rfl⟩)
        exact List.getElem?_set_self (List.getElem?_eq_some_iff.mp hi).1
      · rw [hact]
        exact hs
      · exact fun c hm => .inr (hhands c hm)

lemma deals (x : Crowd μ) (m : Move μ) : Deals x (x.act m) (x.attached? m) := by
  cases m with
  | turn t => exact deals_turn x t
  | remove id =>
    exact x.deals_takeOut (f := fun r => _) (Session.Registry.records_detachId _ id)
  | removeRef session =>
    exact x.deals_takeOut (f := fun r => _) (Session.Registry.records_detachRef _ session)
  | drain => exact deals_takeOut x rfl
  | close index => exact deals_close x index

end Crowd

/-! ## Sessions whose requests are executed -/

namespace Running

/-- A loop executes requests of sessions that were registered. -/
def Seated (s : Running μ) : Prop :=
  ∀ (i : Nat) (l : Loop) (request : Protocol.Request) (session : Session.Ref),
    s.loops[i]? = some l → l.phase.request? = some (request, session) →
      session.number < s.shared.sessions.records.length

lemma IsNew.seated {s : Running μ} (h : s.IsNew) : s.Seated := by
  intro i l request session hi
  rw [h.loops] at hi
  cases hi

variable [Device.DeviceModule μ]

lemma Seated.turn {s : Running μ} (h : s.Seated) (hv : s.Valid) (t : Turn μ) :
    (Turn.act s t).Seated := by
  intro i l' request session hi hr
  have hle := (t.ages s).length
  rcases (t.handles s).loop hi with hi | ⟨socket, rfl⟩ | ⟨env, size, l, found, rfl, -⟩
  · exact Nat.lt_of_lt_of_le (h i l' request session hi hr) hle
  · cases hr
  · apply Nat.lt_of_lt_of_le _ hle
    rcases Loop.request?_step env size s.shared hr with
      ⟨hp, hown, -, -⟩ | ⟨hp, -⟩ | ⟨stage, hp⟩
    · refine ((hv.fits i l found).held session ?_).1
      rw [Loop.held, hp]
      exact hown
    · exact h i l request session found (by rw [hp]; rfl)
    · exact h i l request session found (by rw [hp]; rfl)

end Running

namespace Crowd

variable {x x' : Crowd μ} {as : List Attachment}

/-- Loops, sessions and deliveries belong together, whoever removes sessions. -/
structure Sound (x : Crowd μ) : Prop where
  valid : x.server.Valid
  ranged : x.server.Ranged
  seated : x.server.Seated

lemma Sound.steady (h : x.Sound) (hs : x.server.Steady x'.server)
    (hd : x'.server.shared.deliveries.length = x.server.shared.deliveries.length) : x'.Sound := by
  refine ⟨h.valid.steady hs, ?_, ?_⟩
  · intro i l ref hi hw
    rw [hs.loops] at hi
    rw [hd]
    exact h.ranged i l ref hi hw
  · intro i l request session hi hr
    rw [hs.loops] at hi
    rw [hs.shared.sessions.length]
    exact h.seated i l request session hi hr

lemma Sound.takeOut (h : x.Sound) {f : Session.Registry → Session.Registry × List Session.Ref}
    (hf : x.server.shared.sessions.Narrows (f x.server.shared.sessions).1) :
    (x.takeOut f).Sound := by
  refine h.steady ⟨rfl, List.Sublist.refl _, ?_⟩ rfl
  exact Shared.follows_sessions _ hf

variable [Device.DeviceModule μ]

lemma Sound.act (h : x.Sound) (m : Move μ) : (x.act m).Sound := by
  cases m with
  | turn t => exact ⟨h.valid.turn t, h.ranged.turn t, h.seated.turn h.valid t⟩
  | remove id => exact h.takeOut (f := fun r => _) (h.valid.sound.sessions.narrows_detachId id)
  | removeRef session =>
    exact h.takeOut (f := fun r => _) (Session.Registry.narrows_detachRef _ session)
  | drain => exact h.takeOut (Session.Registry.narrows_detachAll _)
  | close index =>
    cases hi : x.removals[index]? with
    | none =>
      have hact : x.act (.close index) = x := by simp [Crowd.act, hi]
      rw [hact]
      exact h
    | some r =>
      have hact : (x.act (.close index)).server =
          { x.server with shared := (r.step x.server.shared).state } := by
        simp [Crowd.act, hi]
      have hfollows : x.server.shared.Follows (r.step x.server.shared).state ∧
          (r.step x.server.shared).state.deliveries.length =
            x.server.shared.deliveries.length := by
        rcases step_removal r x.server.shared with ⟨-, hs⟩ | ⟨-, hs⟩
        · rw [hs]
          exact ⟨Std.Refl.refl _, rfl⟩
        · rw [hs]
          exact ⟨Closing.keeps_step r.current _, Closing.length_step r.current _⟩
      refine h.steady ?_ ?_
      · rw [hact]
        exact ⟨rfl, List.Sublist.refl _, hfollows.1⟩
      · rw [hact]
        exact hfollows.2

end Crowd

end Server

end ManagementServer
